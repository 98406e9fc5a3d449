import ObjectStore.Data.Pieces
import ObjectStore.Text.Utf8

/-!
# SHA-1

The padded message is cut into blocks of 64 bytes; each block is spread over
eighty words, one for each round.
-/

namespace ObjectStore.Sha1

structure State where
  a : UInt32
  b : UInt32
  c : UInt32
  d : UInt32
  e : UInt32
  deriving DecidableEq, Repr

def initial : State := ⟨0x67452301, 0xefcdab89, 0x98badcfe, 0x10325476, 0xc3d2e1f0⟩

def rotateLeft (x n : UInt32) : UInt32 := (x <<< n) ||| (x >>> (32 - n))

/-- A word from its bytes, the highest first. -/
def word (bs : Bytes) : UInt32 :=
  bs.foldl (fun w b => (w <<< 8) ||| b.toUInt32) 0

def wordBytes (w : UInt32) : Bytes :=
  [(w >>> 24).toUInt8, (w >>> 16).toUInt8, (w >>> 8).toUInt8, w.toUInt8]

/-- The eighty words of a block: its own sixteen, then each a mix of four
earlier ones. -/
def schedule (block : Bytes) : Array UInt32 :=
  (List.range 64).foldl
    (fun w _ =>
      let n := w.size
      let back (k : Nat) := w.getD (n - k) 0
      w.push (rotateLeft (back 3 ^^^ back 8 ^^^ back 14 ^^^ back 16) 1))
    ((pieces 4 block).map word).toArray

def round (words : Array UInt32) (s : State) (i : Nat) : State :=
  let (mix, constant) : UInt32 × UInt32 :=
    if i < 20 then ((s.b &&& s.c) ||| (~~~s.b &&& s.d), 0x5a827999)
    else if i < 40 then (s.b ^^^ s.c ^^^ s.d, 0x6ed9eba1)
    else if i < 60 then ((s.b &&& s.c) ||| (s.b &&& s.d) ||| (s.c &&& s.d), 0x8f1bbcdc)
    else (s.b ^^^ s.c ^^^ s.d, 0xca62c1d6)
  ⟨rotateLeft s.a 5 + mix + s.e + constant + words.getD i 0,
    s.a, rotateLeft s.b 30, s.c, s.d⟩

def compress (s : State) (block : Bytes) : State :=
  let t := (List.range 80).foldl (round (schedule block)) s
  ⟨s.a + t.a, s.b + t.b, s.c + t.c, s.d + t.d, s.e + t.e⟩

/-- What follows a message of `n` bytes: a one bit, zeros up to eight bytes
short of a block, and the number of bits, highest byte first. -/
def closing (n : Nat) : Bytes :=
  (0x80 :: List.replicate ((119 - n % 64) % 64) 0 : Bytes) ++
    (List.range 8).map fun i => UInt8.ofNat ((8 * n) >>> (8 * (7 - i)))

def State.bytes (s : State) : Bytes :=
  wordBytes s.a ++ wordBytes s.b ++ wordBytes s.c ++ wordBytes s.d ++ wordBytes s.e

def digest (message : Bytes) : Bytes :=
  ((pieces 64 (message ++ closing message.length)).foldl compress initial).bytes

end ObjectStore.Sha1
