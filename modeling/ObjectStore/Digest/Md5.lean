import ObjectStore.Data.Pieces
import ObjectStore.Text.Utf8

/-!
# MD5

The digest of a whole message, and the digest of a message that arrives in
parts. The first cuts the padded message into blocks of 64 bytes; the second
keeps the bytes that do not fill a block until more arrive.
-/

namespace ObjectStore.Md5

structure State where
  a : UInt32
  b : UInt32
  c : UInt32
  d : UInt32
  deriving DecidableEq, Repr

def initial : State := ⟨0x67452301, 0xefcdab89, 0x98badcfe, 0x10325476⟩

/-- The integer part of `2 ^ 32 * |sin (i + 1)|` for each round `i`. -/
def sines : Array UInt32 :=
  #[
    0xd76aa478, 0xe8c7b756, 0x242070db, 0xc1bdceee,
    0xf57c0faf, 0x4787c62a, 0xa8304613, 0xfd469501,
    0x698098d8, 0x8b44f7af, 0xffff5bb1, 0x895cd7be,
    0x6b901122, 0xfd987193, 0xa679438e, 0x49b40821,
    0xf61e2562, 0xc040b340, 0x265e5a51, 0xe9b6c7aa,
    0xd62f105d, 0x02441453, 0xd8a1e681, 0xe7d3fbc8,
    0x21e1cde6, 0xc33707d6, 0xf4d50d87, 0x455a14ed,
    0xa9e3e905, 0xfcefa3f8, 0x676f02d9, 0x8d2a4c8a,
    0xfffa3942, 0x8771f681, 0x6d9d6122, 0xfde5380c,
    0xa4beea44, 0x4bdecfa9, 0xf6bb4b60, 0xbebfbc70,
    0x289b7ec6, 0xeaa127fa, 0xd4ef3085, 0x04881d05,
    0xd9d4d039, 0xe6db99e5, 0x1fa27cf8, 0xc4ac5665,
    0xf4292244, 0x432aff97, 0xab9423a7, 0xfc93a039,
    0x655b59c3, 0x8f0ccc92, 0xffeff47d, 0x85845dd1,
    0x6fa87e4f, 0xfe2ce6e0, 0xa3014314, 0x4e0811a1,
    0xf7537e82, 0xbd3af235, 0x2ad7d2bb, 0xeb86d391]

def rotation (i : Nat) : UInt32 :=
  let row : Array UInt32 :=
    if i < 16 then #[7, 12, 17, 22]
    else if i < 32 then #[5, 9, 14, 20]
    else if i < 48 then #[4, 11, 16, 23]
    else #[6, 10, 15, 21]
  row.getD (i % 4) 0

def rotateLeft (x n : UInt32) : UInt32 := (x <<< n) ||| (x >>> (32 - n))

/-- A word from its bytes, the lowest first. -/
def word (bs : Bytes) : UInt32 :=
  bs.foldr (fun b w => (w <<< 8) ||| b.toUInt32) 0

def wordBytes (w : UInt32) : Bytes :=
  [w.toUInt8, (w >>> 8).toUInt8, (w >>> 16).toUInt8, (w >>> 24).toUInt8]

def round (words : Array UInt32) (s : State) (i : Nat) : State :=
  let (mix, place) :=
    if i < 16 then ((s.b &&& s.c) ||| (~~~s.b &&& s.d), i)
    else if i < 32 then ((s.d &&& s.b) ||| (~~~s.d &&& s.c), (5 * i + 1) % 16)
    else if i < 48 then (s.b ^^^ s.c ^^^ s.d, (3 * i + 5) % 16)
    else (s.c ^^^ (s.b ||| ~~~s.d), 7 * i % 16)
  let sum := s.a + mix + sines.getD i 0 + words.getD place 0
  ⟨s.d, s.b + rotateLeft sum (rotation i), s.b, s.c⟩

/-- Takes one block of 64 bytes into the chaining words. -/
def compress (s : State) (block : Bytes) : State :=
  let words := ((pieces 4 block).map word).toArray
  let t := (List.range 64).foldl (round words) s
  ⟨s.a + t.a, s.b + t.b, s.c + t.c, s.d + t.d⟩

/-- What follows a message of `n` bytes: a one bit, zeros up to eight bytes
short of a block, and the number of bits, lowest byte first. -/
def closing (n : Nat) : Bytes :=
  (0x80 :: List.replicate ((119 - n % 64) % 64) 0 : Bytes) ++
    (List.range 8).map fun i => UInt8.ofNat ((8 * n) >>> (8 * i))

def State.bytes (s : State) : Bytes :=
  wordBytes s.a ++ wordBytes s.b ++ wordBytes s.c ++ wordBytes s.d

def digest (message : Bytes) : Bytes :=
  ((pieces 64 (message ++ closing message.length)).foldl compress initial).bytes

/-! ## Messages in parts -/

/-- A digest under way: the chaining words of the whole blocks seen, the bytes
after them, and the number of bytes seen. -/
structure Context where
  state : State
  pending : Bytes
  length : Nat

/-- Takes the whole blocks off the front of `bs` into the chaining words. -/
def absorb (s : State) (bs : Bytes) : State × Bytes :=
  if bs.drop 63 = [] then (s, bs)
  else absorb (compress s (bs.take 64)) (bs.drop 64)
termination_by bs.length
decreasing_by
  rename_i h
  have : 63 < bs.length := by
    simpa [List.drop_eq_nil_iff] using h
  simp only [List.length_drop]
  omega

def Context.start : Context := ⟨initial, [], 0⟩

def Context.update (c : Context) (part : Bytes) : Context :=
  let (state, pending) := absorb c.state (c.pending ++ part)
  ⟨state, pending, c.length + part.length⟩

def Context.finish (c : Context) : Bytes :=
  ((pieces 64 (c.pending ++ closing c.length)).foldl compress c.state).bytes

/-- The digest of a message that arrives in parts. -/
def digestParts (parts : List Bytes) : Bytes :=
  (parts.foldl Context.update Context.start).finish

end ObjectStore.Md5
