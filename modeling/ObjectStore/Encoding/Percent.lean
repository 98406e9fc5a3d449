import ObjectStore.Encoding.Hex

/-!
# Percent-encoding

Bytes that may not stand for themselves are written as `%` and two upper-case
digits. Which bytes may differs from place to place, so the class of bytes
that are kept is a parameter. Decoding takes digits of either case, and leaves
a `%` alone that no two digits follow.
-/

namespace ObjectStore.Percent

/-- The byte as `%` and two digits. -/
def escape (b : UInt8) : List Char :=
  ['%', Hex.upperDigit (b.toNat / 16), Hex.upperDigit (b.toNat % 16)]

def encodeByte (kept : UInt8 → Bool) (b : UInt8) : List Char :=
  if kept b then [Char.ofNat b.toNat] else escape b

/-- Bytes with all but the kept ones escaped. -/
def encodeBytes (kept : UInt8 → Bool) (bs : Bytes) : List Char :=
  bs.flatMap (encodeByte kept)

def encode (kept : UInt8 → Bool) (s : String) : String :=
  String.ofList (encodeBytes kept (Utf8.encode s))

def digits? (hi lo : UInt8) : Option UInt8 := do
  let h ← Hex.digit? (Char.ofNat hi.toNat)
  let l ← Hex.digit? (Char.ofNat lo.toNat)
  return UInt8.ofNat (h * 16 + l)

abbrev percentSign : UInt8 := 0x25

def decode : Bytes → Bytes
  | [] => []
  | b :: bs =>
    if b = percentSign then
      match bs with
      | hi :: lo :: rest =>
        match digits? hi lo with
        | some v => v :: decode rest
        | none => b :: decode (hi :: lo :: rest)
      | short => b :: short
    else b :: decode bs

theorem decode_cons_of_ne {b : UInt8} (h : b ≠ percentSign) (bs : Bytes) :
    decode (b :: bs) = b :: decode bs := by
  rw [decode.eq_def]
  exact if_neg h

theorem decode_escape {hi lo v : UInt8} (h : digits? hi lo = some v) (rest : Bytes) :
    decode (percentSign :: hi :: lo :: rest) = v :: decode rest := by
  rw [decode, if_pos rfl, h]

def isAlphanumeric (b : UInt8) : Bool :=
  (0x30 ≤ b && b ≤ 0x39) || (0x41 ≤ b && b ≤ 0x5A) || (0x61 ≤ b && b ≤ 0x7A)

/-- The bytes of an object key that stand for themselves: letters, digits, the
other unreserved characters, and the slash. -/
def keptInKey (b : UInt8) : Bool :=
  isAlphanumeric b || b == 0x2D || b == 0x2E || b == 0x2F || b == 0x5F || b == 0x7E

end ObjectStore.Percent
