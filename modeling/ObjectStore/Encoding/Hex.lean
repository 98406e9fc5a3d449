import ObjectStore.Text.Utf8

/-!
# Hexadecimal text

Two digits for each byte. Digits are written in lower case, or in upper case
inside percent-encoded text; both are read.
-/

namespace ObjectStore.Hex

def lowerDigit (n : Nat) : Char :=
  Char.ofNat (if n < 10 then '0'.toNat + n else 'a'.toNat + (n - 10))

def upperDigit (n : Nat) : Char :=
  Char.ofNat (if n < 10 then '0'.toNat + n else 'A'.toNat + (n - 10))

/-- The value of a digit in either case. -/
def digit? (c : Char) : Option Nat :=
  if '0' ≤ c && c ≤ '9' then some (c.toNat - '0'.toNat)
  else if 'a' ≤ c && c ≤ 'f' then some (c.toNat - 'a'.toNat + 10)
  else if 'A' ≤ c && c ≤ 'F' then some (c.toNat - 'A'.toNat + 10)
  else none

/-- The number that digits denote in a base up to sixteen, if they are digits
of it. Numbers above `cap` count as `cap`. -/
def value? (base cap : Nat) (cs : List Char) : Option Nat :=
  cs.foldlM (fun n c => do
    let d ← digit? c
    if d < base then return min (n * base + d) cap else none) 0

def encodeByte (b : UInt8) : List Char :=
  [lowerDigit (b.toNat / 16), lowerDigit (b.toNat % 16)]

def encode (bs : Bytes) : String := String.ofList (bs.flatMap encodeByte)

/-- Text as bytes: two digits for each byte and nothing else. -/
def decode? : List Char → Option Bytes
  | [] => some []
  | [_] => none
  | hi :: lo :: rest => do
    let h ← digit? hi
    let l ← digit? lo
    let bs ← decode? rest
    return UInt8.ofNat (h * 16 + l) :: bs

theorem digit?_lowerDigit : ∀ n : Nat, n < 16 → digit? (lowerDigit n) = some n := by
  decide

theorem digit?_upperDigit : ∀ n : Nat, n < 16 → digit? (upperDigit n) = some n := by
  decide

end ObjectStore.Hex
