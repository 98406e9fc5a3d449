/-!
# UTF-8

The bytes of a text and the text of bytes. Decoding is either strict, and
refuses bytes that are not UTF-8, or lossy, and writes U+FFFD for each
maximal part of a sequence that does not go on to a character.
-/

namespace ObjectStore

abbrev Bytes := List UInt8

namespace Utf8

def encode (s : String) : Bytes := s.toList.flatMap String.utf8EncodeChar

def replacement : Char := Char.ofNat 0xFFFD

/-- What a lead byte asks for: the number of continuation bytes, the range of
the first of them, and the value bits of the lead byte itself. Overlong forms,
surrogates and values above U+10FFFF are excluded by the range. -/
def lead (b : UInt8) : Option (Nat × UInt8 × UInt8 × Nat) :=
  if 0xC2 ≤ b ∧ b ≤ 0xDF then some (1, 0x80, 0xBF, b.toNat - 0xC0)
  else if b = 0xE0 then some (2, 0xA0, 0xBF, 0)
  else if b = 0xED then some (2, 0x80, 0x9F, 0xD)
  else if 0xE1 ≤ b ∧ b ≤ 0xEF then some (2, 0x80, 0xBF, b.toNat - 0xE0)
  else if b = 0xF0 then some (3, 0x90, 0xBF, 0)
  else if b = 0xF4 then some (3, 0x80, 0x8F, 4)
  else if 0xF1 ≤ b ∧ b ≤ 0xF3 then some (3, 0x80, 0xBF, b.toNat - 0xF0)
  else none

/-- Reads continuation bytes, the first of them between `low` and `high`, onto
the value gathered so far. Where one is missing or out of range there is no
value, and the rest starts at the byte that did not fit. -/
def continuation : Nat → UInt8 → UInt8 → Nat → Bytes → Option Nat × Bytes
  | 0, _, _, value, bs => (some value, bs)
  | _ + 1, _, _, _, [] => (none, [])
  | n + 1, low, high, value, b :: bs =>
    if low ≤ b ∧ b ≤ high then
      continuation n 0x80 0xBF (value * 64 + (b.toNat - 0x80)) bs
    else (none, b :: bs)

def next (b : UInt8) (bs : Bytes) : Option Char × Bytes :=
  if b < 0x80 then (some (Char.ofNat b.toNat), bs)
  else
    match lead b with
    | none => (none, bs)
    | some (n, low, high, value) =>
      let (code, rest) := continuation n low high value bs
      (code.map Char.ofNat, rest)

theorem length_continuation_le (n : Nat) (low high : UInt8) (value : Nat) (bs : Bytes) :
    (continuation n low high value bs).2.length ≤ bs.length := by
  fun_induction continuation n low high value bs with
  | case1 => simp
  | case2 => simp
  | case3 n low high value b bs h ih => simp only [List.length_cons]; omega
  | case4 => simp

theorem length_next_le (b : UInt8) (bs : Bytes) : (next b bs).2.length ≤ bs.length := by
  unfold next
  split
  · simp
  · split
    · simp
    · exact length_continuation_le ..

def decode? : Bytes → Option (List Char)
  | [] => some []
  | b :: bs => do
    let c ← (next b bs).1
    let rest ← decode? (next b bs).2
    return c :: rest
termination_by bs => bs.length
decreasing_by exact Nat.lt_succ_of_le (length_next_le b bs)

/-- Lossy decoding: U+FFFD for each part that is not UTF-8. -/
def decodeLossy : Bytes → List Char
  | [] => []
  | b :: bs => (next b bs).1.getD replacement :: decodeLossy (next b bs).2
termination_by bs => bs.length
decreasing_by exact Nat.lt_succ_of_le (length_next_le b bs)

end Utf8
end ObjectStore
