/-!
# Punycode

One label of a domain name as letters, digits and hyphens of ASCII. The ASCII
characters of the label come first, behind them a hyphen, and then where the
others stand: each as the distance from the one before, counted in code points
and places together. Distances are written with digits of base 36 whose
thresholds adapt to the distances seen so far.
-/

namespace ObjectStore.Punycode

def digit (n : Nat) : Char := Char.ofNat (if n < 26 then 0x61 + n else 0x16 + n)

def digit? (c : Char) : Option Nat :=
  if 'a' ≤ c && c ≤ 'z' then some (c.toNat - 0x61)
  else if 'A' ≤ c && c ≤ 'Z' then some (c.toNat - 0x41)
  else if '0' ≤ c && c ≤ '9' then some (c.toNat - 0x16)
  else none

/-- The threshold of the digit at position `36 * i`, `i` counted from 1. -/
def threshold (bias position : Nat) : Nat := max 1 (min 26 (position - bias))

theorem threshold_bounds (bias position : Nat) :
    1 ≤ threshold bias position ∧ threshold bias position ≤ 26 := by
  unfold threshold; omega

/-- Divides by 35 until the value is at most 455, counting the steps. -/
def shrink (delta : Nat) : Nat × Nat :=
  if 455 < delta then
    let (d, steps) := shrink (delta / 35)
    (d, steps + 1)
  else (delta, 0)
termination_by delta
decreasing_by omega

/-- The bias after a distance, of which the first one counts less. -/
def adapt (delta places : Nat) (first : Bool) : Nat :=
  let halved := if first then delta / 700 else delta / 2
  let (d, steps) := shrink (halved + halved / places)
  36 * steps + 36 * d / (d + 38)

/-! ## Writing -/

def distance (bias position q : Nat) : List Char :=
  let t := threshold bias position
  if q < t then [digit q]
  else digit (t + (q - t) % (36 - t)) :: distance bias (position + 36) ((q - t) / (36 - t))
termination_by q
decreasing_by
  have := threshold_bounds bias position
  calc (q - threshold bias position) / (36 - threshold bias position)
      ≤ q - threshold bias position := Nat.div_le_self _ _
    _ < q := by omega

structure Progress where
  delta : Nat
  bias : Nat
  handled : Nat
  first : Bool
  digits : List Char

/-- Passes one character of the label while the characters of code `code` are
being written. -/
def pass (code : Nat) (p : Progress) (c : Char) : Progress :=
  if c.toNat < code then { p with delta := p.delta + 1 }
  else if c.toNat = code then
    ⟨0, adapt p.delta (p.handled + 1) p.first, p.handled + 1, false,
      p.digits ++ distance p.bias 36 p.delta⟩
  else p

/-- Writes the characters of the given codes, the least code first. -/
def writeCodes (label : List Char) : Nat → List Nat → Progress → Progress
  | _, [], p => p
  | next, code :: codes, p =>
    let reached := { p with delta := p.delta + (code - next) * (p.handled + 1) }
    let passed := label.foldl (pass code) reached
    writeCodes label (code + 1) codes { passed with delta := passed.delta + 1 }

def encode (label : List Char) : List Char :=
  let basic := label.filter fun c => c.toNat < 128
  let codes := ((label.map Char.toNat).filter (128 ≤ ·)).eraseDups.mergeSort
  let p := writeCodes label 128 codes ⟨0, 72, basic.length, true, []⟩
  basic ++ (if basic = [] then [] else ['-']) ++ p.digits

/-! ## Reading -/

/-- Reads a distance onto `sum`, each digit worth `weight` more. -/
def readDistance (bias : Nat) : Nat → Nat → Nat → List Char → Option (Nat × List Char)
  | _, _, _, [] => none
  | position, weight, sum, c :: rest => do
    let d ← digit? c
    let t := threshold bias position
    if d < t then return (sum + d * weight, rest)
    else readDistance bias (position + 36) (weight * (36 - t)) (sum + d * weight) rest

/-- Reads at most `fuel` distances, putting each character at its place. -/
def readCharacters : Nat → Nat → Nat → Nat → List Char → List Char → Option (List Char)
  | _, _, _, _, out, [] => some out
  | 0, _, _, _, _, _ => none
  | fuel + 1, bias, code, place, out, digits => do
    let (sum, rest) ← readDistance bias 36 1 place digits
    let places := out.length + 1
    let code := code + sum / places
    if code < 0x110000 ∧ ¬(0xD800 ≤ code ∧ code ≤ 0xDFFF) then
      readCharacters fuel (adapt (sum - place) places (out.all fun c => c.toNat < 128)) code
        (sum % places + 1) (out.insertIdx (sum % places) (Char.ofNat code)) rest
    else none

/-- The label that ASCII text stands for. A distance takes at least one
digit, so the number of digits bounds the number of characters. -/
def decode? (text : List Char) : Option (List Char) :=
  let digits := (text.reverse.takeWhile (· != '-')).reverse
  let basic := text.take (text.length - digits.length - 1)
  readCharacters digits.length 72 128 0 basic digits

example : encode "bücher".toList = "bcher-kva".toList := by decide +kernel
example : decode? "bcher-kva".toList = some "bücher".toList := by decide +kernel
example : decode? "ihqwcrb4cv8a8dqg056pqjye".toList = some "他们为什么不说中文".toList := by
  decide +kernel

end ObjectStore.Punycode
