import ObjectStore.Unicode.CombiningClass
import ObjectStore.Unicode.Decomposition
import Std.Data.HashMap

/-!
# Composed text

The composed form of a text: every character decomposed, the marks at each
character put in the order of their classes, and then each mark put together
with its character where there is one character for both. Texts that mean the
same characters have the same composed form.
-/

namespace ObjectStore.Unicode

def compositionExclusions : CodeSet := .ofLines [
    "344 958-95F 9DC-9DD 9DF A33 A36 A59-A5B A5E B5C-B5D F43 F4D F52 F57 F5C F69 F73 F75-F76",
    "F78 F81 F93 F9D FA2 FA7 FAC FB9 2ADC FB1D FB1F FB2A-FB36 FB38-FB3C FB3E FB40-FB41",
    "FB43-FB44 FB46-FB4E 1D15E-1D164 1D1BB-1D1C0"]

/-- The character decomposes, and its parts are not put together again. -/
def isNeverComposed (n : Nat) : Bool :=
  match decompositions.value? n with
  | some [_] => true
  | some _ => compositionExclusions.has n
  | none => false

def composites : Std.HashMap (Nat × Nat) Nat :=
  decompositions.foldl (fun map range =>
    match range.value with
    | [a, b] => if compositionExclusions.has range.first then map else map.insert (a, b) range.first
    | _ => map) ∅

def composite? (a b : Nat) : Option Nat :=
  let leading := a - Hangul.firstLeading
  let vowel := b - Hangul.firstVowel
  let trailing := b - Hangul.beforeTrailing
  if Hangul.firstLeading ≤ a ∧ leading < 19 ∧ Hangul.firstVowel ≤ b ∧ vowel < 21 then
    some (Hangul.firstSyllable + (leading * 21 + vowel) * 28)
  else if Hangul.isSyllable a ∧ (a - Hangul.firstSyllable) % 28 = 0 ∧
      Hangul.beforeTrailing < b ∧ trailing < 28 then
    some (a + trailing)
  else composites[(a, b)]?

/-! ## Order of marks -/

/-- Puts the marks of each character in the order of their classes. Marks of one
class keep theirs. What is done stands in reverse. -/
def orderMarks (done : List Nat) (ns : List Nat) : List Nat :=
  match ns with
  | [] => done.reverse
  | n :: rest =>
    if combiningClass n = 0 then orderMarks (n :: done) rest
    else
      let marks := n :: rest.takeWhile (combiningClass · ≠ 0)
      let ordered := marks.mergeSort fun a b => combiningClass a ≤ combiningClass b
      orderMarks (ordered.reverse ++ done) (rest.dropWhile (combiningClass · ≠ 0))
termination_by ns.length
decreasing_by
  · simp
  · exact Nat.lt_succ_of_le (List.dropWhile_sublist _).length_le

/-! ## Composing -/

/-- How far composing has come: what is done, the last character that others
combine with, and the marks after it that did not, both lists in reverse. -/
structure Composing where
  done : List Nat
  base : Option Nat
  marks : List Nat

def Composing.all (s : Composing) : List Nat := s.marks ++ s.base.toList ++ s.done

/-- Adds a code point. It combines with the last base unless a mark of its own
class or a higher one stands between them. -/
def Composing.add (s : Composing) (n : Nat) : Composing :=
  let reaches := s.marks.head?.all (combiningClass · < combiningClass n)
  match if reaches then s.base.bind (composite? · n) else none with
  | some c => { s with base := some c }
  | none =>
    if combiningClass n = 0 then ⟨s.all, some n, []⟩ else { s with marks := n :: s.marks }

def composed (ns : List Nat) : List Nat :=
  ((orderMarks [] (ns.flatMap decompose)).foldl Composing.add ⟨[], none, []⟩).all.reverse

end ObjectStore.Unicode
