import ObjectStore.Encoding.Punycode
import ObjectStore.Unicode.NameMapping
import ObjectStore.Url.Label

/-!
# Domain names

A domain name is brought into one form before it is used: every character
mapped to the one that stands for it in names, the text composed, and every
label that is not ASCII in Punycode behind `xn--`. A label that is in Punycode
already has to stand for one that is in this form.
-/

namespace ObjectStore.Domain

open Unicode

def isAscii (n : Nat) : Bool := n < 0x80

def fullStop : Nat := 0x2E

def isForbidden (n : Nat) : Bool :=
  n ≤ 0x20 || n == 0x7F || ("%#/:<>?@[\\]^|".toList.map Char.toNat).contains n

/-- A label: the code points it stands for, and how it is written in ASCII. -/
structure Label where
  codes : List Nat
  written : List Char

def marker : List Char := ['x', 'n', '-', '-']

/-- A label of ASCII, which is written as it stands. -/
def Label.plain (label : List Nat) : Label := ⟨label, label.map Char.ofNat⟩

def maxEncodedLength : Nat := 2000

/-- Reads a label that is in Punycode. What it stands for is in the one form
already. -/
def encodedLabel? (written : List Char) : Option Label := do
  let text := written.drop marker.length
  if text.getLast?.all (· = '-') ∨ maxEncodedLength < text.length then none
  else
    let codes := (← Punycode.decode? text).map Char.toNat
    if codes.all (nameMapping · = .kept) ∧ composed codes = codes ∧
        ¬codes.any isForbidden ∧ isValidLabel codes then
      return ⟨codes, written⟩
    else none

def mappedLabel? (label : List Nat) : Option Label :=
  let marked := (marker.map Char.toNat).isPrefixOf label
  if label.all isAscii then
    if marked then encodedLabel? (label.map Char.ofNat) else some (.plain label)
  else if !marked && isValidLabel label then
    some ⟨label, marker ++ Punycode.encode (label.map Char.ofNat)⟩
  else none

def mapAll? (ns : List Nat) : Option (List Nat) :=
  (ns.mapM fun n =>
    match nameMapping n with
    | .kept => some [n]
    | .mapped codes => some codes
    | .refused => none).map List.flatten

/-- Reads what stands between two full stops. A character that is mapped to a
full stop divides it. -/
def labels? (part : List Nat) : Option (List Label) := do
  let mapped ← mapAll? part
  let codes := if part.all isAscii then mapped else composed mapped
  if codes.any isForbidden then none
  else (splitWhere (· == fullStop) codes).mapM mappedLabel?

def normal? (name : Bytes) : Option (List Char) := do
  let codes := (← Utf8.decode? name).map Char.toNat
  let labels := (← (splitWhere (· == fullStop) codes).mapM labels?).flatten
  if labels.any (·.codes.any runsRightToLeft) ∧
      ¬labels.all (keepsOrder ·.codes) then none
  else return ['.'].intercalate (labels.map Label.written)

example : normal? (Utf8.encode "EXAMPLE.com") = some "example.com".toList := by decide +kernel
example : normal? (Utf8.encode "a b") = none := by decide +kernel
example : normal? (Utf8.encode "xn--") = none := by decide +kernel

end ObjectStore.Domain
