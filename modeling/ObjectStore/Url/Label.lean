import ObjectStore.Unicode.CombiningClass
import ObjectStore.Unicode.Direction
import ObjectStore.Unicode.Joining

/-!
# Labels of domain names

Which sequences of code points may be a label. A label may not start with a
mark. A joiner has to stand where it makes a difference. And if anything in the
name runs from right to left, every label has to keep its order on a line,
whichever way the line runs.
-/

namespace ObjectStore.Domain

open Unicode

def maxLabelLength : Nat := 1000

/-- The joiner that keeps letters apart. -/
def nonJoiner : Nat := 0x200C

/-- The joiner that ties letters together. -/
def joiner : Nat := 0x200D

/-- The code point may stand between what is before it, the nearest first, and
what follows. A joiner has to stand behind a virama; one that keeps letters apart
may also stand between two that would join. -/
def fits (before : List Nat) (n : Nat) (after : List Nat) : Bool :=
  if n = nonJoiner ∨ n = joiner then
    before.head?.any isVirama ||
      (n = nonJoiner && (before.dropWhile isTransparent).head?.any joinsFollowing &&
        (after.dropWhile isTransparent).head?.any joinsPreceding)
  else true

def joinersFit (before : List Nat) : List Nat → Bool
  | [] => true
  | n :: after => fits before n after && joinersFit (n :: before) after

def isValidLabel (label : List Nat) : Bool :=
  !label.head?.any isMark && label.length ≤ maxLabelLength && joinersFit [] label

/-! ## Direction -/

def insideLeft : Direction → Bool
  | .left | .europeanNumber | .europeanSeparator | .commonSeparator | .europeanTerminator
  | .neutral | .boundary | .nonspacing => true
  | _ => false

def insideRight : Direction → Bool
  | .left => false
  | _ => true

def lastLeft : Direction → Bool
  | .left | .europeanNumber => true
  | _ => false

def lastRight : Direction → Bool
  | .right | .arabicLetter | .europeanNumber | .arabicNumber => true
  | _ => false

/-- The classes after the first one keep their order, marks at the end apart.
The classes stand in reverse. -/
def restKeepsOrder (inside last : Direction → Bool) (reversed : List Direction) : Bool :=
  match reversed.dropWhile (· == .nonspacing) with
  | [] => true
  | d :: rest => last d && rest.all inside

/-- The label keeps its order among labels that run from right to left. It
does not hold numbers of both kinds. -/
def keepsOrder (label : List Nat) : Bool :=
  match label.map direction with
  | [] => true
  | .left :: rest => restKeepsOrder insideLeft lastLeft rest.reverse
  | .right :: rest | .arabicLetter :: rest =>
    restKeepsOrder insideRight lastRight rest.reverse &&
      !(rest.contains .europeanNumber && rest.contains .arabicNumber)
  | _ => false

end ObjectStore.Domain
