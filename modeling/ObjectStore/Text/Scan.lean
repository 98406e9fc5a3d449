import ObjectStore.Text.Decimal

/-!
# Scanning a fixed form

A scanner takes something off the front of a text or fails. Dates are read by
scanners: their forms fix every position, so nothing is ever tried twice.
-/

namespace ObjectStore

/-- A scanner: what it read and what is left, or failure. -/
abbrev Scan := StateT (List Char) Option

namespace Scan

def run? {α : Type} (p : Scan α) (cs : List Char) : Option α :=
  match StateT.run p cs with
  | some (a, []) => some a
  | _ => none

def charWhere (p : Char → Bool) : Scan Char := fun cs =>
  match cs with
  | c :: rest => if p c then some (c, rest) else none
  | [] => none

def char (c : Char) : Scan Unit := do
  let _ ← charWhere (· == c)

def literal (s : String) : Scan Unit := s.toList.forM char

def digit : Scan Nat := do
  let c ← charWhere Decimal.isDigit
  return c.toNat - '0'.toNat

def digits : Nat → Scan Nat
  | 0 => return 0
  | n + 1 => do
    let d ← digit
    let rest ← digits n
    return d * Nat.pow 10 n + rest

def number (n low high : Nat) : Scan Nat := do
  let v ← digits n
  if low ≤ v ∧ v ≤ high then return v else failure

/-- One of the texts of a list, as its place in the list. -/
def oneOf (names : List String) : Scan Nat := fun cs =>
  match names.findIdx? (fun s => s.toList.isPrefixOf cs) with
  | some i => some (i, cs.drop (names.getD i "").length)
  | none => none

def peek : Scan (Option Char) := fun cs => some (cs.head?, cs)

end Scan
end ObjectStore
