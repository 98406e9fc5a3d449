import ObjectStore.Encoding.Hex
import ObjectStore.Text.Split

/-!
# Tables of code points

What a standard says about characters is kept in tables: ranges of code points in
ascending order, each with a value. A table is written as words, a word being
the first and the last code point of a range in hexadecimal digits with a hyphen
between them, or one code point alone, and behind an equals sign the value if
there is one. It is searched by halving.
-/

namespace ObjectStore.Unicode

structure CodeRange (α : Type) where
  first : Nat
  last : Nat
  value : α
  deriving Repr

/-- A table: ranges in ascending order. -/
abbrev CodeTable (α : Type) := Array (CodeRange α)

abbrev CodeSet := CodeTable Unit

namespace CodeTable

variable {α : Type}

/-- Halves the part of a table from `low` on that is `size` ranges long until
it holds the code point or is empty. -/
def search (table : CodeTable α) (n low size : Nat) : Option (CodeRange α) :=
  if size = 0 then none
  else
    let middle := low + size / 2
    match table[middle]? with
    | none => none
    | some range =>
      if n < range.first then table.search n low (size / 2)
      else if n ≤ range.last then some range
      else table.search n (middle + 1) (size - size / 2 - 1)
termination_by size
decreasing_by all_goals omega

def find? (table : CodeTable α) (n : Nat) : Option (CodeRange α) := table.search n 0 table.size

/-- What the table says about a code point. -/
def value? (table : CodeTable α) (n : Nat) : Option α := (table.find? n).map CodeRange.value

def has (table : CodeTable α) (n : Nat) : Bool := (table.find? n).isSome

/-! ## Reading -/

def number (digits : List Char) : Nat := (Hex.value? 16 0x110000 digits).getD 0

def readRange (readValue : List Char → α) (word : List Char) : CodeRange α :=
  let bounds := splitWhere (· == '-') (word.takeWhile (· ≠ '='))
  ⟨number (bounds.head?.getD []), number (bounds.getLast?.getD []),
    readValue ((word.dropWhile (· ≠ '=')).drop 1)⟩

def words (lines : List String) : List (List Char) :=
  lines.flatMap fun line => splitWhere (· == ' ') line.toList

def ofLines (readValue : List Char → α) (lines : List String) : CodeTable α :=
  ((words lines).map (readRange readValue)).toArray

end CodeTable

def CodeSet.ofLines (lines : List String) : CodeSet := CodeTable.ofLines (fun _ => ()) lines

def readCodes (cs : List Char) : List Nat :=
  if cs = [] then [] else (splitWhere (· == '.') cs).map CodeTable.number

end ObjectStore.Unicode
