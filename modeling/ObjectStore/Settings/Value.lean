import ObjectStore.Text.Decimal

/-!
# Values of a settings file

Settings come from files of several formats; all of them hold values of these
kinds. A record is written as a table, whose unknown entries do not matter, or
as a list of its fields in order.
-/

namespace ObjectStore

/-- A value in a settings file. Numbers that are not written as integers
are all alike, since no setting takes one. -/
inductive SettingValue where
  | null
  | flag (b : Bool)
  | integer (n : Int)
  | fraction
  | text (s : String)
  | list (vs : List SettingValue)
  | table (entries : List (String × SettingValue))
  deriving Inhabited

namespace SettingValue

def text? : SettingValue → Option String
  | .text s => some s
  | _ => none

def natural? : SettingValue → Option Nat
  | .integer n => if 0 ≤ n ∧ n < Decimal.limit64 then some n.toNat else none
  | _ => none

def optionalNatural? : SettingValue → Option (Option Nat)
  | .null => some none
  | v => v.natural?.map some

/-- The fields of a record by their names: each with its value, if it is
there. A list may not be longer than the record. -/
def fields? (names : List String) : SettingValue → Option (List (Option SettingValue))
  | .table entries => some (names.map fun name => entries.lookup name)
  | .list vs =>
    if vs.length ≤ names.length then
      some (vs.map some ++ List.replicate (names.length - vs.length) none)
    else none
  | _ => none

/-- A name out of a list of names: as a text, or as a table with null behind
the name. -/
def name? : SettingValue → Option String
  | .text s => some s
  | .table [(s, .null)] => some s
  | _ => none

end SettingValue
end ObjectStore
