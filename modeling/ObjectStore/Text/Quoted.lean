import ObjectStore.Text.Printable

/-!
# Quoted text

A text between double quotes, the way a value is shown to a developer. Quotes,
backslashes and the usual blanks are written with a backslash, and a character
that does not show on its own by its code point. A record is shown as its name
and its fields between braces.
-/

namespace ObjectStore.Quoted

def escape (c : Char) : List Char :=
  if c = '"' then ['\\', '"']
  else if c = '\\' then ['\\', '\\']
  else if c = '\n' then ['\\', 'n']
  else if c = '\r' then ['\\', 'r']
  else if c = '\t' then ['\\', 't']
  else if c.toNat = 0 then ['\\', '0']
  else if isPrintable c then [c]
  else ['\\', 'u', '{'] ++ Nat.toDigits 16 c.toNat ++ ['}']

def text (s : String) : String :=
  "\"" ++ String.ofList (s.toList.flatMap escape) ++ "\""

/-- A record: its name, and its fields in order, each already shown. -/
def record (name : String) (fields : List (String × String)) : String :=
  name ++ " \x7b " ++ ", ".intercalate (fields.map fun f => f.1 ++ ": " ++ f.2) ++ " \x7d"

def flag (b : Bool) : String := if b then "true" else "false"

end ObjectStore.Quoted
