import ObjectStore.Data.SortedMap
import ObjectStore.Text.Quoted
import ObjectStore.Text.Utf8

/-!
# Headers

A header has a name, which is a token in lower case, and values, which are
bytes. A header map holds headers in the order in which their names first came
up; a name may have several values. Writing a name replaces its values, and
adding to it puts one more behind them.
-/

namespace ObjectStore

inductive HeaderError where
  | invalidName (name : String)
  | invalidValue (name : String)
  deriving DecidableEq, Repr

def HeaderError.message : HeaderError → String
  | .invalidName name => "invalid header name: `" ++ name ++ "`"
  | .invalidValue name => "invalid value for header `" ++ name ++ "`"

namespace Header

def isTokenChar (c : Char) : Bool :=
  ('0' ≤ c && c ≤ '9') || ('A' ≤ c && c ≤ 'Z') || ('a' ≤ c && c ≤ 'z') ||
    "!#$%&'*+-.^_|~\x60".toList.contains c

def ValidName (name : String) : Prop :=
  name ≠ "" ∧ name.toList.all isTokenChar = true ∧ name.length ≤ 65535

instance (name : String) : Decidable (ValidName name) := by
  unfold ValidName; infer_instance

/-- A name in lower case. Only letters of ASCII have a lower case here. -/
def lowerCase (name : String) : String := String.ofList (name.toList.map Char.toLower)

/-- The name of a header, in lower case. -/
def name? (name : String) : Option String :=
  if ValidName name then some (lowerCase name) else none

/-- A byte that a value may hold: no control except the tab. -/
def isValueByte (b : UInt8) : Bool := b == 0x09 || (0x20 ≤ b && b != 0x7F)

/-- A byte that a value may hold if it is to be read as text. -/
def isTextByte (b : UInt8) : Bool := b == 0x09 || (0x20 ≤ b && b ≤ 0x7E)

def value? (value : Bytes) : Option Bytes :=
  if value.all isValueByte then some value else none

/-- The value as text, if it is visible ASCII, spaces and tabs. -/
def text? (value : Bytes) : Option String :=
  if value.all isTextByte then some (String.ofList (value.map fun b => Char.ofNat b.toNat))
  else none

def showByte (b : UInt8) : List Char :=
  if b = 0x22 then ['\\', '"']
  else if isTextByte b then [Char.ofNat b.toNat]
  else ['\\', 'x'] ++ Nat.toDigits 16 b.toNat

def shown (value : Bytes) : String := "\"" ++ String.ofList (value.flatMap showByte) ++ "\""

end Header

/-- Headers by name, each name with its values in order. -/
structure HeaderMap where
  entries : List (String × List Bytes)
  deriving DecidableEq, Repr

namespace HeaderMap

def empty : HeaderMap := ⟨[]⟩

instance : EmptyCollection HeaderMap := ⟨empty⟩
instance : Inhabited HeaderMap := ⟨empty⟩

/-- Changes the values of a name in place, or puts the name at the end. -/
def alterEntry (name : String) (f : List Bytes → List Bytes) :
    List (String × List Bytes) → List (String × List Bytes)
  | [] => [(name, f [])]
  | (n, vs) :: rest =>
    if n = name then (n, f vs) :: rest else (n, vs) :: alterEntry name f rest

/-- Writes a header, over the values that its name had. -/
def insert (m : HeaderMap) (name : String) (value : Bytes) : HeaderMap :=
  ⟨alterEntry name (fun _ => [value]) m.entries⟩

/-- Adds a value behind those that the name has. -/
def append (m : HeaderMap) (name : String) (value : Bytes) : HeaderMap :=
  ⟨alterEntry name (fun vs => vs ++ [value]) m.entries⟩

def getAll (m : HeaderMap) (name : String) : List Bytes :=
  (m.entries.lookup name).getD []

/-- The first value of a name. -/
def get? (m : HeaderMap) (name : String) : Option Bytes := (m.getAll name).head?

/-- The first value of a name, if it can be read as text. -/
def text? (m : HeaderMap) (name : String) : Option String := (m.get? name).bind Header.text?

def toList (m : HeaderMap) : List (String × Bytes) :=
  m.entries.flatMap fun e => e.2.map fun v => (e.1, v)

/-- Writes one header given as text, provided that it is one. -/
def insertText (m : HeaderMap) (header : String × String) : Except HeaderError HeaderMap :=
  match Header.name? header.1 with
  | none => .error (.invalidName header.1)
  | some name =>
    match Header.value? (Utf8.encode header.2) with
    | none => .error (.invalidValue header.1)
    | some value => .ok (m.insert name value)

/-- The headers that a list of texts gives, the last of one name
counting, or the first fault in the list. -/
def ofTexts (headers : List (String × String)) : Except HeaderError HeaderMap :=
  headers.foldlM insertText empty

def shown (m : HeaderMap) : String :=
  let fields := m.toList.map fun h => Quoted.text h.1 ++ ": " ++ Header.shown h.2
  "\x7b" ++ ", ".intercalate fields ++ "\x7d"

end HeaderMap
end ObjectStore
