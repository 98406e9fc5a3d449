import ObjectStore.Text.Decimal
import ObjectStore.Xml.Cursor

/-!
# Records in XML

A record is an element whose children are its fields, each an element named
after the field. Namespace names play no part. What a record may hold is given
by its shape: fields that the shape does not name are passed over, and so is
text between the fields. A field stands at most once; the items of a repeated
field have one name in full and follow each other with nothing but blanks
between them.
-/

namespace ObjectStore.Xml

/-- A field of a record. A nillable one is absent where it, or the record around
it, is declared to be nil. -/
structure Field where
  name : String
  nillable : Bool := false
  repeated : Bool := false
  deriving DecidableEq, Repr

/-- What an element may hold: text alone, or fields. -/
inductive Shape where
  | text
  | record (fields : List (Field × Shape))

inductive Value where
  | absent
  | text (cs : List Char)
  | record (fields : List (String × Value))

/-- The fields of a record that were read, in their order. Each item of a
repeated field stands on its own. -/
abbrev Fields := List (String × Value)

/-! ## Reading -/

/-- A record whose end is still to come. The fields read so far stand in reverse.
While the items of a repeated field are being read, `items` is their name in
full. -/
structure OpenRecord where
  tag : Tag
  shape : List (Field × Shape)
  read : Fields
  items : Option Bytes

namespace OpenRecord

def fresh (tag : Tag) (shape : List (Field × Shape)) : OpenRecord := ⟨tag, shape, [], none⟩

/-- The field that a tag opens, if the record has it. -/
def field? (r : OpenRecord) (tag : Tag) : Option (Field × Shape) :=
  r.shape.find? fun p => Utf8.encode p.1.name = tag.localName

/-- The field may stand here: it is the next item of its kind, or has not been
read yet. -/
def admits (r : OpenRecord) (field : Field) (tag : Tag) : Bool :=
  r.items == some tag.name || !r.read.any (·.1 == field.name)

def put (r : OpenRecord) (field : Field) (tag : Tag) (v : Value) : OpenRecord :=
  { r with
    read := (field.name, v) :: r.read
    items := if field.repeated then some tag.name else none }

/-- The items of the repeated field that was being read come to an end. -/
def endItems (r : OpenRecord) : OpenRecord := { r with items := none }

/-- The element that a tag opens counts as absent. -/
def isAbsent (r : OpenRecord) (field : Field) (tag : Tag) (scope : Scope) : Bool :=
  field.nillable && (r.tag.isNil scope || tag.isNil scope)

end OpenRecord

/-- Reads fields up to the end of the outermost record. Each record around the
current one stands with the field that is being read in it, the innermost
first. -/
def readFields? (current : OpenRecord) (outer : List (OpenRecord × Field)) (c : Cursor) :
    Option Fields :=
  match _hnext : c.next? with
  | none => none
  | some (.finish, rest) =>
    match outer with
    | [] => some current.read.reverse
    | (record, field) :: outer =>
      readFields? (record.put field current.tag (.record current.read.reverse)) outer rest
  | some (.text cs, rest) =>
    readFields? (if cs.all isXmlBlank then current else current.endItems) outer rest
  | some (.start tag, rest) =>
    match current.field? tag with
    | none =>
      match _hpass : rest.pass? tag.name with
      | none => none
      | some rest =>
        if (Utf8.decode? tag.localName).isSome then
          readFields? current.endItems outer rest
        else none
    | some (field, shape) =>
      if !current.admits field tag then none
      else if current.isAbsent field tag rest.scope then
        match _hpass : rest.pass? tag.name with
        | none => none
        | some rest => readFields? (current.put field tag .absent) outer rest
      else
        match shape with
        | .text =>
          match _htext : rest.elementText? with
          | none => none
          | some (cs, rest) => readFields? (current.put field tag (.text cs)) outer rest
        | .record shape =>
          if tag.attributesValid then
            readFields? (.fresh tag shape) ((current, field) :: outer) rest
          else none
termination_by c.ahead.length
decreasing_by
  all_goals have := Cursor.length_next?_lt _hnext
  · exact this
  · exact this
  · exact Nat.lt_of_le_of_lt (Cursor.length_pass?_le _hpass) this
  · exact Nat.lt_of_le_of_lt (Cursor.length_pass?_le _hpass) this
  · exact Nat.lt_of_le_of_lt (Cursor.length_elementText?_le _htext) this
  · exact this

/-- The tag of the root element, and the place after it. Only blank text may
stand before it. -/
def Cursor.root? (c : Cursor) : Option (Tag × Cursor) :=
  match _hnext : c.next? with
  | some (.start tag, rest) => some (tag, rest)
  | some (.text cs, rest) => if cs.all isXmlBlank then rest.root? else none
  | _ => none
termination_by c.ahead.length
decreasing_by exact Cursor.length_next?_lt _hnext

/-- Reads the record that is the root of a document. The name of the root
does not matter, nor does anything after its end. -/
def record? (shape : List (Field × Shape)) (document : Bytes) : Option Fields := do
  let (tag, rest) ← (Cursor.ofDocument document).root?
  if tag.attributesValid then readFields? (.fresh tag shape) [] rest else none

/-! ## Values -/

namespace Fields

def text? (fields : Fields) (name : String) : Option String :=
  match fields.lookup name with
  | some (.text cs) => some (String.ofList cs)
  | _ => none

/-- A number below a bound; blanks around it do not count. -/
def number? (fields : Fields) (bound : Nat) (name : String) : Option Nat :=
  match fields.lookup name with
  | some (.text cs) => Decimal.parse? bound (trimBy isXmlBlank cs)
  | _ => none

/-- A truth value, in words or digits; blanks around it do not count. -/
def flag? (fields : Fields) (name : String) : Option Bool :=
  match fields.lookup name with
  | some (.text cs) =>
    let cs := trimBy isXmlBlank cs
    if cs = "true".toList ∨ cs = "1".toList then some true
    else if cs = "false".toList ∨ cs = "0".toList then some false
    else none
  | _ => none

def record? (fields : Fields) (name : String) : Option Fields :=
  match fields.lookup name with
  | some (.record inner) => some inner
  | _ => none

def records (fields : Fields) (name : String) : List Fields :=
  fields.filterMap fun p =>
    match p.2 with
    | .record inner => if p.1 = name then some inner else none
    | _ => none

end Fields
end ObjectStore.Xml
