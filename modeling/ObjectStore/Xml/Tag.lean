import ObjectStore.Xml.Token

/-!
# Names and attributes of a tag

A tag is a name and, after a blank, attributes. Names may carry a namespace
name before their first colon. Attributes are read one after another, and a
malformed one does not end the reading: it goes on at the next place where an
attribute can start.
-/

namespace ObjectStore.Xml

structure Tag where
  name : Bytes
  tail : Bytes
  deriving DecidableEq, Repr

structure Attribute where
  name : Bytes
  value : Bytes
  deriving DecidableEq, Repr

def Tag.ofInside (inside : Bytes) : Tag :=
  ⟨inside.takeWhile fun b => !isBlankByte b, inside.dropWhile fun b => !isBlankByte b⟩

abbrev colon : UInt8 := 0x3A
abbrev equalsSign : UInt8 := 0x3D

/-- The part of a name after its first colon, or all of it. -/
def localName (name : Bytes) : Bytes :=
  match name.dropWhile (· != colon) with
  | [] => name
  | _ :: rest => rest

/-- The part of a name before its first colon, if it has one. -/
def namespaceName? (name : Bytes) : Option Bytes :=
  if colon ∈ name then some (name.takeWhile (· != colon)) else none

def Tag.localName (t : Tag) : Bytes := Xml.localName t.name

/-! ## Attributes -/

/-- What follows up to the next blank is passed over. -/
def toBlank (bs : Bytes) : Bytes := bs.dropWhile fun b => !isBlankByte b

/-- A quoted value at the front, and what follows it. Without one the error is
the place where reading goes on: the next blank, or the end if a quote is not
closed. -/
def quoted : Bytes → Except Bytes (Bytes × Bytes)
  | [] => .error []
  | q :: rest =>
    if q = doubleQuote ∨ q = singleQuote then
      match rest.dropWhile (· != q) with
      | [] => .error []
      | _ :: after => .ok (rest.takeWhile (· != q), after)
    else .error (toBlank (q :: rest))

/-- The bytes that the name of an attribute is made of, its first byte apart. -/
def inAttributeName (b : UInt8) : Bool := b != equalsSign && !isBlankByte b

/-- What reading finds at one place among the attributes of a tag: an attribute,
unless what stands there is malformed; the names that have been given; and the
bytes that follow. -/
structure AttributeRead where
  found : Option Attribute
  given : List Bytes
  rest : Bytes

/-- Reads the attribute that starts with a byte. Its name must not be among those
given before. -/
def readAttribute (given : List Bytes) (b : UInt8) (bs : Bytes) : AttributeRead :=
  let name := b :: bs.takeWhile inAttributeName
  match (bs.dropWhile inAttributeName).dropWhile isBlankByte with
  | [] => ⟨none, given, []⟩
  | c :: rest =>
    if c ≠ equalsSign then ⟨none, given, c :: rest⟩
    else if name ∈ given then ⟨none, given, toBlank rest⟩
    else
      match quoted (rest.dropWhile isBlankByte) with
      | .ok (value, rest) => ⟨some ⟨name, value⟩, name :: given, rest⟩
      | .error rest => ⟨none, name :: given, rest⟩

/-- Reads attributes, at most `fuel` of them, where a malformed one is `none`.
If they have to be distinct, one with a name given before is malformed too. -/
def scanAttributes (distinct : Bool) : Nat → List Bytes → Bytes → List (Option Attribute)
  | 0, _, _ => []
  | fuel + 1, given, bs =>
    match bs.dropWhile isBlankByte with
    | [] => []
    | b :: rest =>
      let read := readAttribute given b rest
      read.found :: scanAttributes distinct fuel (if distinct then read.given else []) read.rest

/-- The attributes of a tag. Each of them takes a byte at least, so the number
of bytes bounds their number. -/
def Tag.attributes (distinct : Bool) (t : Tag) : List (Option Attribute) :=
  scanAttributes distinct t.tail.length [] t.tail

/-- The attributes of a tag are in order: each is well formed, no two have
one name, and the names, their namespace names apart, are UTF-8. -/
def Tag.attributesValid (t : Tag) : Bool :=
  (t.attributes true).all fun found =>
    match found with
    | none => false
    | some a => (Utf8.decode? (Xml.localName a.name)).isSome

end ObjectStore.Xml
