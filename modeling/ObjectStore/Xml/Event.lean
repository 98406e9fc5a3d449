import ObjectStore.Encoding.Hex
import ObjectStore.Text.Blank
import ObjectStore.Xml.Tag

/-!
# The events of an XML document

A document is a sequence of events: the start and the end of elements, and the
text between them in pieces. A tag that closes itself is a start and an end.
Every end has to name the element that is open; the sequence stops where one
does not, as it does where the tokens stop. Comments and instructions leave no
trace.
-/

namespace ObjectStore.Xml

inductive Event where
  | start (tag : Tag)
  | finish (name : Bytes)
  | text (raw : Bytes)
  | reference (name : Bytes)
  | documentType
  deriving DecidableEq, Repr

/-! ## Text -/

/-- The character that a numeric reference stands for. It is written with
digits, or with `x` and hexadecimal digits, and it is never U+0000. -/
def numericReference? (digits : List Char) : Option Char := do
  let code ← match digits with
    | [] | ['x'] => none
    | 'x' :: hex => Hex.value? 16 0x110000 hex
    | _ => Hex.value? 10 0x110000 digits
  if code ≠ 0 ∧ code.isValidChar then return Char.ofNat code else none

/-- The character that a reference stands for: one of the five named ones or
a numeric one. -/
def referenced? (name : List Char) : Option Char :=
  match name with
  | '#' :: digits => numericReference? digits
  | _ =>
    if name = "amp".toList then some '&'
    else if name = "lt".toList then some '<'
    else if name = "gt".toList then some '>'
    else if name = "quot".toList then some '"'
    else if name = "apos".toList then some (Char.ofNat 0x27)
    else none

def unifyLineEnds : List Char → List Char
  | [] => []
  | '\r' :: '\n' :: rest => '\n' :: unifyLineEnds rest
  | '\r' :: '\u0085' :: rest => '\n' :: unifyLineEnds rest
  | c :: rest =>
    (if c = '\r' ∨ c = '\u0085' ∨ c = '\u2028' then '\n' else c) :: unifyLineEnds rest

/-- The text in a piece of text: bytes that are UTF-8, or a reference that
stands for a character. -/
def Event.text? : Event → Option (List Char)
  | .text raw => (Utf8.decode? raw).map unifyLineEnds
  | .reference name => do
    let c ← referenced? (← Utf8.decode? name)
    return [c]
  | _ => none

def Event.isText : Event → Bool
  | .text _ | .reference _ => true
  | _ => false

/-! ## From tokens to events -/

/-- Reads the events of a document, inside open elements of these names. The
events so far stand in reverse. -/
def readEvents (seen : List Event) (opened : List Bytes) (bs : Bytes) : List Event :=
  match h : Token.next? bs with
  | none => seen.reverse
  | some (token, rest) =>
    have : rest.length < bs.length := Token.length_next?_lt h
    match token with
    | .opening inside =>
      let tag := Tag.ofInside inside
      readEvents (.start tag :: seen) (tag.name :: opened) rest
    | .selfClosing inside =>
      let tag := Tag.ofInside inside
      readEvents (.finish tag.name :: .start tag :: seen) opened rest
    | .closing name =>
      match opened with
      | [] => seen.reverse
      | expected :: opened =>
        if name = expected then readEvents (.finish name :: seen) opened rest
        else seen.reverse
    | .text raw => readEvents (.text raw :: seen) opened rest
    | .reference name => readEvents (.reference name :: seen) opened rest
    | .documentType => readEvents (.documentType :: seen) opened rest
    | .aside => readEvents seen opened rest
termination_by bs.length

def byteOrderMark : Bytes := [0xEF, 0xBB, 0xBF]

/-- The events of a document, up to its end or to where it is broken. -/
def events (document : Bytes) : List Event :=
  readEvents [] [] ((strip? byteOrderMark document).getD document)

end ObjectStore.Xml
