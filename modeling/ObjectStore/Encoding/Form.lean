import ObjectStore.Encoding.Percent

/-!
# Form encoding

The form in which names and values stand in a query. A space is a plus sign,
letters, digits and four more characters stand for themselves, and every other
byte is escaped.
-/

namespace ObjectStore.Form

def isKept (b : UInt8) : Bool :=
  Percent.isAlphanumeric b || b == 0x2A || b == 0x2D || b == 0x2E || b == 0x5F

def encodeByte (b : UInt8) : List Char :=
  if b = 0x20 then ['+'] else Percent.encodeByte isKept b

def encode (s : String) : List Char := (Utf8.encode s).flatMap encodeByte

def decode (bs : Bytes) : Bytes :=
  Percent.decode (bs.map fun b => if b = 0x2B then 0x20 else b)

/-- One parameter: its name, and its value behind `=` if it has one. -/
def parameter (p : String × Option String) : List Char :=
  match p.2 with
  | none => encode p.1
  | some v => encode p.1 ++ '=' :: encode v

/-- Adds parameters behind what is there, each behind `&`. -/
def append (query : List Char) (ps : List (String × Option String)) : List Char :=
  ps.foldl (fun q p => (if q = [] then [] else q ++ ['&']) ++ parameter p) query

end ObjectStore.Form
