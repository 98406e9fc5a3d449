import ObjectStore.Service.Kind
import ObjectStore.Text.Blank
import ObjectStore.Xml.Record

/-!
# Refusals

What the service says when it refuses a request. Its error document is XML with
a code, a message and two identifiers, each of which may be missing. A document
that cannot be read is no failure: its text becomes the message.
-/

namespace ObjectStore

/-- A refusal by the service. Status and resource are those of the request
it answers. -/
structure Refusal where
  kind : RefusalKind
  code : Option String
  message : String
  requestId : Option String
  hostId : Option String
  status : Option Nat
  resource : Option String
  deriving DecidableEq, Repr

def Refusal.display (e : Refusal) : String :=
  let place :=
    match e.status, e.resource with
    | none, _ => ""
    | some status, none => " (status: " ++ toString status ++ ")"
    | some status, some resource =>
      " (status: " ++ toString status ++ ", resource: " ++ resource ++ ")"
  let ids :=
    if e.requestId.isSome || e.hostId.isSome then
      " [request id: " ++ e.requestId.getD "-" ++ ", host id: " ++ e.hostId.getD "-" ++ "]"
    else ""
  e.code.getD "unknown service error" ++ ": " ++ e.message ++ place ++ ids

structure RefusalDocument where
  code : Option String
  message : Option String
  requestId : Option String
  hostId : Option String
  deriving DecidableEq, Repr

/-- The fields of an error document. -/
def RefusalDocument.shape : List (Xml.Field × Xml.Shape) :=
  ["Code", "Message", "RequestId", "HostId"].map fun name =>
    ({ name := name, nillable := true }, .text)

/-- Reads an error document. The name of the root element does not matter. -/
def RefusalDocument.parse? (bs : Bytes) : Option RefusalDocument := do
  let fields ← Xml.record? shape bs
  return ⟨fields.text? "Code", fields.text? "Message", fields.text? "RequestId",
    fields.text? "HostId"⟩

/-- The refusal that a document reports. Where it has no message, the message is
the description of its code, or says that the code is not known, or, without a
code, is the whole text. -/
def RefusalDocument.toRefusal (d : RefusalDocument) (text : String) : Refusal :=
  let kind := (d.code.map RefusalKind.ofCode).getD .unknown
  let message :=
    match d.message, d.code with
    | some message, _ => message
    | none, some code =>
      if kind = .unknown then "an unhandled error code was returned: " ++ code
      else kind.description
    | none, none => text
  ⟨kind, d.code, message, d.requestId, d.hostId, none, none⟩

/-- The refusal in the body of an answer. Bytes that are not UTF-8 become
U+FFFD, and blanks at the ends do not count. -/
def Refusal.ofBody (body : Bytes) : Refusal :=
  let text := String.ofList (trimBy isBlank (Utf8.decodeLossy body))
  match RefusalDocument.parse? (Utf8.encode text) with
  | some d => d.toRefusal text
  | none => ⟨.unknown, none, text, none, none, none, none⟩

end ObjectStore
