import ObjectStore.Data.SortedMap
import ObjectStore.Encoding.Percent
import ObjectStore.Http.Header
import ObjectStore.Http.Outgoing
import ObjectStore.Http.Verb

/-!
# Operations

What a client wants done: a verb, a bucket and a key, parameters, headers and a
body. Operations are built step by step. Setting a parameter or a header again
replaces it, and the case of a header name does not matter.
-/

namespace ObjectStore

/-- An operation. A parameter has a value or stands alone; header names
are in lower case. -/
structure Operation where
  verb : Verb
  bucket : Option String
  key : Option String
  query : SortedMap (Option String)
  headers : SortedMap String
  body : OutgoingBody

namespace Operation

def ofVerb (verb : Verb) : Operation := ⟨verb, none, none, ∅, ∅, .empty⟩

def withBucket (op : Operation) (bucket : String) : Operation :=
  { op with bucket := some bucket }

def withKey (op : Operation) (key : String) : Operation := { op with key := some key }

def withQuery (op : Operation) (name value : String) : Operation :=
  { op with query := op.query.insert name (some value) }

def withSubResource (op : Operation) (name : String) : Operation :=
  { op with query := op.query.insert name none }

def withHeader (op : Operation) (name value : String) : Operation :=
  { op with headers := op.headers.insert (Header.lowerCase name) value }

def withBody (op : Operation) (body : OutgoingBody) : Operation := { op with body := body }

def header? (op : Operation) (name : String) : Option String :=
  op.headers.get? (Header.lowerCase name)

/-- The path of the resource: `/`, `/bucket/` or `/bucket/key`, with the
key escaped. -/
def path (op : Operation) : String :=
  match op.bucket, op.key with
  | some bucket, some key => "/" ++ bucket ++ "/" ++ Percent.encode Percent.keptInKey key
  | some bucket, none => "/" ++ bucket ++ "/"
  | none, _ => "/"

end Operation
end ObjectStore
