import ObjectStore.Calendar.HttpDate
import ObjectStore.Digest.Hmac
import ObjectStore.Encoding.Base64
import ObjectStore.Request.Credentials
import ObjectStore.Request.Operation

/-!
# Signatures

A request is signed by a keyed digest of a text that says what it does: the
verb, two headers, the date, the headers of the service, and the resource with
the parameters that make it another resource. Parameters that only choose a
page of a listing are not signed. The result depends on nothing else, so equal
requests at equal instants carry equal signatures.
-/

namespace ObjectStore.Signature

def subResources : List String :=
  ["acl", "cors", "delete", "lifecycle", "location", "logging", "notification", "partNumber",
    "policy", "requestPayment", "tagging", "torrent", "uploadId", "uploads", "versionId",
    "versioning", "website"]

/-- A header of the service. -/
def isServiceHeader (name : String) : Bool := "x-amz-".toList.isPrefixOf name.toList

/-- The headers of the service in order of names, each on a line of its own,
without blanks at the ends of its value. -/
def serviceHeaders (op : Operation) : String :=
  String.join ((op.headers.entries.filter fun h => isServiceHeader h.1).map fun h =>
    h.1 ++ ":" ++ trimBlank h.2 ++ "\n")

def parameter (p : String × Option String) : String :=
  match p.2 with
  | some value => p.1 ++ "=" ++ value
  | none => p.1

def signedParameters (op : Operation) : List (String × Option String) :=
  op.query.entries.filter fun p => subResources.contains p.1

def resource (op : Operation) : String :=
  let ps := (signedParameters op).map parameter
  if ps = [] then op.path else op.path ++ "?" ++ "&".intercalate ps

/-- The text that is signed. The date has no line of its own if it is a
header of the service. -/
def signedText (op : Operation) (date : String) : String :=
  let date := if (op.header? "x-amz-date").isSome then "" else date
  "\n".intercalate
    [op.verb.text, (op.header? "content-md5").getD "", (op.header? "content-type").getD "",
      date, serviceHeaders op ++ resource op]

def sign (secret text : String) : String :=
  Base64.encode (Hmac.sha1 (Utf8.encode secret) (Utf8.encode text))

/-- What goes into the header `authorization`. -/
def authorization (c : Credentials) (op : Operation) (now : Instant) : String :=
  "AWS " ++ c.keyId ++ ":" ++ sign c.secret (signedText op (HttpDate.format now))

theorem length_sign (secret text : String) : (sign secret text).length = 28 := by
  simp [sign, Base64.encode, Base64.length_encodeChars]

end ObjectStore.Signature
