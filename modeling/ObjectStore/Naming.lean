import ObjectStore.Failure
import ObjectStore.Text.Split

/-!
# Names of buckets and keys of objects

The checks that a name passes before a request is made of it. Segments `.` and
`..` are refused because a URL would resolve them, and the request would go to
another resource than the one that was signed.
-/

namespace ObjectStore

def isBucketChar (c : Char) : Bool :=
  ('a' ≤ c && c ≤ 'z') || ('0' ≤ c && c ≤ '9') || c == '-' || c == '.'

def isLetterOrDigit (c : Char) : Bool := c.isAlphanum

def checkBucket (name : String) : Except RequestFault Unit :=
  let length := (Utf8.encode name).length
  if length < 3 ∨ 63 < length then .error (.bucketLength length)
  else if ¬name.toList.all isBucketChar then .error (.bucketCharacters name)
  else if name.toList.head?.all isLetterOrDigit ∧ name.toList.getLast?.all isLetterOrDigit then
    .ok ()
  else .error (.bucketEnds name)

def keySegments (key : String) : List (List Char) := splitWhere (· == '/') key.toList

/-- A segment that a URL would resolve. -/
def isDotSegment (segment : List Char) : Bool := segment == ['.'] || segment == ['.', '.']

def checkKey (key : String) : Except RequestFault Unit :=
  let length := (Utf8.encode key).length
  if length = 0 then .error .emptyKey
  else if 1024 < length then .error .longKey
  else if key.toList.head? = some '/' then .error .keyStartsWithSlash
  else if key.toList.any fun c => c == '\r' || c == '\n' then .error .keyHasLineBreak
  else if (keySegments key).any isDotSegment then .error (.keyHasDotSegment key)
  else .ok ()

end ObjectStore
