import ObjectStore.Calendar.HttpDate
import ObjectStore.Data.SortedMap
import ObjectStore.Encoding.Hex
import ObjectStore.Failure

/-!
# What is known about objects

What the headers of an answer say about an object. Its length and its entity
tag have to be there; a time or a type that cannot be read is none. Every
header that starts with `x-amz-meta-` is an entry of its own.
-/

namespace ObjectStore

def metaStart : String := "x-amz-meta-"

def metaHeader (key : String) : String := metaStart ++ Header.lowerCase key

/-- The key of the entry that a header carries, if it carries one. -/
def metaKey? (header : String) : Option String :=
  if metaStart.toList.isPrefixOf header.toList then
    some (String.ofList (header.toList.drop metaStart.length))
  else none

structure ObjectInfo where
  contentLength : Nat
  eTag : String
  lastModified : Option Instant
  contentType : Option String
  custom : SortedMap String

namespace ObjectInfo

/-- The entries of metadata among headers. Values that are not text are left
out; of several values of one header the last one counts. -/
def customOf (headers : HeaderMap) : SortedMap String :=
  SortedMap.ofList (headers.toList.filterMap fun h => do
    return (← metaKey? h.1, ← Header.text? h.2))

def lengthOf (headers : HeaderMap) : Except AnswerFault Nat :=
  match headers.text? "content-length" with
  | none => .error .missingContentLength
  | some text =>
    match Decimal.parse? Decimal.limit64 (trimBy isBlank text.toList) with
    | none => .error .invalidContentLength
    | some n => .ok n

/-- Reads headers, or says what is missing first. -/
def ofHeaders (headers : HeaderMap) : Except AnswerFault ObjectInfo := do
  let contentLength ← lengthOf headers
  match headers.text? "etag" with
  | none => throw .missingETag
  | some eTag =>
    return {
      contentLength := contentLength
      eTag := eTag
      lastModified := (headers.text? "last-modified").bind HttpDate.parse?
      contentType := headers.text? "content-type"
      custom := customOf headers }

/-- The MD5 digest in an entity tag: thirty-two digits, with or without
quotes around them. -/
def digestOfTag (eTag : String) : Option Bytes :=
  let digits := trimBy (· == '"') eTag.toList
  if digits.length = 32 then Hex.decode? digits else none

def digest? (i : ObjectInfo) : Option Bytes := digestOfTag i.eTag

end ObjectInfo
end ObjectStore
