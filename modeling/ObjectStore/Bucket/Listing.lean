import ObjectStore.Calendar.Timestamp
import ObjectStore.Data.SortedMap
import ObjectStore.Xml.Record

/-!
# Listings

One page of the objects of a bucket, read from the XML document that the
service sends. Optional texts that are present but empty count as absent. The
common starts of keys are a set; the entries stay in the order of the document.
-/

namespace ObjectStore

structure Owner where
  id : String
  displayName : Option String
  deriving DecidableEq, Repr

/-- An object in a listing. The time is absent if it could not be read. -/
structure ListedObject where
  key : String
  lastModified : Option Instant
  eTag : String
  size : Nat
  storageClass : Option String
  owner : Option Owner
  deriving DecidableEq, Repr

structure ListingPage where
  bucketName : String
  keyPrefix : Option String
  marker : Option String
  delimiter : Option String
  maxKeys : Nat
  isTruncated : Bool
  nextMarker : Option String
  entries : List ListedObject
  commonPrefixes : SortedSet

namespace ListingPage

/-- Where the next page starts: at the marker the service gave, else at
the last key. The last page has no next one. -/
def next? (l : ListingPage) : Option String :=
  if l.isTruncated then
    match l.nextMarker with
    | some marker => some marker
    | none => l.entries.getLast?.map ListedObject.key
  else none

/-- An empty text counts as none. -/
def given? (s : Option String) : Option String := s.filter (· ≠ "")

/-! ## Reading -/

def required (name : String) : Xml.Field × Xml.Shape := ({ name := name }, .text)

def optional (name : String) : Xml.Field × Xml.Shape :=
  ({ name := name, nillable := true }, .text)

def ownerShape : List (Xml.Field × Xml.Shape) := [required "ID", optional "DisplayName"]

def entryShape : List (Xml.Field × Xml.Shape) :=
  [required "Key", required "LastModified", required "ETag", required "Size",
    optional "StorageClass", ({ name := "Owner", nillable := true }, .record ownerShape)]

def commonPrefixShape : List (Xml.Field × Xml.Shape) := [required "Prefix"]

def shape : List (Xml.Field × Xml.Shape) :=
  [required "Name", optional "Prefix", optional "Marker", optional "Delimiter",
    required "MaxKeys", required "IsTruncated", optional "NextMarker",
    ({ name := "Contents", repeated := true }, .record entryShape),
    ({ name := "CommonPrefixes", repeated := true }, .record commonPrefixShape)]

def owner? (fields : Xml.Fields) : Option Owner := do
  return ⟨← fields.text? "ID", fields.text? "DisplayName"⟩

def entry? (fields : Xml.Fields) : Option ListedObject := do
  let key ← fields.text? "Key"
  let lastModified ← fields.text? "LastModified"
  let eTag ← fields.text? "ETag"
  let size ← fields.number? Decimal.limit64 "Size"
  let owner ← match fields.record? "Owner" with
    | none => pure none
    | some inner => some <$> owner? inner
  return {
    key := key
    lastModified := Timestamp.parse? (trimBy isBlank lastModified.toList)
    eTag := eTag
    size := size
    storageClass := given? (fields.text? "StorageClass")
    owner := owner }

def commonPrefix? (fields : Xml.Fields) : Option String := fields.text? "Prefix"

/-- Reads a listing. The name of the root element does not matter. -/
def parse? (document : Bytes) : Option ListingPage := do
  let fields ← Xml.record? shape document
  let bucketName ← fields.text? "Name"
  let maxKeys ← fields.number? Decimal.limit32 "MaxKeys"
  let isTruncated ← fields.flag? "IsTruncated"
  let entries ← (fields.records "Contents").mapM entry?
  let commonPrefixes ← (fields.records "CommonPrefixes").mapM commonPrefix?
  return {
    bucketName := bucketName
    keyPrefix := given? (fields.text? "Prefix")
    marker := given? (fields.text? "Marker")
    delimiter := given? (fields.text? "Delimiter")
    maxKeys := maxKeys
    isTruncated := isTruncated
    nextMarker := given? (fields.text? "NextMarker")
    entries := entries
    commonPrefixes := SortedSet.ofList commonPrefixes }

end ListingPage
end ObjectStore
