import ObjectStore.Proofs.Bucket.Layouts
import ObjectStore.Proofs.Calendar.Timestamps

/-!
# Listings read back

Whoever writes a listing puts its parts into elements of the root, in any order.
The entries stand next to each other, and so do the common starts of keys, with
nothing but blanks between them; other elements may stand anywhere else. Such a
listing is read back with all its parts, the entries in their order.
-/

namespace ObjectStore

/-! ## Values in content -/

/-- Content has a text that is optional. Where there is none, there is no
child of the name, or one that is empty. -/
def Xml.Content.HoldsOptional (k : Xml.Content) (name : String) (value : Option String) : Prop :=
  (k.Holds name value ∧ value ≠ some "") ∨ (k.Holds name (some "") ∧ value = none)

namespace Xml.Content.HoldsOptional

variable {k : Content} {name : String} {value : Option String}

theorem exists_hasText (h : k.HoldsOptional name value) : ∃ text, k.HasText name text := by
  rcases h with ⟨h, -⟩ | ⟨h, -⟩
  · exact ⟨value, h.hasText⟩
  · exact ⟨some "", h.hasText⟩

theorem given? (h : k.HoldsOptional name value) {shape : List (Field × Shape)} {field : Field}
    (hfield : (shape.find? fun p => p.1.name = name) = some (field, .text)) :
    ListingPage.given? ((fieldsOf shape k.children).text? name) = value := by
  rcases h with ⟨h, hne⟩ | ⟨h, rfl⟩
  · rw [h.text? hfield]
    cases value with
    | none => rfl
    | some s => exact if_pos (by simpa using fun heq : s = "" => hne (congrArg some heq))
  · rw [h.text? hfield]
    rfl

end Xml.Content.HoldsOptional

/-! ## What is written -/

structure Owner.WrittenIn (o : Owner) (k : Xml.Content) : Prop where
  id : k.Holds "ID" (some o.id)
  displayName : k.Holds "DisplayName" o.displayName

/-- Content that is an entry. The time is the instant that its text denotes.
There is one owner at most. -/
structure ListedObject.WrittenIn (e : ListedObject) (k : Xml.Content) : Prop where
  key : k.Holds "Key" (some e.key)
  lastModified : ∃ t : Timestamp.Written, k.Holds "LastModified" (some t.text) ∧
    e.lastModified = some t.instant
  eTag : k.Holds "ETag" (some e.eTag)
  size : k.Holds "Size" (some (toString e.size))
  sizeFits : e.size < Decimal.limit64
  storageClass : k.HoldsOptional "StorageClass" e.storageClass
  owner : List.Forall₂ (fun o c => o.WrittenIn c.inside) e.owner.toList (k.named "Owner")

/-- Content that is a page of a listing. Entries and common starts of keys
are written one after the other. -/
structure ListingPage.WrittenIn (p : ListingPage) (k : Xml.Content) : Prop where
  bucketName : k.Holds "Name" (some p.bucketName)
  keyPrefix : k.HoldsOptional "Prefix" p.keyPrefix
  marker : k.HoldsOptional "Marker" p.marker
  delimiter : k.HoldsOptional "Delimiter" p.delimiter
  maxKeys : k.Holds "MaxKeys" (some (toString p.maxKeys))
  maxKeysFits : p.maxKeys < Decimal.limit32
  isTruncated : k.Holds "IsTruncated" (some (toString p.isTruncated))
  nextMarker : k.HoldsOptional "NextMarker" p.nextMarker
  entries : List.Forall₂ (fun e c => e.WrittenIn c.inside) p.entries (k.named "Contents")
  entriesAdjacent : k.Adjacent "Contents"
  commonPrefixes : ∃ starts : List String, p.commonPrefixes = SortedSet.ofList starts ∧
    List.Forall₂ (fun s c => c.inside.Holds "Prefix" (some s)) starts (k.named "CommonPrefixes")
  commonPrefixesAdjacent : k.Adjacent "CommonPrefixes"

/-! ## Reading back -/

namespace ListingPage

open Xml

variable {k : Content}

theorem forall_of_forall₂ {α β : Type} {R : α → β → Prop} {P : β → Prop} {as : List α}
    {bs : List β} (h : List.Forall₂ R as bs) (hP : ∀ a b, R a b → P b) : ∀ b ∈ bs, P b := by
  induction h with
  | nil => exact fun b hb => by cases hb
  | cons hab _ ih => exact List.forall_mem_cons.mpr ⟨hP _ _ hab, ih⟩

theorem isOwner_written {o : Owner} (h : o.WrittenIn k) : IsOwner k :=
  ⟨⟨_, h.id.hasText⟩, ⟨_, h.displayName.hasText⟩⟩

theorem owner?_written {o : Owner} (h : o.WrittenIn k) :
    owner? (fieldsOf ownerShape k.children) = some o := by
  rw [owner?, h.id.text? rfl, h.displayName.text? rfl]
  rfl

theorem isEntry_written {e : ListedObject} (h : e.WrittenIn k) : IsEntry k := by
  obtain ⟨t, hlastModified, -⟩ := h.lastModified
  refine ⟨⟨_, h.key.hasText⟩, ⟨_, hlastModified.hasText⟩, ⟨_, h.eTag.hasText⟩,
    ⟨e.size, h.sizeFits, h.size⟩, h.storageClass.exists_hasText, ?_,
    forall_of_forall₂ h.owner fun o c ho => isOwner_written ho⟩
  rw [← h.owner.length_eq]
  cases e.owner <;> simp

theorem wellPlaced_entry {e : ListedObject} (h : e.WrittenIn k) :
    WellPlaced entryShape k.children :=
  (isEntry_written h).wellPlaced

theorem record?_owner {e : ListedObject} (h : e.WrittenIn k) :
    ((fieldsOf entryShape k.children).record? "Owner").map owner? = e.owner.map some := by
  have howner := h.owner
  rw [record?_fieldsOf rfl fun c hc => ((isEntry_written h).owner c hc).wellPlaced]
  cases ho : e.owner with
  | none =>
      rw [ho, Option.toList_none, List.forall₂_nil_left_iff] at howner
      rw [howner]
      rfl
  | some o =>
      rw [ho, Option.toList_some, List.forall₂_cons_left_iff] at howner
      obtain ⟨c, rest, hc, -, hnamed⟩ := howner
      rw [hnamed, List.head?_cons, Option.map_some, Option.map_some, owner?_written hc]
      rfl

theorem entry?_written {e : ListedObject} (h : e.WrittenIn k) :
    entry? (fieldsOf entryShape k.children) = some e := by
  obtain ⟨t, hlastModified, htime⟩ := h.lastModified
  have howner := record?_owner h
  unfold entry?
  rw [h.key.text? rfl, hlastModified.text? rfl, h.eTag.text? rfl, h.size.number? rfl h.sizeFits]
  simp only [Option.bind_eq_bind, Option.bind_some]
  rw [h.storageClass.given? rfl, Timestamp.trimBy_text, Timestamp.parse?_text, ← htime]
  -- an owner that is there has to be read as well
  obtain ⟨key, lastModified, eTag, size, storageClass, owner⟩ := e
  cases hrecord : (fieldsOf entryShape k.children).record? "Owner" with
  | none =>
      rw [hrecord, Option.map_none, eq_comm, Option.map_eq_none_iff] at howner
      obtain rfl : owner = none := howner
      rfl
  | some inner =>
      rw [hrecord, Option.map_some, eq_comm, Option.map_eq_some_iff] at howner
      obtain ⟨o, rfl, ho⟩ : ∃ o, owner = some o ∧ some o = owner? inner := howner
      dsimp only
      rw [← ho]
      rfl

theorem wellPlaced_commonPrefix {s : String} (h : k.Holds "Prefix" (some s)) :
    WellPlaced commonPrefixShape k.children :=
  wellPlaced_start ⟨s, h.hasText⟩

theorem isPage_written {p : ListingPage} (h : p.WrittenIn k) : IsPage k where
  bucketName := ⟨_, h.bucketName.hasText⟩
  keyPrefix := h.keyPrefix.exists_hasText
  marker := h.marker.exists_hasText
  delimiter := h.delimiter.exists_hasText
  maxKeys := ⟨p.maxKeys, h.maxKeysFits, h.maxKeys⟩
  isTruncated := ⟨p.isTruncated, h.isTruncated⟩
  nextMarker := h.nextMarker.exists_hasText
  entries := forall_of_forall₂ h.entries fun _ _ he => isEntry_written he
  entriesAdjacent := h.entriesAdjacent
  commonPrefixes := by
    obtain ⟨starts, -, hstarts⟩ := h.commonPrefixes
    exact forall_of_forall₂ hstarts fun s _ hs => ⟨s, hs.hasText⟩
  commonPrefixesAdjacent := h.commonPrefixesAdjacent

theorem wellPlaced_page {p : ListingPage} (h : p.WrittenIn k) : WellPlaced shape k.children :=
  (isPage_written h).wellPlaced

theorem mapM_entry? {p : ListingPage} (h : p.WrittenIn k) :
    ((fieldsOf shape k.children).records "Contents").mapM entry? = some p.entries := by
  rw [records_fieldsOf rfl (forall_of_forall₂ h.entries fun e c he => wellPlaced_entry he)]
  exact mapM_of_forall₂ (h.entries.imp fun e c he => entry?_written he)

/-- **Every listing is read back.** Its parts stand in children of the root, in
any order, with any text between them and any other children among them, except
that entries follow each other with nothing but blanks between them, and so do
common starts of keys. -/
theorem parse?_written {p : ListingPage} {doc : Document} (h : p.WrittenIn doc.content)
    {front back : String} (hfront : front.toList.all isXmlBlank = true)
    (hback : back.toList.all isXmlBlank = true) :
    parse? (Utf8.encode (front ++ doc.written ++ back)) = some p := by
  obtain ⟨starts, hset, hstarts⟩ := h.commonPrefixes
  have hcommon : ((fieldsOf shape doc.content.children).records "CommonPrefixes").mapM
      commonPrefix? = some starts := by
    rw [records_fieldsOf rfl
      (forall_of_forall₂ hstarts fun s c hs => wellPlaced_commonPrefix hs)]
    exact mapM_of_forall₂ (hstarts.imp fun s c hs => hs.text? rfl)
  unfold parse?
  rw [doc.record?_of_wellPlaced hfront hback (wellPlaced_page h)]
  simp only [Option.bind_eq_bind, Option.bind_some]
  rw [h.bucketName.text? rfl, h.maxKeys.number? rfl h.maxKeysFits, h.isTruncated.flag? rfl,
    mapM_entry? h, hcommon, h.keyPrefix.given? rfl, h.marker.given? rfl, h.delimiter.given? rfl,
    h.nextMarker.given? rfl]
  simp only [Option.bind_some, ← hset]
  rfl

def firstTime : Timestamp.Written where
  year := 2024
  month := 2
  day := 29
  separator := 'T'
  hour := 23
  minute := 30
  second := 0
  fraction := ['2', '5']
  zone := .shifted true 1 30 (by decide) (by decide)
  yearFits := by decide
  valid := by decide
  ascii := by decide
  hourFits := by decide
  minuteFits := by decide
  digits := by decide
  secondFits := .inl (by decide)

def secondTime : Timestamp.Written where
  year := 1970
  month := 1
  day := 1
  separator := ' '
  hour := 0
  minute := 0
  second := 1
  fraction := []
  zone := .utc false
  yearFits := by decide
  valid := by decide
  ascii := by decide
  hourFits := by decide
  minuteFits := by decide
  digits := by decide
  secondFits := .inl (by decide)

def firstLog : ListedObject where
  key := "a&b/1"
  lastModified := some ⟨1709254800250000000⟩
  eTag := "\"x\""
  size := 18446744073709551615
  storageClass := none
  owner := some ⟨"75aa", none⟩

def secondLog : ListedObject where
  key := "a&b/2"
  lastModified := some ⟨1000000000⟩
  eTag := "y"
  size := 0
  storageClass := some "COLD"
  owner := none

/-- A page with two objects, of which one has an owner. -/
def twoLogs : ListingPage where
  bucketName := "logs"
  keyPrefix := some "a&b/"
  marker := none
  delimiter := none
  maxKeys := 4294967295
  isTruncated := true
  nextMarker := none
  entries := [firstLog, secondLog]
  commonPrefixes := SortedSet.ofList ["a&b/z/", "a&b/c/", "a&b/z/"]

def firstLogContent : Xml.Content :=
  .element "\n " ⟨"Size", by decide, by decide⟩ (.text "18446744073709551615") <|
  .element "" ⟨"Owner", by decide, by decide⟩
    (.element " " ⟨"ID", by decide, by decide⟩ (.text "75aa") (.text "")) <|
  .element "" ⟨"Key", by decide, by decide⟩ (.text "a&b/1") <|
  .void "" ⟨"StorageClass", by decide, by decide⟩ <|
  .element "" ⟨"ETag", by decide, by decide⟩ (.text "\"x\"") <|
  .element "" ⟨"LastModified", by decide, by decide⟩ (.text "2024-02-29T23:30:00.25-01:30")
    (.text "\n")

def secondLogContent : Xml.Content :=
  .element "" ⟨"Key", by decide, by decide⟩ (.text "a&b/2") <|
  .element "" ⟨"LastModified", by decide, by decide⟩ (.text "1970-01-01 00:00:01Z") <|
  .element "" ⟨"ETag", by decide, by decide⟩ (.text "y") <|
  .element "" ⟨"Size", by decide, by decide⟩ (.text "0") <|
  .element "" ⟨"StorageClass", by decide, by decide⟩ (.text "COLD") (.text "")

def startOf (s : String) : Xml.Content :=
  .element "" ⟨"Prefix", by decide, by decide⟩ (.text s) (.text "")

/-- A document with this page, and with another entry inside of something else. -/
def twoLogsDocument : Xml.Document where
  prolog := some ⟨"xml version=\"1.0\"", "\n", by decide, by decide⟩
  root := ⟨"ListBucketResult", by decide, by decide⟩
  namespaceText := some ⟨"http://s3.amazonaws.com/doc/2006-03-01/", by decide⟩
  content :=
    .element "\n" ⟨"CommonPrefixes", by decide, by decide⟩ (startOf "a&b/z/") <|
    .element "\n" ⟨"CommonPrefixes", by decide, by decide⟩ (startOf "a&b/c/") <|
    .element "" ⟨"CommonPrefixes", by decide, by decide⟩ (startOf "a&b/z/") <|
    .element "\n" ⟨"MaxKeys", by decide, by decide⟩ (.text "4294967295") <|
    .element "" ⟨"Prefix", by decide, by decide⟩ (.text "a&b/") <|
    .void "" ⟨"Marker", by decide, by decide⟩ <|
    .element "?" ⟨"Other", by decide, by decide⟩
      (.element "" ⟨"Contents", by decide, by decide⟩ secondLogContent (.text "<")) <|
    .element "\n" ⟨"Contents", by decide, by decide⟩ firstLogContent <|
    .element "\n" ⟨"Contents", by decide, by decide⟩ secondLogContent <|
    .element "" ⟨"Name", by decide, by decide⟩ (.text "logs") <|
    .element "" ⟨"IsTruncated", by decide, by decide⟩ (.text "true") (.text "\n")

theorem firstLog_written : firstLog.WrittenIn firstLogContent where
  key := ⟨rfl, by decide⟩
  lastModified := by
    have htext : firstTime.text = "2024-02-29T23:30:00.25-01:30" := by decide +kernel
    exact ⟨firstTime, htext ▸ ⟨rfl, by decide⟩, by decide +kernel⟩
  eTag := ⟨rfl, by decide⟩
  size := by
    have hsize : toString firstLog.size = "18446744073709551615" := by decide +kernel
    rw [hsize]
    exact ⟨rfl, by decide⟩
  sizeFits := by decide
  storageClass := .inr ⟨⟨rfl, by decide⟩, rfl⟩
  owner := .cons ⟨⟨rfl, by decide⟩, ⟨rfl, by decide⟩⟩ .nil

theorem secondLog_written : secondLog.WrittenIn secondLogContent where
  key := ⟨rfl, by decide⟩
  lastModified := by
    have htext : secondTime.text = "1970-01-01 00:00:01Z" := by decide +kernel
    exact ⟨secondTime, htext ▸ ⟨rfl, by decide⟩, by decide +kernel⟩
  eTag := ⟨rfl, by decide⟩
  size := ⟨rfl, by decide⟩
  sizeFits := by decide
  storageClass := .inl ⟨⟨rfl, by decide⟩, by decide⟩
  owner := .nil

theorem parse?_written_twoLogs :
    twoLogs.WrittenIn twoLogsDocument.content ∧
      parse? (Utf8.encode (" " ++ twoLogsDocument.written ++ "\n")) = some twoLogs := by
  have hwritten : twoLogs.WrittenIn twoLogsDocument.content := {
    bucketName := ⟨rfl, by decide⟩
    keyPrefix := .inl ⟨⟨rfl, by decide⟩, by decide⟩
    marker := .inr ⟨⟨rfl, by decide⟩, rfl⟩
    delimiter := .inl ⟨⟨rfl, by decide⟩, by decide⟩
    maxKeys := by
      have hmax : toString twoLogs.maxKeys = "4294967295" := by decide +kernel
      rw [hmax]
      exact ⟨rfl, by decide⟩
    maxKeysFits := by decide
    isTruncated := ⟨rfl, by decide⟩
    nextMarker := .inl ⟨⟨rfl, by decide⟩, by decide⟩
    entries := .cons firstLog_written (.cons secondLog_written .nil)
    entriesAdjacent := ⟨twoLogsDocument.content.children.take 7,
      (twoLogsDocument.content.children.drop 7).take 2,
      twoLogsDocument.content.children.drop 9, rfl, by decide, by decide⟩
    commonPrefixes := ⟨["a&b/z/", "a&b/c/", "a&b/z/"], rfl,
      .cons ⟨rfl, by decide⟩ (.cons ⟨rfl, by decide⟩ (.cons ⟨rfl, by decide⟩ .nil))⟩
    commonPrefixesAdjacent := ⟨[], twoLogsDocument.content.children.take 3,
      twoLogsDocument.content.children.drop 3, rfl, by decide, by decide⟩ }
  have hspace : " ".toList.all isXmlBlank = true := by decide
  have hline : "\n".toList.all isXmlBlank = true := by decide
  exact ⟨hwritten, parse?_written hwritten hspace hline⟩

end ListingPage

end ObjectStore
