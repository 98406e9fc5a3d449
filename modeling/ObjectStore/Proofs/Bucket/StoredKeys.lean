import ObjectStore.Proofs.Bucket.Layouts
import ObjectStore.Proofs.Request.Resources

/-!
# Stored keys in listings

Which keys are stored is decided by a check, and which texts a listing gives back by
the reader of XML. The check leaves out two of the characters that end a line in XML.
Two others pass it and come back as line feeds. Every other key that is stored is
listed as it is, with the blanks at its ends, and starts the next page as it is.
-/

namespace ObjectStore

def isControl (c : Char) : Bool := c.toNat < 0x20 || (0x7F ≤ c.toNat && c.toNat ≤ 0x9F)

def isLineSeparator (c : Char) : Bool := c == '\u2028'

namespace ListingPage

open Xml

/-- A key that passes the check is read as it is just if it has neither of the two
ends of a line that pass the check with it. -/
theorem asRead_eq_self_iff_of_checkKey {key : String} (h : checkKey key = .ok ()) :
    asRead key = key ↔ ∀ c ∈ key.toList, c ≠ '\u0085' ∧ c ≠ '\u2028' := by
  obtain ⟨-, -, -, hline, -⟩ := checkKey_eq_ok.mp h
  rw [asRead_eq_self_iff, KeepsLines]
  exact forall₂_congr fun c hc => and_iff_right (hline c hc).1

/-- **A listed key is the stored key.** Take a document that is laid out as a listing,
and in it an entry with a key that passes the check. The document is read, and at its
place the entry has this key, unless the next line or a line separator is in the key. So
a key of spaces and other characters that are neither controls nor line separators is
read as it is. If the entry is the last one of a truncated listing without a next
marker, the next page starts at this key. -/
theorem listed_key_eq_stored {key : String} (hkey : checkKey key = .ok ()) {doc : Document}
    (hpage : IsPage doc.content) {front back : String}
    (hfront : front.toList.all isXmlBlank = true) (hback : back.toList.all isXmlBlank = true)
    {before after : List Child} {entry : Child}
    (hentries : doc.content.named "Contents" = before ++ entry :: after)
    (hentry : entry.inside.HasText "Key" (some key)) :
    ∃ page listed, parse? (Utf8.encode (front ++ doc.written ++ back)) = some page ∧
      page.entries[before.length]? = some listed ∧
      (listed.key = key ↔ ∀ c ∈ key.toList, c ≠ '\u0085' ∧ c ≠ '\u2028') ∧
      ((∀ c ∈ key.toList, isControl c = false ∧ isLineSeparator c = false) →
        listed.key = key ∧
          (doc.content.HasText "IsTruncated" (some "true") →
            doc.content.HasText "NextMarker" none ∨
              doc.content.HasText "NextMarker" (some "") →
            after = [] → page.next? = some key)) := by
  obtain ⟨page, hparse, hread, htruncated, hmarker⟩ := hpage.exists_parse? hfront hback
  rw [hentries] at hread
  obtain ⟨listed, rest, hlisted, hrest, hdrop⟩ :=
    List.forall₂_cons_right_iff.mp (List.forall₂_drop_append _ _ _ hread)
  have hat : page.entries[before.length]? = some listed := by
    rw [← List.head?_drop, hdrop]
    rfl
  have hiff : listed.key = key ↔ ∀ c ∈ key.toList, c ≠ '\u0085' ∧ c ≠ '\u2028' := by
    rw [hlisted key hentry]
    exact asRead_eq_self_iff_of_checkKey hkey
  refine ⟨page, listed, hparse, hat, hiff, ?_⟩
  intro hplain
  have hlistedKey : listed.key = key := by
    refine hiff.mpr fun c hc => ?_
    obtain ⟨hcontrol, hseparator⟩ := hplain c hc
    constructor
    · rintro rfl
      cases hcontrol
    · rintro rfl
      cases hseparator
  refine ⟨hlistedKey, ?_⟩
  rintro htrue hnone rfl
  obtain rfl := List.forall₂_nil_right_iff.mp hrest
  have hnoMarker : page.nextMarker = none := by
    rcases hnone with hnone | hempty
    · exact hmarker none hnone
    · exact hmarker (some "") hempty
  have hlast : page.entries.getLast? = some listed := by
    rw [← List.take_append_drop before.length page.entries, hdrop, List.getLast?_concat]
  rw [next?, htruncated true htrue, if_pos rfl, hnoMarker]
  dsimp only
  rw [hlast, Option.map_some, hlistedKey]

def spacedEntry : Content :=
  .element "" (.ofText "Key" rfl) (.text " a & b ") <|
  .element "" (.ofText "LastModified" rfl) (.text "now") <|
  .element "" (.ofText "ETag" rfl) (.text "e") <|
  .element "" (.ofText "Size" rfl) (.text "0") (.text "")

/-- A truncated listing with this entry alone. -/
def spacedDocument : Document where
  prolog := none
  root := .ofText "ListBucketResult" rfl
  namespaceText := none
  content :=
    .element "" (.ofText "Name" rfl) (.text "logs") <|
    .element "" (.ofText "MaxKeys" rfl) (.text "1") <|
    .element "" (.ofText "IsTruncated" rfl) (.text "true") <|
    .element "\n" (.ofText "Contents" rfl) spacedEntry (.text "\n")

theorem isEntry_spaced : IsEntry spacedEntry where
  key := ⟨" a & b ", rfl⟩
  lastModified := ⟨"now", rfl⟩
  eTag := ⟨"e", rfl⟩
  size := ⟨0, by decide, rfl, by decide⟩
  storageClass := ⟨none, rfl⟩
  ownerAlone := by decide
  owner := by
    intro c hc
    cases hc

theorem isPage_spaced : IsPage spacedDocument.content where
  bucketName := ⟨"logs", rfl⟩
  keyPrefix := ⟨none, rfl⟩
  marker := ⟨none, rfl⟩
  delimiter := ⟨none, rfl⟩
  maxKeys := ⟨1, by decide, rfl, by decide⟩
  isTruncated := ⟨true, rfl, by decide⟩
  nextMarker := ⟨none, rfl⟩
  entries := by
    intro c hc
    obtain rfl := List.mem_singleton.mp hc
    exact isEntry_spaced
  entriesAdjacent := ⟨spacedDocument.content.children.take 3,
    spacedDocument.content.children.drop 3, [], rfl, by decide, by decide⟩
  commonPrefixes := by
    intro c hc
    cases hc
  commonPrefixesAdjacent := ⟨spacedDocument.content.children, [], [], rfl, by decide, by decide⟩

/-- A key with a space at both ends is read with them, and starts the next page with them. -/
theorem listed_key_eq_stored_spaced :
    ∃ page, parse? (Utf8.encode ("" ++ spacedDocument.written ++ "\n")) = some page ∧
      page.next? = some " a & b " := by
  have hnone : "".toList.all isXmlBlank = true := by decide
  have hline : "\n".toList.all isXmlBlank = true := by decide
  have hkey : checkKey " a & b " = .ok () := by decide +kernel
  have hentries : spacedDocument.content.named "Contents" =
      [] ++ ⟨"\n", .ofText "Contents" rfl, spacedEntry⟩ :: [] := rfl
  obtain ⟨page, listed, hparse, -, -, hplain⟩ :=
    listed_key_eq_stored hkey isPage_spaced hnone hline hentries rfl
  have hsigns : ∀ c ∈ [' ', 'a', ' ', '&', ' ', 'b', ' '],
      isControl c = false ∧ isLineSeparator c = false := by
    intro c hc
    simp only [List.mem_cons, List.not_mem_nil, or_false] at hc
    rcases hc with rfl | rfl | rfl | rfl | rfl | rfl | rfl <;> exact ⟨rfl, rfl⟩
  obtain ⟨-, hnext⟩ := hplain hsigns
  exact ⟨page, hparse, hnext rfl (.inl rfl) rfl⟩

end ListingPage

end ObjectStore
