import Mathlib.Data.List.Forall2
import ObjectStore.Bucket.Listing
import ObjectStore.Proofs.Text.Decimal
import ObjectStore.Proofs.Xml.Children

/-!
# Layouts of listings

A document is laid out as a listing if its parts stand in elements of the root, in
any order: entries next to each other, and so common starts of keys, with nothing but
blanks between them. What its texts say does not matter, apart from two numbers and a
truth value. Every such document is read as a listing, entry by entry.
-/

namespace ObjectStore

/-! ## Values in content -/

namespace Xml.Content.Holds

variable {k : Content} {name : String} {shape : List (Field × Shape)} {field : Field}
  (hfield : (shape.find? fun p => p.1.name = name) = some (field, .text))

include hfield

theorem number? {bound n : Nat} (h : k.Holds name (some (toString n))) (hn : n < bound) :
    (fieldsOf shape k.children).number? bound name = some n := by
  have hblank (c : Char) (hc : Decimal.isDigit c = true) : isXmlBlank c = false := by
    refine Bool.eq_false_iff.mpr fun hblank => ?_
    simp only [isXmlBlank, Bool.or_eq_true, beq_iff_eq] at hblank
    rcases hblank with ((rfl | rfl) | rfl) | rfl <;> cases hc
  rw [Fields.number?, h.lookup hfield]
  dsimp only [Option.map_some]
  rw [Decimal.trimBy_toString hblank]
  exact Decimal.parse?_toString hn

theorem flag? {b : Bool} (h : k.Holds name (some (toString b))) :
    (fieldsOf shape k.children).flag? name = some b := by
  rw [Fields.flag?, h.lookup hfield]
  cases b <;> rfl

end Xml.Content.Holds

namespace ListingPage

open Xml

variable {k : Content}

theorem mapM_of_forall₂ {α β γ : Type} {f : β → Option α} {g : γ → β} {as : List α} {cs : List γ}
    (h : List.Forall₂ (fun a c => f (g c) = some a) as cs) : (cs.map g).mapM f = some as := by
  induction h with
  | nil => rfl
  | cons hac _ ih => rw [List.map_cons, List.mapM_cons, hac, ih]; rfl

theorem exists_forall₂ {α β : Type} {R : α → β → Prop} {bs : List β}
    (h : ∀ b ∈ bs, ∃ a, R a b) : ∃ as, List.Forall₂ R as bs := by
  induction bs with
  | nil => exact ⟨[], .nil⟩
  | cons b bs ih =>
      obtain ⟨hb, hbs⟩ := List.forall_mem_cons.mp h
      obtain ⟨a, ha⟩ := hb
      obtain ⟨as, has⟩ := ih hbs
      exact ⟨a :: as, .cons ha has⟩

/-! ## Owners and entries -/

structure IsOwner (k : Content) : Prop where
  id : ∃ s, k.HasText "ID" (some s)
  displayName : ∃ value, k.HasText "DisplayName" value

theorem IsOwner.wellPlaced (h : IsOwner k) : WellPlaced ownerShape k.children := by
  obtain ⟨id, hid⟩ := h.id
  obtain ⟨displayName, hdisplayName⟩ := h.displayName
  refine Content.wellPlaced fun p hp => ?_
  simp only [ownerShape, required, optional, List.mem_cons, List.not_mem_nil, or_false] at hp
  rcases hp with rfl | rfl
  · exact hid.places rfl
  · exact hdisplayName.places rfl

theorem IsOwner.exists_owner? (h : IsOwner k) :
    ∃ o, owner? (fieldsOf ownerShape k.children) = some o := by
  obtain ⟨id, hid⟩ := h.id
  obtain ⟨displayName, hdisplayName⟩ := h.displayName
  rw [owner?, hid.text? rfl, hdisplayName.text? rfl]
  exact ⟨_, rfl⟩

/-- Content that is laid out as an entry. There is one owner at most. -/
structure IsEntry (k : Content) : Prop where
  key : ∃ s, k.HasText "Key" (some s)
  lastModified : ∃ s, k.HasText "LastModified" (some s)
  eTag : ∃ s, k.HasText "ETag" (some s)
  size : ∃ n < Decimal.limit64, k.Holds "Size" (some (toString n))
  storageClass : ∃ value, k.HasText "StorageClass" value
  ownerAlone : (k.named "Owner").length ≤ 1
  owner : ∀ c ∈ k.named "Owner", IsOwner c.inside

theorem IsEntry.wellPlaced (h : IsEntry k) : WellPlaced entryShape k.children := by
  obtain ⟨key, hkey⟩ := h.key
  obtain ⟨lastModified, hlastModified⟩ := h.lastModified
  obtain ⟨eTag, hETag⟩ := h.eTag
  obtain ⟨n, -, hsize⟩ := h.size
  obtain ⟨storageClass, hstorageClass⟩ := h.storageClass
  refine Content.wellPlaced fun p hp => ?_
  simp only [entryShape, required, optional, List.mem_cons, List.not_mem_nil, or_false] at hp
  rcases hp with rfl | rfl | rfl | rfl | rfl | rfl
  · exact hkey.places rfl
  · exact hlastModified.places rfl
  · exact hETag.places rfl
  · exact hsize.places rfl
  · exact hstorageClass.places rfl
  · exact Content.places_records (.inl h.ownerAlone) fun c hc => (h.owner c hc).wellPlaced

/-- An entry is read, with the key that it has. -/
theorem IsEntry.exists_listedObject (h : IsEntry k) :
    ∃ e, entry? (fieldsOf entryShape k.children) = some e ∧
      ∀ key, k.HasText "Key" (some key) → e.key = asRead key := by
  obtain ⟨key, hkey⟩ := h.key
  obtain ⟨lastModified, hlastModified⟩ := h.lastModified
  obtain ⟨eTag, hETag⟩ := h.eTag
  obtain ⟨n, hn, hsize⟩ := h.size
  have howner : (fieldsOf entryShape k.children).record? "Owner" =
      (k.named "Owner").head?.map fun c => fieldsOf ownerShape c.inside.children :=
    record?_fieldsOf rfl fun c hc => (h.owner c hc).wellPlaced
  have hunique (key' : String) (hkey' : k.HasText "Key" (some key')) :
      asRead key = asRead key' := by
    rw [hkey.unique hkey']
  unfold entry?
  rw [hkey.text? rfl, hlastModified.text? rfl, hETag.text? rfl, hsize.number? rfl hn, howner]
  cases hhead : (k.named "Owner").head? with
  | none => exact ⟨_, rfl, hunique⟩
  | some c =>
      obtain ⟨o, ho⟩ := (h.owner c (List.mem_of_head? hhead)).exists_owner?
      simp only [Option.map_some, ho]
      exact ⟨_, rfl, hunique⟩

/-! ## Pages -/

/-- Content that is laid out as a page of a listing. Entries are written one after
the other, and so are common starts of keys. -/
structure IsPage (k : Content) : Prop where
  bucketName : ∃ s, k.HasText "Name" (some s)
  keyPrefix : ∃ value, k.HasText "Prefix" value
  marker : ∃ value, k.HasText "Marker" value
  delimiter : ∃ value, k.HasText "Delimiter" value
  maxKeys : ∃ n < Decimal.limit32, k.Holds "MaxKeys" (some (toString n))
  isTruncated : ∃ b : Bool, k.Holds "IsTruncated" (some (toString b))
  nextMarker : ∃ value, k.HasText "NextMarker" value
  entries : ∀ c ∈ k.named "Contents", IsEntry c.inside
  entriesAdjacent : k.Adjacent "Contents"
  commonPrefixes : ∀ c ∈ k.named "CommonPrefixes", ∃ s, c.inside.HasText "Prefix" (some s)
  commonPrefixesAdjacent : k.Adjacent "CommonPrefixes"

theorem wellPlaced_start (h : ∃ s, k.HasText "Prefix" (some s)) :
    WellPlaced commonPrefixShape k.children := by
  obtain ⟨s, hs⟩ := h
  refine Content.wellPlaced fun p hp => ?_
  simp only [commonPrefixShape, required, List.mem_cons, List.not_mem_nil, or_false] at hp
  subst hp
  exact hs.places rfl

theorem IsPage.wellPlaced (h : IsPage k) : WellPlaced shape k.children := by
  obtain ⟨bucketName, hbucketName⟩ := h.bucketName
  obtain ⟨keyPrefix, hkeyPrefix⟩ := h.keyPrefix
  obtain ⟨marker, hmarker⟩ := h.marker
  obtain ⟨delimiter, hdelimiter⟩ := h.delimiter
  obtain ⟨n, -, hmaxKeys⟩ := h.maxKeys
  obtain ⟨b, hisTruncated⟩ := h.isTruncated
  obtain ⟨nextMarker, hnextMarker⟩ := h.nextMarker
  refine Content.wellPlaced fun q hq => ?_
  simp only [shape, required, optional, List.mem_cons, List.not_mem_nil, or_false] at hq
  rcases hq with rfl | rfl | rfl | rfl | rfl | rfl | rfl | rfl | rfl
  · exact hbucketName.places rfl
  · exact hkeyPrefix.places rfl
  · exact hmarker.places rfl
  · exact hdelimiter.places rfl
  · exact hmaxKeys.places rfl
  · exact hisTruncated.places rfl
  · exact hnextMarker.places rfl
  · exact Content.places_records (.inr ⟨rfl, h.entriesAdjacent⟩)
      fun c hc => (h.entries c hc).wellPlaced
  · exact Content.places_records (.inr ⟨rfl, h.commonPrefixesAdjacent⟩)
      fun c hc => wellPlaced_start (h.commonPrefixes c hc)

/-- **A page is read**, with the entries that it has, each with its key, and with the
next marker. -/
theorem IsPage.exists_parse? {doc : Document} (h : IsPage doc.content) {front back : String}
    (hfront : front.toList.all isXmlBlank = true) (hback : back.toList.all isXmlBlank = true) :
    ∃ page, parse? (Utf8.encode (front ++ doc.written ++ back)) = some page ∧
      List.Forall₂ (fun e c => ∀ key, c.inside.HasText "Key" (some key) → e.key = asRead key)
        page.entries (doc.content.named "Contents") ∧
      (∀ b : Bool, doc.content.HasText "IsTruncated" (some (toString b)) → page.isTruncated = b) ∧
      ∀ value, doc.content.HasText "NextMarker" value →
        page.nextMarker = given? (value.map asRead) := by
  obtain ⟨bucketName, hbucketName⟩ := h.bucketName
  obtain ⟨n, hn, hmaxKeys⟩ := h.maxKeys
  obtain ⟨b, hisTruncated⟩ := h.isTruncated
  obtain ⟨entries, hentries⟩ :=
    exists_forall₂ fun c hc => (h.entries c hc).exists_listedObject
  obtain ⟨starts, hstarts⟩ := exists_forall₂ h.commonPrefixes
  have hread : ((fieldsOf shape doc.content.children).records "Contents").mapM entry? =
      some entries := by
    rw [records_fieldsOf rfl fun c hc => (h.entries c hc).wellPlaced]
    exact mapM_of_forall₂ (hentries.imp fun e c he => he.1)
  have hcommon : ((fieldsOf shape doc.content.children).records "CommonPrefixes").mapM
      commonPrefix? = some (starts.map asRead) := by
    rw [records_fieldsOf rfl fun c hc => wellPlaced_start (h.commonPrefixes c hc)]
    refine mapM_of_forall₂ (List.forall₂_map_left_iff.mpr (hstarts.imp fun s c hs => ?_))
    exact hs.text? rfl
  unfold parse?
  rw [doc.record?_of_wellPlaced hfront hback h.wellPlaced]
  simp only [Option.bind_eq_bind, Option.bind_some]
  rw [hbucketName.text? rfl, hmaxKeys.number? rfl hn, hisTruncated.flag? rfl, hread, hcommon]
  refine ⟨_, rfl, hentries.imp fun e c he => he.2, ?_, ?_⟩
  · intro b' hb'
    have hwords : ∀ b b' : Bool, toString b = toString b' → b = b' := by decide
    exact hwords b b' (hisTruncated.hasText.unique hb')
  · intro value hvalue
    exact congrArg given? (hvalue.text? rfl)

end ListingPage

end ObjectStore
