import ObjectStore.Object.Fetch
import ObjectStore.Object.Put
import ObjectStore.Proofs.Client.Results
import ObjectStore.Proofs.Request.Building
import ObjectStore.Proofs.Request.Verifier

/-!
# Metadata there and back

The metadata of an object goes out in headers and comes back in headers. Calls
that set it are taken in order, so the last value for a key is sent, and an answer
that carries the same headers gives each key its value again. One thing is lost
on the way back: a value is sent as the bytes of its text, but it is read only if
these are ASCII. A value with any other character is left out without a word.
-/

namespace ObjectStore

def isAscii (s : String) : Bool := s.toList.all fun c => decide (c.toNat < 0x80)

namespace Header

/-- A value that was sent reads back as its text if it is ASCII, and does not
read back at all if it is not. -/
theorem text?_encode {value : String} (h : (Utf8.encode value).all isValueByte = true) :
    text? (Utf8.encode value) = if isAscii value = true then some value else none := by
  have hbyte (b : UInt8) (hb : isValueByte b = true) : isTextByte b = true ↔ b.toNat < 0x80 := by
    simp only [isValueByte, isTextByte, Bool.or_eq_true, Bool.and_eq_true, beq_iff_eq,
      bne_iff_ne, decide_eq_true_eq, UInt8.le_iff_toNat_le, ← UInt8.toNat_inj, ne_eq,
      UInt8.reduceToNat] at hb ⊢
    omega
  have htext : (Utf8.encode value).all isTextByte = isAscii value := by
    rw [Bool.eq_iff_iff, isAscii, List.all_eq_true, List.all_eq_true]
    simp only [decide_eq_true_eq]
    rw [← Utf8.forall_mem_encode_lt]
    rw [List.all_eq_true] at h
    exact forall₂_congr fun b hb => hbyte b (h b hb)
  unfold text?
  rw [htext]
  cases hascii : isAscii value with
  | false => rfl
  | true =>
      have hsmall : ∀ c ∈ value.toList, c.toNat < 0x80 := fun c hc =>
        of_decide_eq_true (List.all_eq_true.mp hascii c hc)
      have hback : (Utf8.encode value).map (fun b => Char.ofNat b.toNat) = value.toList := by
        rw [Utf8.encode, Utf8.encodeChars_ascii hsmall, List.map_map]
        refine (List.map_congr_left fun c hc => ?_).trans (List.map_id _)
        have hlt := hsmall c hc
        rw [Function.comp_apply, UInt8.toNat_ofNat', Nat.mod_eq_of_lt (by omega),
          Char.ofNat_toNat, id_eq]
      rw [if_pos rfl, if_pos rfl, hback, String.ofList_toList]

end Header

/-! ## Reading -/

theorem metaKey?_eq_some {header key : String} :
    metaKey? header = some key ↔ header = metaStart ++ key := by
  unfold metaKey?
  constructor
  · intro h
    split at h
    · next hprefix =>
        obtain ⟨rest, hrest⟩ := List.isPrefixOf_iff_prefix.mp hprefix
        obtain rfl := Option.some.inj h
        have hlength : metaStart.length = metaStart.toList.length := rfl
        rw [← String.toList_inj, String.toList_append, String.toList_ofList, ← hrest, hlength,
          List.drop_left]
    · cases h
  · rintro rfl
    have hprefix : metaStart.toList.isPrefixOf (metaStart ++ key).toList = true := by
      rw [String.toList_append]
      exact List.isPrefixOf_iff_prefix.mpr (List.prefix_append _ _)
    have hlength : metaStart.length = metaStart.toList.length := rfl
    rw [if_pos hprefix, String.toList_append, hlength, List.drop_left, String.ofList_toList]

def carriesMetadata (name : String) : Bool := (metaKey? name).isSome

theorem carriesMetadata_append (key : String) : carriesMetadata (metaStart ++ key) = true := by
  rw [carriesMetadata, metaKey?_eq_some.mpr rfl]
  rfl

theorem carriesMetadata_of_isAdded {name : String} (h : Header.isAdded name = true) :
    carriesMetadata name = false := by
  simp only [Header.isAdded, Bool.or_eq_true, beq_iff_eq] at h
  rcases h with (rfl | rfl) | rfl
  · decide
  · decide
  · decide

/-- The same headers with metadata, in any order. -/
def HeaderMap.SameMetadata (m m' : HeaderMap) : Prop :=
  (m.toList.filter fun h => carriesMetadata h.1).Perm
    (m'.toList.filter fun h => carriesMetadata h.1)

namespace ObjectInfo

def entryOf? (h : String × Bytes) : Option (String × String) := do
  return (← metaKey? h.1, ← Header.text? h.2)

theorem entryOf?_eq_some {h : String × Bytes} {p : String × String} :
    entryOf? h = some p ↔ h.1 = metaStart ++ p.1 ∧ Header.text? h.2 = some p.2 := by
  rw [← metaKey?_eq_some, entryOf?]
  cases metaKey? h.1 <;> cases Header.text? h.2 <;> simp [Prod.ext_iff]

theorem filterMap_entryOf? (l : List (String × Bytes)) :
    l.filterMap entryOf? = (l.filter fun h => carriesMetadata h.1).filterMap entryOf? := by
  rw [List.filterMap_filter]
  apply List.filterMap_congr
  intro h _
  unfold carriesMetadata entryOf?
  cases metaKey? h.1 <;> rfl

theorem get?_customOf {headers : HeaderMap} {sent : SortedMap String}
    (h : headers.SameMetadata (.ofSorted sent)) (key : String) :
    (customOf headers).get? key =
      (sent.get? (metaStart ++ key)).bind fun value => Header.text? (Utf8.encode value) := by
  have hperm : (headers.toList.filterMap entryOf?).Perm
      ((HeaderMap.ofSorted sent).toList.filterMap entryOf?) := by
    rw [filterMap_entryOf?, filterMap_entryOf? (HeaderMap.ofSorted sent).toList]
    exact h.filterMap entryOf?
  -- headers of different names are entries of different keys
  have hnodup : ((headers.toList.filterMap entryOf?).map Prod.fst).Nodup := by
    have hsorted : (sent.entries.map fun p => (p.1, Utf8.encode p.2)).Pairwise
        fun g g' => g.1 < g'.1 := List.pairwise_map.mpr sent.ascending
    rw [(hperm.map Prod.fst).nodup_iff, List.Nodup, List.pairwise_map, HeaderMap.toList_ofSorted]
    refine List.Pairwise.filterMap entryOf? ?_ hsorted
    intro g g' hlt p hp q hq heq
    rw [(entryOf?_eq_some.mp hp).1, (entryOf?_eq_some.mp hq).1, heq] at hlt
    exact String.lt_irrefl _ hlt
  ext value
  have hcustom : customOf headers = .ofList (headers.toList.filterMap entryOf?) := rfl
  rw [hcustom, SortedMap.get?_ofList, SortedMap.last?_eq_some_iff hnodup, hperm.mem_iff,
    List.mem_filterMap, HeaderMap.toList_ofSorted, Option.bind_eq_some_iff]
  constructor
  · rintro ⟨header, hmem, hentry⟩
    obtain ⟨p, hp, rfl⟩ := List.mem_map.mp hmem
    obtain ⟨hname, htext⟩ := entryOf?_eq_some.mp hentry
    dsimp only at hname htext
    exact ⟨p.2, SortedMap.mem_entries_iff.mp (hname ▸ hp), htext⟩
  · rintro ⟨sentValue, hsent, htext⟩
    exact ⟨_, List.mem_map_of_mem (SortedMap.mem_entries_iff.mpr hsent),
      entryOf?_eq_some.mpr ⟨rfl, htext⟩⟩

theorem ofHeaders_eq_ok {headers : HeaderMap} {length : Nat} {eTag : String}
    (hlength : lengthOf headers = .ok length) (hETag : headers.text? "etag" = some eTag) :
    ∃ info, ofHeaders headers = .ok info ∧ info.custom = customOf headers := by
  unfold ofHeaders
  rw [hlength, hETag]
  exact ⟨_, rfl, rfl⟩

end ObjectInfo

/-! ## Setting -/

/-- A call that sets metadata: one entry, or several one after the other. -/
inductive MetaCall where
  | one (key value : String)
  | many (entries : List (String × String))

namespace MetaCall

def entries : MetaCall → List (String × String)
  | .one key value => [(key, value)]
  | .many entries => entries

def on (o : PutOptions) : MetaCall → PutOptions
  | .one key value => o.withMeta key value
  | .many entries => o.withMetas entries

end MetaCall

/-- Options without metadata, also among the other headers. -/
structure PutOptions.NoMetadata (o : PutOptions) : Prop where
  custom : o.custom = ∅
  other : ∀ h ∈ o.headers.entries, carriesMetadata (Header.lowerCase h.1) = false

def PutOptions.afterCalls (o : PutOptions) (calls : List MetaCall) : PutOptions :=
  calls.foldl MetaCall.on o

/-- The metadata that was set: the value last given for a key, in whatever
case the key was given. -/
def lastGiven (calls : List MetaCall) (key : String) : Option String :=
  SortedMap.last? ((calls.flatMap MetaCall.entries).map fun e => (Header.lowerCase e.1, e.2)) key

def metadataOf (calls : List MetaCall) : SortedMap String :=
  .ofList ((calls.flatMap MetaCall.entries).map fun e => (Header.lowerCase e.1, e.2))

theorem get?_metadataOf (calls : List MetaCall) (key : String) :
    (metadataOf calls).get? key = lastGiven calls key :=
  SortedMap.get?_ofList _ _

theorem metaHeader_eq_iff {key key' : String} :
    metaHeader key = metaStart ++ key' ↔ Header.lowerCase key = key' := by
  rw [metaHeader]
  exact String.append_right_inj metaStart

namespace PutOptions

theorem afterCalls_eq (o : PutOptions) (calls : List MetaCall) :
    o.afterCalls calls = o.withMetas (calls.flatMap MetaCall.entries) := by
  induction calls generalizing o with
  | nil => rfl
  | cons call calls ih =>
      have hon : call.on o = o.withMetas call.entries := by cases call <;> rfl
      show (call.on o).afterCalls calls = _
      rw [ih, hon, List.flatMap_cons, withMetas, withMetas, withMetas, List.foldl_append]

theorem withMetas_eq (o : PutOptions) (entries : List (String × String)) :
    o.withMetas entries =
      { o with custom := entries.foldl (fun m e => m.insert (metaHeader e.1) e.2) o.custom } := by
  induction entries generalizing o with
  | nil => rfl
  | cons e entries ih =>
      show (o.withMeta e.1 e.2).withMetas entries = _
      rw [ih]
      rfl

theorem lowerCase_afterCalls {o : PutOptions} (h : LowerCase o.custom) (calls : List MetaCall) :
    LowerCase (o.afterCalls calls).custom := by
  have hname (key : String) : Header.lowerCase (metaHeader key) = metaHeader key := by
    have hstart : Header.lowerCase metaStart = metaStart := by decide
    rw [metaHeader, Header.lowerCase_append, hstart, Header.lowerCase_lowerCase]
  rw [afterCalls_eq, withMetas_eq]
  exact h.foldl_insert hname _

theorem get?_custom_afterCalls {o : PutOptions} (h : o.custom = ∅) (calls : List MetaCall)
    (key : String) :
    (o.afterCalls calls).custom.get? (metaStart ++ key) = lastGiven calls key := by
  have hkeys (key' : String) :
      metaHeader key' = metaStart ++ key ↔ Header.lowerCase key' = key := metaHeader_eq_iff
  rw [afterCalls_eq, withMetas_eq]
  dsimp only
  rw [SortedMap.get?_foldl_insert, h, lastGiven, SortedMap.last?_map_congr hkeys]
  exact Option.or_none

def typedHeaders (o : PutOptions) : List (String × String) :=
  (CannedAcl.header, o.acl.text) :: o.typed.filterMap fun h => h.2.map (h.1, ·)

def typedNames : List String :=
  [CannedAcl.header, "content-type", "cache-control", "content-disposition", "content-encoding",
    "expires"]

theorem mem_typedNames {o : PutOptions} {h : String × String} (hmem : h ∈ o.typedHeaders) :
    h.1 ∈ typedNames := by
  have hnames : CannedAcl.header :: o.typed.map Prod.fst = typedNames := rfl
  rw [← hnames]
  rcases List.mem_cons.mp hmem with rfl | hmem
  · exact List.mem_cons_self
  · obtain ⟨⟨name, value⟩, htyped, hvalue⟩ := List.mem_filterMap.mp hmem
    obtain ⟨v, -, rfl⟩ := Option.map_eq_some_iff.mp hvalue
    exact List.mem_cons_of_mem _ (List.mem_map_of_mem htyped)

theorem carriesMetadata_typedHeaders {o : PutOptions} {h : String × String}
    (hmem : h ∈ o.typedHeaders) : carriesMetadata (Header.lowerCase h.1) = false := by
  have hnames : ∀ name ∈ typedNames, carriesMetadata (Header.lowerCase name) = false := by decide
  exact hnames h.1 (mem_typedNames hmem)

/-- What the operation has for a name: metadata before other headers, and these
before the typed options. -/
theorem get?_operation_eq (o : PutOptions) (bucket key name : String) :
    (o.operation bucket key).headers.get? name =
      (SortedMap.last? (o.custom.entries.map fun h => (Header.lowerCase h.1, h.2)) name).or
        ((SortedMap.last? (o.headers.entries.map fun h => (Header.lowerCase h.1, h.2)) name).or
          (SortedMap.last? (o.typedHeaders.map fun h => (Header.lowerCase h.1, h.2)) name)) := by
  have hall : o.allHeaders = o.typedHeaders ++ o.headers.entries ++ o.custom.entries := rfl
  rw [operation_eq, SortedMap.get?_foldl_insert, hall, List.map_append, List.map_append,
    SortedMap.last?_append, SortedMap.last?_append]
  exact Option.or_none

theorem map_lowerCase {headers : SortedMap String} (h : LowerCase headers) :
    headers.entries.map (fun h => (Header.lowerCase h.1, h.2)) = headers.entries :=
  (List.map_congr_left fun p hp => by rw [h p hp]; rfl).trans (List.map_id _)

theorem get?_operation {o : PutOptions} (hlower : LowerCase o.custom)
    (hother : ∀ h ∈ o.headers.entries, carriesMetadata (Header.lowerCase h.1) = false)
    (bucket key entry : String) :
    (o.operation bucket key).headers.get? (metaStart ++ entry) =
      o.custom.get? (metaStart ++ entry) := by
  have hnone {l : List (String × String)}
      (hl : ∀ h ∈ l, carriesMetadata (Header.lowerCase h.1) = false) :
      SortedMap.last? (l.map fun h => (Header.lowerCase h.1, h.2)) (metaStart ++ entry) = none := by
    apply SortedMap.last?_of_ne
    intro e he heq
    obtain ⟨h, hh, rfl⟩ := List.mem_map.mp he
    have hcarries := hl h hh
    dsimp only at heq
    rw [heq, carriesMetadata_append] at hcarries
    cases hcarries
  rw [get?_operation_eq, map_lowerCase hlower, hnone hother,
    hnone fun h hh => carriesMetadata_typedHeaders hh, ← SortedMap.get?_eq_last?]
  exact Option.or_none

end PutOptions

theorem PutBody.get?_attach {op op' : Operation} {body : PutBody}
    (h : body.attach op = .ok op') (entry : String) :
    op'.headers.get? (metaStart ++ entry) = op.headers.get? (metaStart ++ entry) := by
  have hne : metaStart ++ entry ≠ Header.lowerCase "content-md5" := by
    intro heq
    have hcarries := carriesMetadata_append entry
    rw [heq] at hcarries
    exact absurd hcarries (by decide)
  obtain ⟨md5, sent, -, rfl⟩ := attach_eq_ok.mp h
  rw [Operation.withBody, Operation.withHeader, SortedMap.get?_insert, if_neg hne]

/-! ## There -/

namespace Client

variable {c : Client} {bucket key : String} {now : Instant}

/-- A request carries the metadata that was set, each entry in a header that
could be sent. -/
theorem metadata_of_request {o : PutOptions} (ho : o.NoMetadata)
    {calls : List MetaCall} {body : PutBody} {r : Request}
    (h : (c.putObject (o.afterCalls calls) bucket key body now).request? = some r) :
    ∃ sent, r.headers = .ofSorted sent ∧ ∀ entry,
      sent.get? (metaStart ++ entry) = lastGiven calls entry ∧
      ∀ value, lastGiven calls entry = some value →
        (Utf8.encode value).all Header.isValueByte = true := by
  obtain ⟨-, op, hattach, hsent⟩ := request?_putObject.mp h
  have hlower : LowerCase op.headers :=
    (PutBody.built_attach (PutOptions.built_operation _ _ _) hattach).lowerCase
  have hnone : LowerCase o.custom := by
    rw [ho.custom]
    exact LowerCase.empty
  have hheaders : (o.afterCalls calls).headers = o.headers := by
    rw [PutOptions.afterCalls_eq, PutOptions.withMetas_eq]
  have hop (entry : String) : op.headers.get? (metaStart ++ entry) = lastGiven calls entry := by
    rw [PutBody.get?_attach hattach,
      PutOptions.get?_operation (PutOptions.lowerCase_afterCalls hnone calls)
        (by rw [hheaders]; exact ho.other),
      PutOptions.get?_custom_afterCalls ho.custom]
  have hkept (entry : String) : Header.isAdded (metaStart ++ entry) = false :=
    isAdded_eq_false (fun _ => carriesMetadata_of_isAdded) (carriesMetadata_append entry)
  refine ⟨c.sentHeaders op now, ?_, ?_⟩
  · obtain ⟨-, -, rfl⟩ := (prepare_eq_ok_iff hlower).mp hsent
    rfl
  · intro entry
    refine ⟨(get?_sentHeaders (hkept entry)).trans (hop entry), ?_⟩
    intro value hvalue
    have hfault := fault?_eq_none_of_prepare hlower hsent (hkept entry) ((hop entry).trans hvalue)
    exact (Header.fault?_eq_none hfault).2

/-! ## And back -/

/-- What comes back is what was set, as far as it is ASCII. -/
theorem get?_customOf_returned {o : PutOptions} (ho : o.NoMetadata)
    {calls : List MetaCall} {body : PutBody} {r : Request}
    (h : (c.putObject (o.afterCalls calls) bucket key body now).request? = some r)
    {headers : HeaderMap} (hsame : headers.SameMetadata r.headers) (entry : String) :
    (ObjectInfo.customOf headers).get? entry = (lastGiven calls entry).filter isAscii := by
  obtain ⟨sent, hsent, hmetadata⟩ := metadata_of_request ho h
  obtain ⟨hget, hvalid⟩ := hmetadata entry
  rw [hsent] at hsame
  rw [ObjectInfo.get?_customOf hsame, hget]
  cases hlast : lastGiven calls entry with
  | none => rfl
  | some value =>
      rw [Option.bind_some, Header.text?_encode (hvalid value hlast), Option.filter_some]

/-- **Metadata comes back as it was set if it is ASCII.** Take any calls that set
metadata for a request that stores an object, and any answer of success that
carries the same headers with metadata, a length and an entity tag. Fetching an
object, or what is known about it, over this answer gives for each key the last
value that was set for it if it is ASCII and nothing if it is not. So all of the
metadata comes back just if all of it is ASCII. -/
theorem metadata_returned {o : PutOptions} (ho : o.NoMetadata)
    (calls : List MetaCall) {body : PutBody} {r : Request} {a : Answer}
    (h : (c.putObject (o.afterCalls calls) bucket key body now).request? = some r)
    (hsuccess : isSuccess a.status = true) (hsame : a.headers.SameMetadata r.headers)
    {length : Nat} (hlength : ObjectInfo.lengthOf a.headers = .ok length) {eTag : String}
    (hETag : a.headers.text? "etag" = some eTag) :
    ∃ info,
      (∀ (c' : Client) (bucket' key' : String) (now' : Instant) (request : Request) {σ : Type}
          (t : Transport σ) (s s' : σ),
        t.send s request = (s', .answered a) →
        ((c'.headObject bucket' key' now').request? = some request →
            (c'.headObject bucket' key' now').resultOver t s = some (.ok info)) ∧
          ((c'.getObject bucket' key' now').request? = some request →
            (c'.getObject bucket' key' now').resultOver t s =
              some (.ok ⟨info, ⟨a.body, a.connection⟩⟩))) ∧
      (∀ entry, info.custom.get? entry = (lastGiven calls entry).filter isAscii) ∧
      (info.custom = metadataOf calls ↔
        ∀ entry value, lastGiven calls entry = some value → isAscii value = true) := by
  obtain ⟨info, hinfo, hread⟩ := ObjectInfo.ofHeaders_eq_ok hlength hETag
  have hreturned (entry : String) :
      info.custom.get? entry = (lastGiven calls entry).filter isAscii := by
    rw [hread]
    exact get?_customOf_returned ho h hsame entry
  refine ⟨info, ?_, hreturned, ?_⟩
  · intro c' bucket' key' now' request σ t s s' hanswer
    exact ⟨fun hrequest => resultOver_headObject hrequest hanswer hsuccess hinfo,
      fun hrequest => resultOver_getObject hrequest hanswer hsuccess hinfo⟩
  · constructor
    · intro hall entry value hlast
      have hentry := hreturned entry
      rw [hall, get?_metadataOf, hlast] at hentry
      exact (Option.filter_eq_some_iff.mp hentry.symm).2
    · intro hascii
      apply SortedMap.ext_get?
      intro entry
      rw [hreturned, get?_metadataOf]
      cases hlast : lastGiven calls entry with
      | none => rfl
      | some value => exact Option.filter_eq_some_iff.mpr ⟨rfl, hascii entry value hlast⟩

/-! ## An owner -/

theorem filter_carriesMetadata {op : Operation} {r : Request} (hlower : LowerCase op.headers)
    (h : c.prepare op now = .ok r) :
    (r.headers.toList.filter fun h => carriesMetadata h.1) =
      (op.headers.entries.filter fun p => carriesMetadata p.1).map
        fun p => (p.1, Utf8.encode p.2) := by
  have hkept : (c.sentHeaders op now).entries.filter (fun p => carriesMetadata p.1) =
      op.headers.entries.filter fun p => carriesMetadata p.1 :=
    filter_sentHeaders fun _ => carriesMetadata_of_isAdded
  obtain ⟨-, -, rfl⟩ := (prepare_eq_ok_iff hlower).mp h
  dsimp only
  rw [HeaderMap.toList_ofSorted, List.filter_map, ← hkept]
  rfl

theorem noMetadata_usual : PutOptions.usual.NoMetadata := ⟨rfl, fun h hh => by cases hh⟩

def ownedBy (owner : String) : List MetaCall := [.one "Owner" "dev", .many [("owner", owner)]]

def storingFor (owner : String) : Exchange PutReceipt :=
  (ofLocalService 1024).putObject (PutOptions.usual.afterCalls (ownedBy owner)) "logs" "k"
    (.stream [] 0 "") ⟨0⟩

def answerFor (owner : String) : Answer :=
  ⟨200, ⟨[("content-length", [Utf8.encode "0"]), ("etag", [Utf8.encode "tag"]),
    ("x-amz-meta-owner", [Utf8.encode owner])]⟩, none, .acquired⟩

def answeringWith (a : Answer) : Transport Unit where
  send _ _ := ((), .answered a)

def ownedOperation (owner : String) : Operation :=
  (((PutOptions.usual.afterCalls (ownedBy owner)).operation "logs" "k").withHeader "content-md5"
    "").withBody (.stream [] 0)

theorem exists_request_storingFor (owner : String)
    (hfit : ∀ p ∈ (ownedOperation owner).headers.entries, Header.fault? p = none)
    (hcarried : ((ownedOperation owner).headers.entries.filter fun p => carriesMetadata p.1) =
      [("x-amz-meta-owner", owner)])
    (hpath : ((ofLocalService 1024).endpoint.withPath (ownedOperation owner).path).path =
      (ownedOperation owner).path) :
    ∃ r, (storingFor owner).request? = some r ∧
      (answerFor owner).headers.SameMetadata r.headers := by
  have hlower : LowerCase (ownedOperation owner).headers :=
    (Operation.Built.withBody _ (.withHeader _ _ (PutOptions.built_operation _ _ _))).lowerCase
  obtain ⟨r, hr⟩ : ∃ r, (ofLocalService 1024).prepare (ownedOperation owner) ⟨0⟩ = .ok r :=
    exists_request hlower hfit (by decide) hpath
  refine ⟨r, request?_putObject.mpr ⟨by decide, _, rfl, hr⟩, ?_⟩
  have hsent := filter_carriesMetadata hlower hr
  rw [hcarried] at hsent
  have hanswer : ((answerFor owner).headers.toList.filter fun h => carriesMetadata h.1) =
      [("x-amz-meta-owner", Utf8.encode owner)] := by
    have hlist : (answerFor owner).headers.toList = [("content-length", Utf8.encode "0"),
      ("etag", Utf8.encode "tag"), ("x-amz-meta-owner", Utf8.encode owner)] := rfl
    have hcarries : carriesMetadata "content-length" = false ∧ carriesMetadata "etag" = false ∧
      carriesMetadata "x-amz-meta-owner" = true := by decide
    simp only [hlist, List.filter_cons, hcarries, Bool.false_eq_true, if_false, if_true,
      List.filter_nil]
  rw [HeaderMap.SameMetadata, hsent, hanswer]
  exact List.Perm.refl _

theorem exists_request_headObject :
    ∃ request, ((ofLocalService 1024).headObject "logs" "k" ⟨0⟩).request? = some request := by
  obtain ⟨request, hsent⟩ : ∃ r,
      (ofLocalService 1024).prepare (objectOperation .head "logs" "k") ⟨0⟩ = .ok r :=
    exists_request LowerCase.empty (by decide) (by decide) (by decide +kernel)
  refine ⟨request, request?_onObject.mpr ⟨by decide, ?_⟩⟩
  rw [Exchange.request?_andThen, fetch, Exchange.request?_andThen, ask, request?_send]
  exact hsent

/-- An owner that is ASCII comes back. -/
theorem metadata_returned_ops :
    ∃ r request info, (storingFor "ops").request? = some r ∧
      (answerFor "ops").headers.SameMetadata r.headers ∧
      ((ofLocalService 1024).headObject "logs" "k" ⟨0⟩).request? = some request ∧
      ((ofLocalService 1024).headObject "logs" "k" ⟨0⟩).resultOver
        (answeringWith (answerFor "ops")) () = some (.ok info) ∧
      info.custom.get? "owner" = some "ops" := by
  obtain ⟨r, hr, hsame⟩ := exists_request_storingFor "ops" (by decide +kernel)
    (by decide +kernel) (by decide +kernel)
  obtain ⟨request, hrequest⟩ := exists_request_headObject
  have hlength : ObjectInfo.lengthOf (answerFor "ops").headers = .ok 0 := by decide +kernel
  have hETag : (answerFor "ops").headers.text? "etag" = some "tag" := by decide +kernel
  obtain ⟨info, hresult, hreturned, -⟩ := metadata_returned (a := answerFor "ops") noMetadata_usual
    (ownedBy "ops") hr rfl hsame hlength hETag
  obtain ⟨hhead, -⟩ := hresult (ofLocalService 1024) "logs" "k" ⟨0⟩ request
    (answeringWith (answerFor "ops")) () () rfl
  have howner : lastGiven (ownedBy "ops") "owner" = some "ops" := by decide +kernel
  refine ⟨r, request, info, hr, hsame, hrequest, hhead hrequest, ?_⟩
  rw [hreturned, howner]
  decide

/-- An owner that is not ASCII is lost. It is sent, the answer carries it, and
it does not come back. -/
theorem metadata_lost_accented :
    ∃ r request info, (storingFor "é").request? = some r ∧
      (answerFor "é").headers.SameMetadata r.headers ∧
      ((ofLocalService 1024).headObject "logs" "k" ⟨0⟩).request? = some request ∧
      ((ofLocalService 1024).headObject "logs" "k" ⟨0⟩).resultOver
        (answeringWith (answerFor "é")) () = some (.ok info) ∧
      lastGiven (ownedBy "é") "owner" = some "é" ∧ info.custom.get? "owner" = none := by
  obtain ⟨r, hr, hsame⟩ := exists_request_storingFor "é" (by decide +kernel)
    (by decide +kernel) (by decide +kernel)
  obtain ⟨request, hrequest⟩ := exists_request_headObject
  have hlength : ObjectInfo.lengthOf (answerFor "é").headers = .ok 0 := by decide +kernel
  have hETag : (answerFor "é").headers.text? "etag" = some "tag" := by decide +kernel
  obtain ⟨info, hinfo, hread⟩ := ObjectInfo.ofHeaders_eq_ok hlength hETag
  have howner : lastGiven (ownedBy "é") "owner" = some "é" := by decide +kernel
  refine ⟨r, request, info, hr, hsame, hrequest, ?_, howner, ?_⟩
  · exact resultOver_headObject hrequest rfl rfl hinfo
  · rw [hread, get?_customOf_returned noMetadata_usual hr hsame, howner]
    decide

end Client
end ObjectStore
