import ObjectStore.Proofs.Object.Metadata

/-!
# Which headers store an object

The headers of a request that stores an object come from five places: the calls
that set metadata, the calls that set any other header, the typed options, the
body, and the client that signs. Whatever was called, in whatever order and with
names in whatever case, there is one rule for which of them counts for a name.
-/

namespace ObjectStore

/-! ## What is asked for -/

/-- A call that sets headers: metadata, or any other header. -/
inductive HeaderCall where
  | metadata (call : MetaCall)
  | header (name value : String)

def HeaderCall.on (o : PutOptions) : HeaderCall → PutOptions
  | .metadata call => call.on o
  | .header name value => o.withHeader name value

def metaCalls (calls : List HeaderCall) : List MetaCall :=
  calls.filterMap fun
    | .metadata call => some call
    | .header _ _ => none

def headerEntries (calls : List HeaderCall) : List (String × String) :=
  calls.filterMap fun
    | .metadata _ => none
    | .header name value => some (name, value)

/-- The value last given for a header, in whatever case its name was given. -/
def lastHeader (calls : List HeaderCall) (name : String) : Option String :=
  SortedMap.last? ((headerEntries calls).map fun e => (Header.lowerCase e.1, e.2)) name

namespace PutOptions

def afterAll (o : PutOptions) (calls : List HeaderCall) : PutOptions :=
  calls.foldl HeaderCall.on o

/-- Options before any call: all of their headers are typed. -/
structure OnlyTyped (o : PutOptions) : Prop where
  custom : o.custom = ∅
  headers : o.headers = ∅

def typed? (o : PutOptions) (name : String) : Option String := (o.typed.lookup name).join

/-- What options and calls ask for under a name: the metadata last set for it,
or the header last set, or the typed option, or the access list. -/
def asked? (o : PutOptions) (calls : List HeaderCall) (name : String) : Option String :=
  ((metaKey? name).bind (lastGiven (metaCalls calls))).or <|
    (lastHeader calls name).or <|
      (o.typed? name).or <|
        if name = CannedAcl.header then some o.acl.text else none

variable {o : PutOptions}

def withEntries (headers : SortedMap String) (entries : List (String × String)) :
    SortedMap String :=
  entries.foldl (fun m e => m.insert (Header.lowerCase e.1) e.2) headers

/-- Calls that set metadata and calls that set other headers leave each other
alone. -/
theorem afterAll_eq (o : PutOptions) (calls : List HeaderCall) :
    o.afterAll calls =
      { o.afterCalls (metaCalls calls) with
        headers := withEntries o.headers (headerEntries calls) } := by
  induction calls generalizing o with
  | nil => rfl
  | cons call calls ih =>
      have hstep : o.afterAll (call :: calls) = (call.on o).afterAll calls := rfl
      rw [hstep, ih]
      cases call with
      | metadata call =>
          have hheaders : (call.on o).headers = o.headers := by
            cases call with
            | one key value => rfl
            | many entries =>
                show (o.withMetas entries).headers = o.headers
                rw [withMetas_eq]
          show { (call.on o).afterCalls (metaCalls calls) with
            headers := withEntries (call.on o).headers (headerEntries calls) } = _
          rw [hheaders]
          rfl
      | header name value =>
          show { (o.withHeader name value).afterCalls (metaCalls calls) with
            headers := withEntries (o.withHeader name value).headers (headerEntries calls) } = _
          rw [afterCalls_eq, afterCalls_eq, withMetas_eq, withMetas_eq]
          rfl

theorem get?_headers_afterAll (ho : o.OnlyTyped) (calls : List HeaderCall) (name : String) :
    (o.afterAll calls).headers.get? name = lastHeader calls name := by
  rw [afterAll_eq]
  dsimp only
  rw [withEntries, SortedMap.get?_foldl_insert, ho.headers]
  exact Option.or_none

theorem get?_custom_afterAll (ho : o.OnlyTyped) (calls : List HeaderCall) (name : String) :
    (o.afterAll calls).custom.get? name =
      (metaKey? name).bind (lastGiven (metaCalls calls)) := by
  have hcustom : (o.afterAll calls).custom = (o.afterCalls (metaCalls calls)).custom := by
    rw [afterAll_eq]
  rw [hcustom]
  cases hkey : metaKey? name with
  | some key =>
      obtain rfl := metaKey?_eq_some.mp hkey
      exact get?_custom_afterCalls ho.custom _ key
  | none =>
      rw [afterCalls_eq, withMetas_eq]
      dsimp only
      rw [SortedMap.get?_foldl_insert, ho.custom, SortedMap.last?_of_ne]
      · rfl
      · -- only headers of metadata are written
        rintro e he rfl
        obtain ⟨entry, -, rfl⟩ := List.mem_map.mp he
        rw [metaHeader, metaKey?_eq_some.mpr rfl] at hkey
        cases hkey

theorem lowerCase_headers_afterAll (ho : o.OnlyTyped) (calls : List HeaderCall) :
    LowerCase (o.afterAll calls).headers := by
  rw [afterAll_eq]
  dsimp only
  rw [ho.headers]
  exact LowerCase.empty.foldl_insert Header.lowerCase_lowerCase _

theorem lowerCase_custom_afterAll (ho : o.OnlyTyped) (calls : List HeaderCall) :
    LowerCase (o.afterAll calls).custom := by
  have hnone : LowerCase o.custom := by
    rw [ho.custom]
    exact LowerCase.empty
  rw [afterAll_eq]
  exact lowerCase_afterCalls hnone _

theorem last?_filterMap {l : List (String × Option String)} (h : (l.map Prod.fst).Nodup)
    (name : String) :
    SortedMap.last? (l.filterMap fun h => h.2.map (h.1, ·)) name = (l.lookup name).join := by
  induction l with
  | nil => rfl
  | cons p rest ih =>
      obtain ⟨key, value⟩ := p
      rw [List.map_cons, List.nodup_cons] at h
      rw [List.filterMap_cons, SortedMap.lookup_cons_eq]
      have hrest := ih h.2
      by_cases hname : name = key
      · subst hname
        have hnone : SortedMap.last? (rest.filterMap fun h => h.2.map (h.1, ·)) name = none := by
          apply SortedMap.last?_of_ne
          rintro e he rfl
          obtain ⟨q, hq, hvalue⟩ := List.mem_filterMap.mp he
          obtain ⟨v, -, rfl⟩ := Option.map_eq_some_iff.mp hvalue
          exact h.1 (List.mem_map.mpr ⟨q, hq, rfl⟩)
        rw [if_pos rfl]
        cases value with
        | none => exact hnone
        | some v =>
            rw [Option.map_some, SortedMap.last?_cons, hnone, if_pos rfl]
            rfl
      · rw [if_neg hname, ← hrest]
        cases value with
        | none => rfl
        | some v => rw [Option.map_some, SortedMap.last?_cons, if_neg (Ne.symm hname), Option.or_none]

theorem last?_typedHeaders (o : PutOptions) (name : String) :
    SortedMap.last? (o.typedHeaders.map fun h => (Header.lowerCase h.1, h.2)) name =
      (o.typed? name).or (if name = CannedAcl.header then some o.acl.text else none) := by
  have hlower : o.typedHeaders.map (fun h => (Header.lowerCase h.1, h.2)) = o.typedHeaders := by
    refine (List.map_congr_left fun h hh => ?_).trans (List.map_id _)
    have hnames : ∀ name ∈ typedNames, Header.lowerCase name = name := by decide
    rw [hnames h.1 (mem_typedNames hh)]
    rfl
  have hnodup : (o.typed.map Prod.fst).Nodup := by
    show ["content-type", "cache-control", "content-disposition", "content-encoding",
      "expires"].Nodup
    decide
  rw [hlower, typedHeaders, SortedMap.last?_cons, last?_filterMap hnodup]
  simp only [eq_comm]
  rfl

theorem get?_operation_afterAll (ho : o.OnlyTyped) (calls : List HeaderCall)
    (bucket key name : String) :
    ((o.afterAll calls).operation bucket key).headers.get? name = o.asked? calls name := by
  have htyped : (o.afterAll calls).typed? name = o.typed? name ∧
      (o.afterAll calls).acl = o.acl := by
    rw [afterAll_eq, afterCalls_eq, withMetas_eq]
    exact ⟨rfl, rfl⟩
  rw [get?_operation_eq, map_lowerCase (lowerCase_custom_afterAll ho calls),
    map_lowerCase (lowerCase_headers_afterAll ho calls), ← SortedMap.get?_eq_last?,
    ← SortedMap.get?_eq_last?, last?_typedHeaders, get?_custom_afterAll ho,
    get?_headers_afterAll ho, htyped.1, htyped.2]
  rfl

end PutOptions

/-! ## What is sent -/

def OutgoingBody.streamLength? : OutgoingBody → Option Nat
  | .stream _ length => some length
  | _ => none

/-- A body is sent with a digest: bytes and files whole with the digest of what is
sent, a file with its length, and a stream with what was declared. -/
def PutBody.SentAs (md5 : String) (sent : OutgoingBody) : PutBody → Prop
  | .bytes bs => md5 = contentMd5 bs ∧ sent = .bytes bs
  | .file f => ∃ k, f.content = some k ∧ md5 = contentMd5 k.bytes ∧ sent.read = .ok k.bytes ∧
      sent.streamLength? = some k.bytes.length
  | .stream chunks length declared => md5 = declared ∧ sent = .stream chunks length

theorem PutBody.sentAs_of_sent? {body : PutBody} {md5 : String} {sent : OutgoingBody}
    (h : body.sent? = some (md5, sent)) : body.SentAs md5 sent := by
  cases body with
  | bytes bs =>
      obtain ⟨rfl, rfl⟩ := Prod.mk.inj (Option.some.inj h)
      exact ⟨rfl, rfl⟩
  | file f =>
      obtain ⟨k, hk, hsent⟩ := Option.map_eq_some_iff.mp h
      obtain ⟨rfl, rfl⟩ := Prod.mk.inj hsent
      exact ⟨k, hk, rfl, k.collect_sent, rfl⟩
  | stream chunks length declared =>
      obtain ⟨rfl, rfl⟩ := Prod.mk.inj (Option.some.inj h)
      exact ⟨rfl, rfl⟩

namespace Client

variable {c : Client} {op : Operation} {now : Instant}

theorem get?_sentHeaders_eq (name : String) :
    (c.sentHeaders op now).get? name =
      if name = "date" then some (HttpDate.format now)
      else if name = "authorization" then some (Signature.authorization c.credentials op now)
      else if name = "content-length" then
        (op.body.streamLength?.map toString).or (op.headers.get? name)
      else op.headers.get? name := by
  by_cases hdate : name = "date"
  · rw [if_pos hdate, hdate, get?_sentHeaders_date]
  rw [if_neg hdate]
  by_cases hauthorization : name = "authorization"
  · rw [if_pos hauthorization, hauthorization, get?_sentHeaders_authorization]
  rw [if_neg hauthorization]
  have hsigned : ((op.headers.insert "date" (HttpDate.format now)).insert "authorization"
      (Signature.authorization c.credentials op now)).get? name = op.headers.get? name := by
    rw [SortedMap.get?_insert, if_neg hauthorization, SortedMap.get?_insert, if_neg hdate]
  unfold sentHeaders
  cases hbody : op.body with
  | empty =>
      dsimp only [OutgoingBody.streamLength?]
      rw [hsigned, Option.map_none, Option.none_or, ite_self]
  | bytes bs =>
      dsimp only [OutgoingBody.streamLength?]
      rw [hsigned, Option.map_none, Option.none_or, ite_self]
  | stream chunks length =>
      dsimp only [OutgoingBody.streamLength?]
      rw [SortedMap.get?_insert, hsigned]
      rfl

/-- The header that stores an object under a name. Date and signature are the
client's, the digest and the length of a stream go with the body, and everything
else is what was asked for. The signature is that of a text that is read off the
request. -/
def storedHeader? (c : Client) (o : PutOptions) (calls : List HeaderCall) (md5 : String)
    (now : Instant) (r : Request) (name : String) : Option String :=
  if name = "date" then some (HttpDate.format now)
  else if name = "authorization" then
    some ("AWS " ++ c.credentials.keyId ++ ":" ++
      Signature.sign c.credentials.secret (Verifier.textOn r r.url.path))
  else if name = "content-md5" then some md5
  else if name = "content-length" then
    (r.body.streamLength?.map toString).or (o.asked? calls name)
  else o.asked? calls name

/-- **Which headers store an object.** Whatever was called, the request has one header
for each name that the rule gives a value, and no other, and the digest in the rule is
the one that its body is sent with. -/
theorem headers_by_precedence {o : PutOptions} (ho : o.OnlyTyped) (calls : List HeaderCall)
    {bucket key : String} {body : PutBody} {r : Request}
    (h : (c.putObject (o.afterAll calls) bucket key body now).request? = some r) :
    ∃ md5, body.SentAs md5 r.body ∧ (r.headers.toList.map Prod.fst).Nodup ∧
      ∀ name value, (name, value) ∈ r.headers.toList ↔
        ∃ text, c.storedHeader? o calls md5 now r name = some text ∧
          value = Utf8.encode text := by
  obtain ⟨-, op, hattach, hprepare⟩ := request?_putObject.mp h
  have hbuilt : op.Built := PutBody.built_attach (PutOptions.built_operation _ _ _) hattach
  obtain ⟨md5, sent, hsent, hop⟩ := PutBody.attach_eq_ok.mp hattach
  have hget (name : String) : op.headers.get? name =
      if name = "content-md5" then some md5 else o.asked? calls name := by
    have hlower : Header.lowerCase "content-md5" = "content-md5" := by decide
    rw [← PutOptions.get?_operation_afterAll ho calls bucket key, ← hlower, hop]
    exact SortedMap.get?_insert _ _ _ _
  -- the signed resource is the path of the request, as there are no parameters
  have hresource : Signature.resource op = r.url.path := by
    rw [(path_of_prepare hprepare).1, hop, PutOptions.operation_eq]
    rfl
  have hsigned := Verifier.textOn_eq hbuilt hprepare
  rw [hresource] at hsigned
  obtain ⟨-, -, hr⟩ := (prepare_eq_ok_iff hbuilt.lowerCase).mp hprepare
  have hheaders : r.headers = .ofSorted (c.sentHeaders op now) := congrArg Request.headers hr
  have hrbody : r.body = op.body := congrArg Request.body hr
  have hbody : op.body = sent := by
    rw [hop]
    rfl
  have hstored (name : String) :
      (c.sentHeaders op now).get? name = c.storedHeader? o calls md5 now r name := by
    rw [get?_sentHeaders_eq, hget, storedHeader?, hsigned, hrbody]
    by_cases hdigest : name = "content-md5"
    · rw [hdigest]
      rfl
    · rw [if_neg hdigest, if_neg hdigest]
      rfl
  rw [hheaders, HeaderMap.toList_ofSorted]
  refine ⟨md5, ?_, ?_, ?_⟩
  · rw [hrbody, hbody]
    exact PutBody.sentAs_of_sent? hsent
  · rw [List.map_map]
    exact SortedMap.nodup_keys _
  · intro name value
    rw [← hstored, List.mem_map]
    constructor
    · rintro ⟨⟨k, v⟩, hmem, heq⟩
      obtain ⟨rfl, rfl⟩ := Prod.mk.inj heq
      exact ⟨v, SortedMap.mem_entries_iff.mp hmem, rfl⟩
    · rintro ⟨text, htext, rfl⟩
      exact ⟨(name, text), SortedMap.mem_entries_iff.mpr htext, rfl⟩

def typedOptions : PutOptions := { PutOptions.usual with contentType := some "a" }

/-- Calls that collide: metadata given as a header, the type given again, and headers
that are not for the caller to set. -/
def collidingCalls : List HeaderCall :=
  [.metadata (.one "Owner" "ops"), .header "X-AMZ-META-OWNER" "dev", .header "Content-Type" "b",
    .header "Content-MD5" "d", .header "date" "never", .header "x-amz-acl" "none"]

theorem headers_by_precedence_colliding :
    ∃ r, ((ofLocalService 1024).putObject (typedOptions.afterAll collidingCalls) "logs" "k"
        (.stream [] 0 "") ⟨0⟩).request? = some r ∧
      ("content-type", Utf8.encode "b") ∈ r.headers.toList ∧
      ("x-amz-meta-owner", Utf8.encode "ops") ∈ r.headers.toList ∧
      ("x-amz-acl", Utf8.encode "none") ∈ r.headers.toList ∧
      ("content-md5", Utf8.encode "") ∈ r.headers.toList ∧
      ("content-length", Utf8.encode "0") ∈ r.headers.toList := by
  have hbuilt := PutOptions.built_operation (typedOptions.afterAll collidingCalls) "logs" "k"
  obtain ⟨r, hprepare⟩ : ∃ r, (ofLocalService 1024).prepare
      ((((typedOptions.afterAll collidingCalls).operation "logs" "k").withHeader "content-md5"
        "").withBody (.stream [] 0)) ⟨0⟩ = .ok r :=
    exists_request (Operation.Built.withBody _ (.withHeader _ _ hbuilt)).lowerCase
      (by decide +kernel) (by decide) (by decide +kernel)
  have hrequest : ((ofLocalService 1024).putObject (typedOptions.afterAll collidingCalls) "logs"
      "k" (.stream [] 0 "") ⟨0⟩).request? = some r :=
    request?_putObject.mpr ⟨by decide, _, rfl, hprepare⟩
  obtain ⟨_, ⟨rfl, hbody⟩, -, hheaders⟩ :=
    headers_by_precedence (o := typedOptions) ⟨rfl, rfl⟩ collidingCalls hrequest
  have hasked {name text : String}
      (hname : name ∉ ["date", "authorization", "content-md5", "content-length"])
      (hasked : typedOptions.asked? collidingCalls name = some text) :
      (name, Utf8.encode text) ∈ r.headers.toList := by
    simp only [List.mem_cons, List.not_mem_nil, or_false, not_or] at hname
    refine (hheaders _ _).mpr ⟨text, ?_, rfl⟩
    rw [storedHeader?, if_neg hname.1, if_neg hname.2.1, if_neg hname.2.2.1, if_neg hname.2.2.2,
      hasked]
  refine ⟨r, hrequest, ?_, ?_, ?_, ?_, ?_⟩
  · exact hasked (by decide) (by decide +kernel)
  · exact hasked (by decide) (by decide +kernel)
  · exact hasked (by decide) (by decide +kernel)
  · exact (hheaders _ _).mpr ⟨"", rfl, rfl⟩
  · refine (hheaders _ _).mpr ⟨"0", ?_, rfl⟩
    rw [storedHeader?, hbody]
    rfl

end Client

end ObjectStore
