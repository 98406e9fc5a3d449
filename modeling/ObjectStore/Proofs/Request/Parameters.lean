import ObjectStore.Proofs.Client.Listings
import ObjectStore.Proofs.Request.Resources
import ObjectStore.Proofs.Request.Verifier
import ObjectStore.Proofs.Text.Order

/-!
# Parameters on their way

The parameters of an operation stand in the query of its request. At an endpoint
without a query of its own nothing else does: the query read back is the
parameters that were set, sorted by the bytes of their names, each with the value
that was set for it last. A parameter without a value and one with the empty
value are not the same. For a listing this means that its page is asked for just
as it was described.
-/

namespace ObjectStore

/-! ## What is set on an operation -/

namespace Operation

inductive Setting where
  | bucket (name : String)
  | key (name : String)
  | parameter (name : String) (value : Option String)
  | header (name value : String)
  | body (body : OutgoingBody)

def set (op : Operation) : Setting → Operation
  | .bucket name => op.withBucket name
  | .key name => op.withKey name
  | .parameter name none => op.withSubResource name
  | .parameter name (some value) => op.withQuery name value
  | .header name value => op.withHeader name value
  | .body body => op.withBody body

def ofSettings (verb : Verb) (settings : List Setting) : Operation :=
  settings.foldl set (ofVerb verb)

def Setting.parameter? : Setting → Option (String × Option String)
  | .parameter name value => some (name, value)
  | _ => none

/-- The parameters that are set, in the order in which they are. -/
def parametersOf (settings : List Setting) : List (String × Option String) :=
  settings.filterMap Setting.parameter?

theorem built_ofSettings (verb : Verb) (settings : List Setting) :
    (ofSettings verb settings).Built := by
  have hset {op : Operation} (h : op.Built) (s : Setting) : (op.set s).Built := by
    match s with
    | .bucket name => exact .withBucket name h
    | .key name => exact .withKey name h
    | .parameter name none => exact .withSubResource name h
    | .parameter name (some value) => exact .withQuery name value h
    | .header name value => exact .withHeader name value h
    | .body body => exact .withBody body h
  have hall {op : Operation} (h : op.Built) : (settings.foldl set op).Built := by
    induction settings generalizing op with
    | nil => exact h
    | cons s rest ih => exact ih (hset h s)
  exact hall (.ofVerb verb)

theorem query_set (op : Operation) (s : Setting) :
    (op.set s).query = match s.parameter? with
      | some p => op.query.insert p.1 p.2
      | none => op.query := by
  match s with
  | .bucket _ => rfl
  | .key _ => rfl
  | .parameter _ none => rfl
  | .parameter _ (some _) => rfl
  | .header _ _ => rfl
  | .body _ => rfl

/-- Only the settings of parameters matter to the parameters. -/
theorem query_foldl_set (settings : List Setting) (op : Operation) :
    (settings.foldl set op).query =
      (parametersOf settings).foldl (fun m p => m.insert p.1 p.2) op.query := by
  induction settings generalizing op with
  | nil => rfl
  | cons s rest ih =>
      rw [List.foldl_cons, ih, query_set, parametersOf, parametersOf, List.filterMap_cons]
      cases s.parameter? <;> rfl

theorem get?_query_ofSettings (verb : Verb) (settings : List Setting) (name : String) :
    (ofSettings verb settings).query.get? name =
      SortedMap.last? (parametersOf settings) name := by
  have hlast := SortedMap.get?_foldl_insert id (parametersOf settings)
    (ofVerb verb).query name
  simp only [id_eq, List.map_id'] at hlast
  rw [ofSettings, query_foldl_set, hlast]
  exact Option.or_none

theorem query_ofSettings_eq_nil {verb : Verb} {settings : List Setting} :
    (ofSettings verb settings).query.entries = [] ↔ parametersOf settings = [] := by
  constructor
  · intro hnone
    cases hset : parametersOf settings with
    | nil => rfl
    | cons p rest =>
        have hget := get?_query_ofSettings verb settings p.1
        rw [SortedMap.get?, hnone, hset, SortedMap.last?_cons, if_pos rfl] at hget
        cases (Option.or_eq_none_iff.mp hget.symm).2
  · intro hnone
    rw [ofSettings, query_foldl_set, hnone]
    rfl

end Operation

/-! ## What is read off a query -/

theorem Url.query_withParameters_eq (u : Url) (ps : List (String × Option String)) :
    (u.withParameters ps).query =
      if ps = [] then u.query
      else some (String.ofList (Form.append (u.query.getD "").toList ps)) := by
  unfold withParameters
  split <;> rfl

/-- A query that says just these parameters: each stands once, with the value
that was given for it last, in the order of the bytes of the names. Only what has
a value has an equals sign. -/
structure Form.Says (query : String) (given : List (String × Option String)) : Prop where
  ascending : (readQuery query.toList).Pairwise fun p q => Utf8.encode p.1 < Utf8.encode q.1
  mem_iff : ∀ name value,
    (name, value) ∈ readQuery query.toList ↔ SortedMap.last? given name = some value
  equalsSign : ∀ part ∈ splitWhere (· == '&') query.toList,
    (readParameter part).2 = none ↔ '=' ∉ part

namespace Client

variable {c : Client} {op : Operation} {now : Instant} {r : Request}

/-- The query of a request is read as the parameters of its operation, if they
have names and the endpoint adds none. -/
theorem query_of_prepare (hendpoint : c.endpoint.query = none)
    (hnames : ∀ p ∈ op.query.entries, p.1 ≠ "") (h : c.prepare op now = .ok r) :
    (r.url.query = none ↔ op.query.entries = []) ∧
      ∀ query, r.url.query = some query → Form.readQuery query.toList = op.query.entries := by
  have hquery : r.url.query =
      if op.query.entries = [] then none
      else some (String.ofList (Form.append [] op.query.entries)) := by
    have hplaced : (c.endpoint.withPath op.path).query = none := hendpoint
    obtain ⟨headers, -, -, rfl⟩ := exists_headers_of_prepare.mp h
    dsimp only
    rw [Url.query_withParameters_eq, hplaced]
    rfl
  rw [hquery]
  by_cases hnone : op.query.entries = []
  · rw [if_pos hnone]
    exact ⟨⟨fun _ => hnone, fun _ => rfl⟩, fun query hsome => nomatch hsome⟩
  · rw [if_neg hnone]
    refine ⟨⟨fun heq => (nomatch heq), fun heq => absurd heq hnone⟩, fun query hsome => ?_⟩
    obtain rfl := Option.some.inj hsome
    rw [String.toList_ofList]
    exact Form.readQuery_append_of_named hnone hnames

end Client

/-! ## Listings -/

namespace ListQuery

variable (q : ListQuery) (bucket : String)

def sentParameters : List (String × Option String) :=
  [("delimiter", q.delimiter), ("marker", q.marker), ("max-keys", q.maxKeys.map toString),
    ("prefix", q.keyPrefix)].filterMap fun p => p.2.map fun value => (p.1, some value)

def settings : List Operation.Setting :=
  .bucket bucket :: q.parameters.map fun p => .parameter p.1 (some p.2)

theorem operation_eq_ofSettings : q.operation bucket = .ofSettings .get (q.settings bucket) := by
  rw [operation, settings, Operation.ofSettings, List.foldl_cons, List.foldl_map]
  rfl

theorem parametersOf_settings :
    Operation.parametersOf (q.settings bucket) = q.parameters.map fun p => (p.1, some p.2) := by
  have hparameter : Operation.Setting.parameter? ∘
      (fun p : String × String => Operation.Setting.parameter p.1 (some p.2)) =
        some ∘ fun p => (p.1, some p.2) := rfl
  rw [settings, Operation.parametersOf, List.filterMap_cons_none rfl, List.filterMap_map,
    hparameter, List.filterMap_eq_map]

theorem perm_sentParameters :
    (q.parameters.map fun p => (p.1, some p.2)).Perm q.sentParameters := by
  rw [parameters, List.map_filterMap, sentParameters]
  simp only [Option.map_map]
  refine List.Perm.filterMap _ ?_
  exact (List.reverse_perm _).symm.trans (.cons _ (.swap _ _ _))

theorem ascending_sentParameters : q.sentParameters.Pairwise fun p p' => p.1 < p'.1 := by
  have hnames : [("delimiter", q.delimiter), ("marker", q.marker),
      ("max-keys", q.maxKeys.map toString), ("prefix", q.keyPrefix)].Pairwise
        fun p p' => p.1 < p'.1 := by
    simp only [List.pairwise_cons, List.mem_cons, List.not_mem_nil, or_false, forall_eq_or_imp,
      forall_eq, false_imp_iff, implies_true, List.Pairwise.nil, and_true]
    decide
  refine hnames.filterMap _ ?_
  rintro p p' hlt b hb b' hb'
  obtain ⟨value, -, rfl⟩ := Option.map_eq_some_iff.mp hb
  obtain ⟨value', -, rfl⟩ := Option.map_eq_some_iff.mp hb'
  exact hlt

theorem named_sentParameters : ∀ p ∈ q.sentParameters, p.1 ≠ "" := by
  intro p hp
  obtain ⟨given, hgiven, hp⟩ := List.mem_filterMap.mp hp
  obtain ⟨value, -, rfl⟩ := Option.map_eq_some_iff.mp hp
  have hnames : given.1 ∈ ["delimiter", "marker", "max-keys", "prefix"] :=
    List.mem_map_of_mem (f := Prod.fst) hgiven
  intro hempty
  rw [show given.1 = "" from hempty] at hnames
  exact absurd hnames (by decide)

theorem entries_query_operation : (q.operation bucket).query.entries = q.sentParameters := by
  have hnodup : ((q.parameters.map fun p => (p.1, some p.2)).map Prod.fst).Nodup := by
    rw [(q.perm_sentParameters.map Prod.fst).nodup_iff, List.Nodup, List.pairwise_map]
    refine q.ascending_sentParameters.imp ?_
    intro p p' hlt heq
    rw [heq] at hlt
    exact String.lt_irrefl _ hlt
  refine SortedMap.eq_of_lookup (q.operation bucket).query.ascending q.ascending_sentParameters ?_
  intro name
  ext value
  have hget : (q.operation bucket).query.get? name =
      SortedMap.last? (q.parameters.map fun p => (p.1, some p.2)) name := by
    rw [operation_eq_ofSettings, Operation.get?_query_ofSettings, parametersOf_settings]
  rw [← SortedMap.mem_iff_lookup q.ascending_sentParameters, ← q.perm_sentParameters.mem_iff,
    ← SortedMap.last?_eq_some_iff hnodup, ← hget]
  rfl

theorem exists_operation_eq :
    ∃ query, q.operation bucket =
      { (Operation.ofVerb .get).withBucket bucket with query := query } := by
  have hfold (ps : List (String × String)) (op : Operation) :
      ∃ query, ps.foldl (fun op p => op.withQuery p.1 p.2) op = { op with query := query } := by
    induction ps generalizing op with
    | nil => exact ⟨op.query, rfl⟩
    | cons p rest ih => exact ih (op.withQuery p.1 p.2)
  exact hfold q.parameters _

end ListQuery

theorem Url.path_withPath_ofBucket {u : Url} (hu : u.IsWeb) {bucket : String}
    (h : checkBucket bucket = .ok ()) :
    (u.withPath ("/" ++ bucket ++ "/")).path = "/" ++ bucket ++ "/" := by
  have hjoin : "/" ++ bucket ++ "/" = UrlPath.join [bucket, ""] := by
    rw [← String.toList_inj, UrlPath.toList_join]
    simp
  have hchars : ∀ s ∈ [bucket, ""], ∀ c ∈ s.toList, UrlPath.isKeyChar c = true ∧ c ≠ '/' := by
    intro s hs c hc
    simp only [List.mem_cons, List.not_mem_nil, or_false] at hs
    rcases hs with rfl | rfl
    · exact isKeyChar_of_checkBucket h hc
    · cases hc
  rw [hjoin, path_withPath_eq_iff hu (List.cons_ne_nil _ _) hchars]
  intro s hs
  simp only [List.mem_cons, List.not_mem_nil, or_false] at hs
  rcases hs with rfl | rfl
  · exact not_isResolved_of_checkBucket h
  · decide

namespace Client

variable {c : Client} {now : Instant}

/-- Every page is asked for, whatever was set for it, if the name of the bucket
is in order and the name of the key can be sent. -/
theorem exists_request_listObjects (hc : c.endpoint.IsWeb) {bucket : String}
    (hbucket : checkBucket bucket = .ok ())
    (hkey : Header.fault? ("authorization", c.credentials.keyId) = none) (q : ListQuery) :
    ∃ r, (c.listObjects bucket q now).request? = some r := by
  obtain ⟨query, hop⟩ := q.exists_operation_eq bucket
  obtain ⟨r, hr⟩ : ∃ r, c.prepare (q.operation bucket) now = .ok r := by
    rw [hop]
    refine exists_request LowerCase.empty (fun p hp => ?_) hkey ?_
    · cases hp
    · exact Url.path_withPath_ofBucket hc hbucket
  exact ⟨r, request?_listObjects.mpr ⟨hbucket, hr⟩⟩

/-- **Parameters arrive as they were set.** At an endpoint without a query, a
request has a query if parameters were set, and the query says just what was set
last for each of them. So a listing asks for the page that was described: every
listing of a bucket is sent, with whatever texts for its page, and its query is
read as those that were given. -/
theorem parameters_arrive (hendpoint : c.endpoint.query = none) (now : Instant) :
    (∀ (verb : Verb) (settings : List Operation.Setting) (r : Request),
      (∀ p ∈ Operation.parametersOf settings, p.1 ≠ "") →
      c.prepare (.ofSettings verb settings) now = .ok r →
        (r.url.query = none ↔ Operation.parametersOf settings = []) ∧
        ∀ query, r.url.query = some query →
          Form.Says query (Operation.parametersOf settings)) ∧
    ∀ (bucket : String) (q : ListQuery),
      (c.endpoint.IsWeb → checkBucket bucket = .ok () →
        Header.fault? ("authorization", c.credentials.keyId) = none →
        ∃ r, (c.listObjects bucket q now).request? = some r) ∧
      ∀ r, (c.listObjects bucket q now).request? = some r →
        (r.url.query = none ↔ q.sentParameters = []) ∧
        ∀ query, r.url.query = some query →
          Form.readQuery query.toList = q.sentParameters := by
  constructor
  · intro verb settings r hnames hr
    have hnamed : ∀ p ∈ (Operation.ofSettings verb settings).query.entries, p.1 ≠ "" := by
      rintro ⟨name, value⟩ hp
      rw [SortedMap.mem_entries_iff, Operation.get?_query_ofSettings] at hp
      exact hnames _ (SortedMap.mem_of_last? hp)
    obtain ⟨hnone, hread⟩ := query_of_prepare hendpoint hnamed hr
    refine ⟨hnone.trans Operation.query_ofSettings_eq_nil, fun query hquery => ?_⟩
    have hentries := hread query hquery
    refine ⟨?_, fun name value => ?_, fun part _ => Form.snd_readParameter_eq_none⟩
    · rw [hentries]
      exact SortedMap.ascending _ |>.imp Utf8.encode_lt_encode_iff.mpr
    · rw [hentries, SortedMap.mem_entries_iff, Operation.get?_query_ofSettings]
  · intro bucket q
    refine ⟨fun hc hbucket hkey => exists_request_listObjects hc hbucket hkey q, fun r hr => ?_⟩
    have hnamed := q.named_sentParameters
    rw [← q.entries_query_operation bucket] at hnamed ⊢
    exact query_of_prepare hendpoint hnamed (request?_listObjects.mp hr).2

def mixedSettings : List Operation.Setting :=
  [.bucket "logs", .parameter "prefix" (some "old"), .parameter "acl" none,
    .parameter "marker" (some ""), .header "x-amz-acl" "private",
    .parameter "prefix" (some "a&b=c +%é")]

theorem parameters_arrive_mixed :
    (ofLocalService 1024).endpoint.query = none ∧
      (∃ r query, (ofLocalService 1024).prepare (.ofSettings .get mixedSettings) ⟨0⟩ = .ok r ∧
        r.url.query = some query ∧ ("acl", none) ∈ Form.readQuery query.toList ∧
        ("marker", some "") ∈ Form.readQuery query.toList ∧
        ("prefix", some "a&b=c +%é") ∈ Form.readQuery query.toList ∧
        ("prefix", some "old") ∉ Form.readQuery query.toList) ∧
      ∃ r query, ((ofLocalService 1024).listObjects "logs" ⟨none, none, some "é&", some 2⟩
          ⟨0⟩).request? = some r ∧
        r.url.query = some query ∧
        Form.readQuery query.toList = [("delimiter", some "é&"), ("max-keys", some "2")] := by
  obtain ⟨hset, hlist⟩ := parameters_arrive (c := ofLocalService 1024) rfl ⟨0⟩
  have hop := Operation.built_ofSettings .get mixedSettings
  obtain ⟨r, hr⟩ : ∃ r, (ofLocalService 1024).prepare (.ofSettings .get mixedSettings) ⟨0⟩ = .ok r :=
    exists_request hop.lowerCase (by decide +kernel) (by decide +kernel) (by decide +kernel)
  obtain ⟨hnone, hqueries⟩ := hset .get mixedSettings r (by decide) hr
  obtain ⟨query, hquery⟩ := Option.ne_none_iff_exists'.mp (mt hnone.mp (by decide))
  have hread := (hqueries query hquery).mem_iff
  obtain ⟨hsent, hpage⟩ := hlist "logs" ⟨none, none, some "é&", some 2⟩
  obtain ⟨r', hr'⟩ := hsent (Or.inl rfl) (by decide +kernel) (by decide +kernel)
  obtain ⟨hnone', hread'⟩ := hpage r' hr'
  obtain ⟨query', hquery'⟩ := Option.ne_none_iff_exists'.mp (mt hnone'.mp (by decide))
  refine ⟨rfl, ⟨r, query, hr, hquery, ?_, ?_, ?_, ?_⟩, r', query', hr', hquery', ?_⟩
  · exact (hread _ _).mpr (by decide)
  · exact (hread _ _).mpr (by decide)
  · exact (hread _ _).mpr (by decide)
  · exact mt (hread _ _).mp (by decide)
  · exact (hread' query' hquery').trans (by decide)

end Client

end ObjectStore
