import ObjectStore.Proofs.Request.Verifier

/-!
# What an endpoint puts into a request

A request is put together on a copy of the URL of its endpoint. The path of the
endpoint is replaced, but its query is not: what an operation sets is added
behind it. So endpoints at one place refuse the same operations for the same
reasons, and requests made for them differ in their queries alone, where the
parameters of the endpoint are sent in front of those of the operation and no
signature covers them.
-/

namespace ObjectStore

/-! ## Endpoints at one place -/

namespace Url

/-- URLs that differ at most in their paths, queries and fragments. -/
structure SamePlace (u v : Url) : Prop where
  scheme : u.scheme = v.scheme
  authority : u.authority = v.authority

variable {u v : Url}

theorem SamePlace.path_withPath (h : u.SamePlace v) (path : String) :
    (u.withPath path).path = (v.withPath path).path := by
  have hform : u.form = v.form := congrArg SchemeForm.ofScheme h.scheme
  unfold withPath
  rw [hform]

theorem SamePlace.withParameters (h : u.SamePlace v) (path : String)
    (ps : List (String × Option String)) :
    ((u.withPath path).withParameters ps).SamePlace ((v.withPath path).withParameters ps) := by
  unfold Url.withParameters
  split
  · exact ⟨h.scheme, h.authority⟩
  · exact ⟨h.scheme, h.authority⟩

/-- Queries with the same parameters added are the same if the queries were, where
one that is empty counts as none once there are parameters. -/
theorem query_withParameters_eq_iff (path : String) (ps : List (String × Option String)) :
    ((u.withPath path).withParameters ps).query = ((v.withPath path).withParameters ps).query ↔
      if ps = [] then u.query = v.query else u.query.getD "" = v.query.getD "" := by
  have hplaced (w : Url) : (w.withPath path).query = w.query := rfl
  unfold Url.withParameters
  split
  · exact Iff.rfl
  · simp only [hplaced, Option.some.injEq, String.ofList_inj, Form.append_inj, String.toList_inj]

theorem readQuery_withParameters (h : u.query.getD "" ≠ "") (path : String)
    (ps : List (String × Option String)) :
    Form.readQuery (((u.withPath path).withParameters ps).query.getD "").toList =
      Form.readQuery (u.query.getD "").toList ++ ps := by
  have hne : (u.query.getD "").toList ≠ [] := by
    intro hnil
    exact h (String.toList_inj.mp hnil)
  unfold Url.withParameters
  split
  · next hnone =>
      rw [hnone, List.append_nil]
      rfl
  · rw [Option.getD_some, String.toList_ofList]
    exact Form.readQuery_append_behind hne ps

end Url

namespace Client

theorem ofSettings_eq_ok {who : Credentials} {s : ClientSettings} {c : Client}
    (h : ofSettings who s = .ok c) :
    c.credentials = who ∧ Url.parse s.endpoint = .ok c.endpoint := by
  unfold ofSettings at h
  split at h
  · next endpoint hparse =>
      obtain rfl := Except.ok.inj h
      exact ⟨rfl, hparse⟩
  · cases h

theorem sentHeaders_congr {c c' : Client} (h : c.credentials = c'.credentials) (op : Operation)
    (now : Instant) : c.sentHeaders op now = c'.sentHeaders op now := by
  unfold sentHeaders
  rw [h]

variable {c c' : Client} {op : Operation} {now : Instant}

/-- Clients at one place refuse the same operations, for the same reasons. -/
theorem prepare_eq_error_iff (hwho : c.credentials = c'.credentials)
    (hplace : c.endpoint.SamePlace c'.endpoint) (e : Failure) :
    c.prepare op now = .error e ↔ c'.prepare op now = .error e := by
  have hpath := hplace.path_withPath op.path
  unfold prepare
  rw [sentHeaders_congr hwho]
  split
  · exact Iff.rfl
  · dsimp only
    rw [hpath]
    split
    · exact ⟨fun h => (nomatch h), fun h => (nomatch h)⟩
    · exact Iff.rfl

/-- **What requests for endpoints at one place have in common, and what not.** Two
clients of the same key, whose endpoints differ at most in their paths, queries and
fragments, refuse the same operations for the same reasons. Their requests go to
the path that was signed, and have the same headers, the signature among them.
Their queries are the same just if the endpoints have the same query of their own:
its parameters are sent in front of those of the operation. -/
theorem requests_differ_in_query {who : Credentials} {s s' : ClientSettings}
    (h : ofSettings who s = .ok c) (h' : ofSettings who s' = .ok c')
    (hplace : c.endpoint.SamePlace c'.endpoint) (op : Operation) (now : Instant) :
    (∀ e, c.prepare op now = .error e ↔ c'.prepare op now = .error e) ∧
      ∀ r r', c.prepare op now = .ok r → c'.prepare op now = .ok r' →
        (r.verb = r'.verb ∧ r.headers = r'.headers ∧ r.body = r'.body ∧
          r.url.SamePlace r'.url ∧ r.url.path = op.path ∧ r'.url.path = op.path) ∧
        (r.url.query = r'.url.query ↔
          if op.query.entries = [] then c.endpoint.query = c'.endpoint.query
          else c.endpoint.query.getD "" = c'.endpoint.query.getD "") ∧
        (c.endpoint.query.getD "" ≠ "" →
          Form.readQuery (r.url.query.getD "").toList =
            Form.readQuery (c.endpoint.query.getD "").toList ++ op.query.entries) := by
  have hwho : c.credentials = c'.credentials :=
    (ofSettings_eq_ok h).1.trans (ofSettings_eq_ok h').1.symm
  refine ⟨prepare_eq_error_iff hwho hplace, fun r r' hr hr' => ?_⟩
  have hpath := (path_of_prepare hr).1
  have hpath' := (path_of_prepare hr').1
  obtain ⟨headers, hheaders, -, rfl⟩ := exists_headers_of_prepare.mp hr
  obtain ⟨headers', hheaders', -, rfl⟩ := exists_headers_of_prepare.mp hr'
  rw [sentHeaders_congr hwho, hheaders'] at hheaders
  obtain rfl := Except.ok.inj hheaders
  exact ⟨⟨rfl, rfl, rfl, hplace.withParameters op.path op.query.entries, hpath, hpath'⟩,
    Url.query_withParameters_eq_iff op.path op.query.entries,
    fun hquery => Url.readQuery_withParameters hquery op.path op.query.entries⟩

def settingsAt (endpoint : String) : ClientSettings := { ClientSettings.usual with endpoint }

theorem ofSettings_settingsAt (who : Credentials) {endpoint : String} {u : Url}
    (h : (Url.parse endpoint).toOption = some u) :
    ofSettings who (settingsAt endpoint) = .ok ⟨who, u, 2048⟩ := by
  have hparse : Url.parse endpoint = .ok u := by
    cases hread : Url.parse endpoint with
    | error e =>
        rw [hread] at h
        cases h
    | ok v =>
        rw [hread] at h
        exact congrArg Except.ok (Option.some.inj h)
  have hendpoint : (settingsAt endpoint).endpoint = endpoint := rfl
  rw [ofSettings, hendpoint, hparse]
  rfl

def askingAlways : Client :=
  ⟨⟨"key", "secret"⟩, ⟨"http", some ⟨"", "localhost", none⟩, false, "/", some "acl", none⟩, 2048⟩

theorem ofSettings_askingAlways :
    ofSettings ⟨"key", "secret"⟩ (settingsAt "http://localhost/?acl") = .ok askingAlways :=
  ofSettings_settingsAt _ (by decide +kernel)

theorem ofSettings_ofLocalService :
    ofSettings ⟨"key", "secret"⟩ (settingsAt "http://localhost") = .ok (ofLocalService 2048) :=
  ofSettings_settingsAt _ (by decide +kernel)

def readingBucket : Operation := (Operation.ofVerb .get).withBucket "logs"

theorem exists_request_readingBucket :
    (∃ r, askingAlways.prepare readingBucket ⟨0⟩ = .ok r) ∧
      ∃ r, (ofLocalService 2048).prepare readingBucket ⟨0⟩ = .ok r := by
  constructor
  · exact exists_request LowerCase.empty (by decide) (by decide +kernel) (by decide +kernel)
  · exact exists_request LowerCase.empty (by decide) (by decide +kernel) (by decide +kernel)

theorem requests_differ_in_query_askingAlways :
    ofSettings ⟨"key", "secret"⟩ (settingsAt "http://localhost/?acl") = .ok askingAlways ∧
      ofSettings ⟨"key", "secret"⟩ (settingsAt "http://localhost") = .ok (ofLocalService 2048) ∧
      askingAlways.endpoint.SamePlace (ofLocalService 2048).endpoint ∧
      ∃ r r', askingAlways.prepare readingBucket ⟨0⟩ = .ok r ∧
        (ofLocalService 2048).prepare readingBucket ⟨0⟩ = .ok r' ∧
        r.headers = r'.headers ∧ r.url.path = "/logs/" ∧ r'.url.path = "/logs/" ∧
        r.url.query ≠ r'.url.query ∧
        Form.readQuery (r.url.query.getD "").toList = [("acl", none)] := by
  have hplace : askingAlways.endpoint.SamePlace (ofLocalService 2048).endpoint := ⟨rfl, rfl⟩
  obtain ⟨⟨r, hr⟩, r', hr'⟩ := exists_request_readingBucket
  obtain ⟨-, hsame⟩ := requests_differ_in_query ofSettings_askingAlways
    ofSettings_ofLocalService hplace readingBucket ⟨0⟩
  obtain ⟨⟨-, hheaders, -, -, hpath, hpath'⟩, hquery, hread⟩ := hsame r r' hr hr'
  refine ⟨ofSettings_askingAlways, ofSettings_ofLocalService, hplace, r, r', hr, hr', hheaders,
    hpath, hpath', mt hquery.mp (by decide), (hread (by decide)).trans (by decide +kernel)⟩

/-- A parameter of the endpoint is sent, and no signature covers it: with and
without it the same operation has the same value of `authorization`. -/
theorem unsigned_parameter_sent :
    ofSettings ⟨"key", "secret"⟩ (settingsAt "http://localhost/?acl") = .ok askingAlways ∧
      ofSettings ⟨"key", "secret"⟩ (settingsAt "http://localhost") = .ok (ofLocalService 2048) ∧
      askingAlways.endpoint.SamePlace (ofLocalService 2048).endpoint ∧
      ∃ r r', askingAlways.prepare readingBucket ⟨0⟩ = .ok r ∧
        (ofLocalService 2048).prepare readingBucket ⟨0⟩ = .ok r' ∧
        r.headers.getAll "authorization" = r'.headers.getAll "authorization" ∧
        Signature.subResources.contains "acl" = true ∧
        r.url.query = some "acl" ∧ r'.url.query = none := by
  obtain ⟨⟨r, hr⟩, r', hr'⟩ := exists_request_readingBucket
  refine ⟨ofSettings_askingAlways, ofSettings_ofLocalService, ⟨rfl, rfl⟩, r, r', hr, hr', ?_,
    by decide, ?_⟩
  · obtain ⟨headers, hheaders, -, rfl⟩ := exists_headers_of_prepare.mp hr
    obtain ⟨headers', hheaders', -, rfl⟩ := exists_headers_of_prepare.mp hr'
    have hsame : askingAlways.sentHeaders readingBucket ⟨0⟩ =
        (ofLocalService 2048).sentHeaders readingBucket ⟨0⟩ := sentHeaders_congr rfl _ _
    rw [hsame, hheaders'] at hheaders
    rw [Except.ok.inj hheaders]
  · obtain ⟨headers, -, -, rfl⟩ := exists_headers_of_prepare.mp hr
    obtain ⟨headers', -, -, rfl⟩ := exists_headers_of_prepare.mp hr'
    exact ⟨rfl, rfl⟩

end Client

end ObjectStore
