import ObjectStore.Proofs.Encoding.Form
import ObjectStore.Proofs.Request.Building
import ObjectStore.Proofs.Request.Preparing

/-!
# Verifying a signature

A service that receives a request knows nothing of the operation behind it. It
reads the text that was signed off the request: the verb, some headers, the
path of the URL, and those parameters in the query that are signed. What it
computes from this text and the key is the signature that the request carries,
so nothing that is signed is changed on the way into a request.
-/

namespace ObjectStore

/-! ## What a verifier reads -/

namespace Verifier

def valueText (value : Bytes) : String := String.ofList (Utf8.decodeLossy value)

def header? (r : Request) (name : String) : Option String :=
  (r.headers.get? name).map valueText

def serviceHeaders (r : Request) : String :=
  let headers := r.headers.toList.filter fun h => Signature.isServiceHeader h.1
  String.join ((headers.mergeSort fun g h => g.1 ≤ h.1).map fun h =>
    h.1 ++ ":" ++ trimBlank (valueText h.2) ++ "\n")

def signedParameters (r : Request) : List (String × Option String) :=
  let read := Form.readQuery (r.url.query.getD "").toList
  (read.filter fun p => Signature.subResources.contains p.1).mergeSort fun p q => p.1 ≤ q.1

/-- The resource of a request: the path of its URL with these parameters. -/
def resource (r : Request) : String :=
  let ps := (signedParameters r).map fun p => p.2.elim p.1 fun value => p.1 ++ "=" ++ value
  if ps = [] then r.url.path else r.url.path ++ "?" ++ "&".intercalate ps

/-- The text that a verifier takes as signed. -/
def signedText (r : Request) : String :=
  let date := if (header? r "x-amz-date").isSome then "" else (header? r "date").getD ""
  "\n".intercalate
    [r.verb.text, (header? r "content-md5").getD "", (header? r "content-type").getD "", date,
      serviceHeaders r ++ resource r]

/-- The value that a verifier expects in the header `authorization`. -/
def authorization (who : Credentials) (r : Request) : String :=
  "AWS " ++ who.keyId ++ ":" ++
    Base64.encode (Hmac.sha1 (Utf8.encode who.secret) (Utf8.encode (signedText r)))

@[simp] theorem valueText_encode (s : String) : valueText (Utf8.encode s) = s := by
  rw [valueText, Utf8.decodeLossy_encode, String.ofList_toList]

end Verifier

/-! ## What it reads is what was signed -/

namespace Url

theorem query_withParameters {u : Url} (h : u.query = none)
    (ps : List (String × Option String)) :
    ((u.withParameters ps).query.getD "").toList = Form.append [] ps := by
  unfold withParameters
  split
  · next hnone =>
      rw [hnone, h]
      rfl
  · rw [h]
    exact String.toList_ofList

end Url

namespace Verifier

variable {c : Client} {op : Operation} {now : Instant} {r : Request}

theorem header?_eq (h : r.headers = .ofSorted (c.sentHeaders op now)) (name : String) :
    header? r name = (c.sentHeaders op now).get? name := by
  rw [header?, h, HeaderMap.get?_ofSorted]
  cases (c.sentHeaders op now).get? name with
  | none => rfl
  | some value => exact congrArg some (valueText_encode value)

/-- Apart from the three headers that a client adds, an operation has the
headers of its request. -/
theorem header?_of_operation (h : r.headers = .ofSorted (c.sentHeaders op now)) {name : String}
    (hlower : Header.lowerCase name = name) (hkept : Header.isAdded name = false) :
    header? r name = op.header? name := by
  rw [header?_eq h, Client.get?_sentHeaders hkept, Operation.header?, hlower]

theorem isServiceHeader_of_isAdded {name : String} (h : Header.isAdded name = true) :
    Signature.isServiceHeader name = false := by
  simp only [Header.isAdded, Bool.or_eq_true, beq_iff_eq] at h
  rcases h with (rfl | rfl) | rfl
  · decide
  · decide
  · decide

theorem serviceHeaders_eq (h : r.headers = .ofSorted (c.sentHeaders op now)) :
    serviceHeaders r = Signature.serviceHeaders op := by
  have hread : (r.headers.toList.filter fun h => Signature.isServiceHeader h.1) =
      (op.headers.entries.filter fun p => Signature.isServiceHeader p.1).map
        fun p => (p.1, Utf8.encode p.2) := by
    have hkept : (c.sentHeaders op now).entries.filter
          (fun p => Signature.isServiceHeader p.1) =
        op.headers.entries.filter fun p => Signature.isServiceHeader p.1 :=
      Client.filter_sentHeaders fun _ => isServiceHeader_of_isAdded
    rw [h, HeaderMap.toList_ofSorted, List.filter_map, ← hkept]
    rfl
  have hsorted := op.headers.pairwise_filter Signature.isServiceHeader
  unfold serviceHeaders Signature.serviceHeaders
  dsimp only
  rw [hread, List.mergeSort_of_pairwise (List.pairwise_map.mpr hsorted), List.map_map]
  simp only [Function.comp_def, valueText_encode]

theorem signedParameters_eq
    (h : (r.url.query.getD "").toList = Form.append [] op.query.entries) :
    signedParameters r = Signature.signedParameters op := by
  unfold signedParameters Signature.signedParameters
  dsimp only
  rw [h, Form.readQuery_append (by decide)]
  exact List.mergeSort_of_pairwise (op.query.pairwise_filter Signature.subResources.contains)

theorem resource_eq (hpath : r.url.path = op.path)
    (hquery : (r.url.query.getD "").toList = Form.append [] op.query.entries) :
    resource r = Signature.resource op := by
  have hparameter (p : String × Option String) :
      (p.2.elim p.1 fun value => p.1 ++ "=" ++ value) = Signature.parameter p := by
    obtain ⟨name, _ | value⟩ := p <;> rfl
  unfold resource Signature.resource
  simp only [signedParameters_eq hquery, hpath, hparameter]

/-- The text that is signed on a resource, as far as it can be read off a request. -/
def textOn (r : Request) (resource : String) : String :=
  let date := if (header? r "x-amz-date").isSome then "" else (header? r "date").getD ""
  "\n".intercalate
    [r.verb.text, (header? r "content-md5").getD "", (header? r "content-type").getD "", date,
      serviceHeaders r ++ resource]

theorem textOn_eq (hop : op.Built) (h : c.prepare op now = .ok r) :
    textOn r (Signature.resource op) = Signature.signedText op (HttpDate.format now) := by
  obtain ⟨-, -, hr⟩ := (Client.prepare_eq_ok_iff hop.lowerCase).mp h
  -- each part of the text is read off the part of the request that it went into
  have hverb : r.verb = op.verb := by rw [hr]
  have hheaders : r.headers = .ofSorted (c.sentHeaders op now) := by rw [hr]
  have hdigest : header? r "content-md5" = op.header? "content-md5" :=
    header?_of_operation hheaders (by decide) (by decide)
  have htype : header? r "content-type" = op.header? "content-type" :=
    header?_of_operation hheaders (by decide) (by decide)
  have hservice : header? r "x-amz-date" = op.header? "x-amz-date" :=
    header?_of_operation hheaders (by decide) (by decide)
  have hdate : header? r "date" = some (HttpDate.format now) :=
    (header?_eq hheaders "date").trans Client.get?_sentHeaders_date
  unfold textOn Signature.signedText
  rw [hverb, hdigest, htype, hservice, hdate, serviceHeaders_eq hheaders]
  rfl

/-- A request says what was signed. -/
theorem signedText_eq (hop : op.Built) (hendpoint : c.endpoint.query = none)
    (h : c.prepare op now = .ok r) :
    signedText r = Signature.signedText op (HttpDate.format now) := by
  obtain ⟨-, harrives, hr⟩ := (Client.prepare_eq_ok_iff hop.lowerCase).mp h
  have hpath : r.url.path = op.path := by
    rw [hr]
    exact (Url.path_withParameters _ _).trans harrives
  have hquery : (r.url.query.getD "").toList = Form.append [] op.query.entries := by
    rw [hr]
    exact Url.query_withParameters (u := c.endpoint.withPath op.path) hendpoint _
  have htext : signedText r = textOn r (resource r) := rfl
  rw [htext, resource_eq hpath hquery, textOn_eq hop h]

end Verifier

namespace Client

/-- **A signature is verified by the request that carries it.** Whatever was
built, and whoever signs it when, the one value of `authorization` in the
request is the one that is computed from the rest of the request and the key. -/
theorem signature_verified {c : Client} {op : Operation} {now : Instant} {r : Request}
    (hop : op.Built) (hendpoint : c.endpoint.query = none) (h : c.prepare op now = .ok r) :
    r.headers.getAll "authorization" =
      [Utf8.encode (Verifier.authorization c.credentials r)] := by
  have hvalue : Verifier.authorization c.credentials r =
      Signature.authorization c.credentials op now := by
    unfold Verifier.authorization
    rw [Verifier.signedText_eq hop hendpoint h]
    rfl
  obtain ⟨-, -, rfl⟩ := (prepare_eq_ok_iff hop.lowerCase).mp h
  rw [hvalue, HeaderMap.getAll_ofSorted, get?_sentHeaders_authorization]
  rfl

def askingForAccess : Operation :=
  ((((Operation.ofVerb .get).withBucket "logs").withKey "a b").withSubResource "acl").withHeader
    "X-Amz-Meta-Note" " none "

theorem signature_verified_askingForAccess :
    askingForAccess.Built ∧ (ofLocalService 1024).endpoint.query = none ∧
      ∃ r, (ofLocalService 1024).prepare askingForAccess ⟨0⟩ = .ok r ∧
        r.headers.getAll "authorization" =
          [Utf8.encode (Verifier.authorization (ofLocalService 1024).credentials r)] := by
  have hop : askingForAccess.Built :=
    .withHeader _ _ (.withSubResource _ (.withKey _ (.withBucket _ (.ofVerb _))))
  obtain ⟨r, hr⟩ : ∃ r, (ofLocalService 1024).prepare askingForAccess ⟨0⟩ = .ok r :=
    exists_request hop.lowerCase (by decide +kernel) (by decide +kernel) (by decide +kernel)
  exact ⟨hop, rfl, r, hr, signature_verified hop rfl hr⟩

end Client

end ObjectStore
