import ObjectStore.Proofs.Object.Precedence

/-!
# Files and bytes in memory

A file is digested in parts, read again, and sent as a stream. The request is that
of its bytes in memory, signature included, but for the header with the length of
the stream. That header also replaces one that the caller gave: a value that no
header can have refuses the bytes, while the file is sent without a word.
-/

namespace ObjectStore

theorem findSome?_filter_of_none {α β : Type} {f : α → Option β} {p : α → Bool} {l : List α}
    (h : ∀ x ∈ l, p x = false → f x = none) : (l.filter p).findSome? f = l.findSome? f := by
  induction l with
  | nil => rfl
  | cons x l ih =>
      have hrest := ih fun y hy => h y (List.mem_cons_of_mem x hy)
      rw [List.filter_cons]
      cases hx : p x with
      | true => rw [if_pos rfl, List.findSome?_cons, List.findSome?_cons, hrest]
      | false =>
          rw [if_neg Bool.false_ne_true, hrest, List.findSome?_cons, h x List.mem_cons_self hx]

/-- A length that the caller gives can be sent, if one is given. -/
def Operation.LengthFits (op : Operation) : Prop :=
  ∀ value, op.header? "content-length" = some value →
    (Utf8.encode value).all Header.isValueByte = true

namespace Client

variable {c : Client} {op : Operation} {now : Instant} {chunks : List Chunk} {length : Nat}

/-- A stream has the headers of bytes in memory, the signature among them, and its
length. -/
theorem sentHeaders_stream (bs : Bytes) :
    c.sentHeaders (op.withBody (.stream chunks length)) now =
      (c.sentHeaders (op.withBody (.bytes bs)) now).insert "content-length" (toString length) :=
  rfl

theorem filter_sentHeaders_stream (chunks : List Chunk) (length : Nat) (bs : Bytes) :
    ((c.sentHeaders (op.withBody (.stream chunks length)) now).entries.filter fun p =>
        p.1 != "content-length") =
      (c.sentHeaders (op.withBody (.bytes bs)) now).entries.filter fun p =>
        p.1 != "content-length" := by
  rw [sentHeaders_stream bs]
  exact @SortedMap.filter_insert _ (· != "content-length") _ "content-length" (by decide) _

theorem get?_contentLength_bytes (bs : Bytes) :
    (c.sentHeaders (op.withBody (.bytes bs)) now).get? "content-length" =
      op.header? "content-length" := by
  have hlower : Header.lowerCase "content-length" = "content-length" := by decide
  rw [get?_sentHeaders_eq, Operation.header?, hlower]
  rfl

theorem fault?_length (n : Nat) : Header.fault? ("content-length", toString n) = none :=
  Header.fault?_of_plain (by decide) (plain_toString n)

theorem findSome?_fault?_others {m : SortedMap String}
    (h : ∀ value, m.get? "content-length" = some value →
      Header.fault? ("content-length", value) = none) :
    (m.entries.filter fun p => p.1 != "content-length").findSome? Header.fault? =
      m.entries.findSome? Header.fault? := by
  apply findSome?_filter_of_none
  rintro ⟨name, value⟩ hp hlength
  obtain rfl : name = "content-length" := by simpa using hlength
  exact h value (SortedMap.mem_entries_iff.mp hp)

/-- The first fault is the same, unless it is the length that the caller gave. -/
theorem findSome?_fault?_stream (hfits : op.LengthFits) (bs : Bytes) :
    (c.sentHeaders (op.withBody (.stream chunks length)) now).entries.findSome? Header.fault? =
      (c.sentHeaders (op.withBody (.bytes bs)) now).entries.findSome? Header.fault? := by
  have hname : Header.ValidName "content-length" := by decide
  have hbytes := findSome?_fault?_others (m := c.sentHeaders (op.withBody (.bytes bs)) now) (by
    intro value hvalue
    rw [get?_contentLength_bytes] at hvalue
    rw [Header.fault?, if_pos hname, if_pos (hfits value hvalue)])
  have hstream := findSome?_fault?_others (m := c.sentHeaders (op.withBody (.stream chunks length)) now) (by
    intro value hvalue
    rw [sentHeaders_stream bs, SortedMap.get?_insert, if_pos rfl] at hvalue
    rw [← Option.some.inj hvalue]
    exact fault?_length length)
  rw [← hbytes, ← hstream, filter_sentHeaders_stream chunks length bs]

/-- A stream becomes the request of bytes in memory, with another body and the
header for its length, if the length that the caller gave can be sent. -/
theorem prepare_stream (hop : LowerCase op.headers) (hfits : op.LengthFits) (bs : Bytes) :
    c.prepare (op.withBody (.stream chunks length)) now =
      (c.prepare (op.withBody (.bytes bs)) now).map fun r =>
        { r with
          headers := .ofSorted ((c.sentHeaders (op.withBody (.bytes bs)) now).insert
            "content-length" (toString length))
          body := .stream chunks length } := by
  have hlower {body : OutgoingBody} : LowerCase (op.withBody body).headers := hop
  rw [prepare_eq hlower, prepare_eq hlower, findSome?_fault?_stream hfits bs]
  cases (c.sentHeaders (op.withBody (.bytes bs)) now).entries.findSome? Header.fault? with
  | some e => rfl
  | none =>
      have hpath : (op.withBody (.stream chunks length)).path =
        (op.withBody (.bytes bs)).path := rfl
      dsimp only
      rw [hpath]
      by_cases harrives : (c.endpoint.withPath (op.withBody (.bytes bs)).path).path =
          (op.withBody (.bytes bs)).path
      · rw [if_pos harrives, if_pos harrives]
        rfl
      · rw [if_neg harrives, if_neg harrives]
        rfl

theorem lengthFits_of_prepare (hop : LowerCase op.headers) {bs : Bytes} {r : Request}
    (h : c.prepare (op.withBody (.bytes bs)) now = .ok r) : op.LengthFits := by
  have hlower : LowerCase (op.withBody (.bytes bs)).headers := hop
  obtain ⟨hfault, -, -⟩ := (prepare_eq_ok_iff hlower).mp h
  intro value hvalue
  have hmem : ("content-length", value) ∈ (c.sentHeaders (op.withBody (.bytes bs)) now).entries :=
    SortedMap.mem_entries_iff.mpr ((get?_contentLength_bytes bs).trans hvalue)
  exact (Header.fault?_eq_none (hfault _ hmem)).2

/-- Bytes in memory are sent just if the stream is and the length that the caller
gave can be sent. -/
theorem exists_prepare_bytes_iff (hop : LowerCase op.headers) (bs : Bytes) :
    (∃ r, c.prepare (op.withBody (.bytes bs)) now = .ok r) ↔
      (∃ r, c.prepare (op.withBody (.stream chunks length)) now = .ok r) ∧ op.LengthFits := by
  constructor
  · rintro ⟨r, hr⟩
    have hfits := lengthFits_of_prepare hop hr
    have hstream : c.prepare (op.withBody (.stream chunks length)) now = _ :=
      prepare_stream hop hfits bs
    rw [hr] at hstream
    exact ⟨⟨_, hstream⟩, hfits⟩
  · rintro ⟨⟨r, hr⟩, hfits⟩
    rw [prepare_stream hop hfits bs] at hr
    cases hbytes : c.prepare (op.withBody (.bytes bs)) now with
    | error e =>
        rw [hbytes] at hr
        cases hr
    | ok r => exact ⟨r, rfl⟩

/-- A request with a stream differs from one with bytes in memory in the body and
in the header for the length. -/
structure SentAlike (length : Nat) (r r' : Request) : Prop where
  verb : r'.verb = r.verb
  url : r'.url = r.url
  headers : (r'.headers.toList.filter fun h => h.1 != "content-length") =
    r.headers.toList.filter fun h => h.1 != "content-length"
  length : r'.headers.getAll "content-length" = [Utf8.encode (toString length)]

theorem sentAlike_stream (hop : LowerCase op.headers) {bs : Bytes} {r r' : Request}
    (hbytes : c.prepare (op.withBody (.bytes bs)) now = .ok r)
    (hstream : c.prepare (op.withBody (.stream chunks length)) now = .ok r') :
    SentAlike length r r' ∧ r.body = .bytes bs ∧ r'.body = .stream chunks length := by
  have hlower {body : OutgoingBody} : LowerCase (op.withBody body).headers := hop
  obtain ⟨-, -, hr⟩ := (prepare_eq_ok_iff hlower).mp hbytes
  rw [prepare_stream hop (lengthFits_of_prepare hop hbytes) bs, hbytes] at hstream
  obtain rfl := Except.ok.inj hstream
  refine ⟨⟨rfl, rfl, ?_, ?_⟩, ?_, rfl⟩
  · have hheaders : r.headers = .ofSorted (c.sentHeaders (op.withBody (.bytes bs)) now) :=
      congrArg Request.headers hr
    dsimp only
    rw [hheaders, HeaderMap.toList_ofSorted, HeaderMap.toList_ofSorted, List.filter_map,
      List.filter_map]
    exact congrArg _ (filter_sentHeaders_stream chunks length bs)
  · dsimp only
    rw [HeaderMap.getAll_ofSorted, SortedMap.get?_insert, if_pos rfl]
    rfl
  · rw [hr]
    rfl

theorem resultOver_stream (hop : LowerCase op.headers) (hfits : op.LengthFits) (bs : Bytes)
    {σ τ : Type} {t : Transport σ} {s : σ} {u : Transport τ} {s' : τ}
    (hsame : ∀ r r', c.prepare (op.withBody (.bytes bs)) now = .ok r →
      c.prepare (op.withBody (.stream chunks length)) now = .ok r' →
      (u.send s' r').2 = (t.send s r).2) :
    (c.command (op.withBody (.stream chunks length)) now).resultOver u s' =
      (c.command (op.withBody (.bytes bs)) now).resultOver t s := by
  have hprepare : c.prepare (op.withBody (.stream chunks length)) now = _ :=
    prepare_stream hop hfits bs
  unfold command
  cases hbytes : c.prepare (op.withBody (.bytes bs)) now with
  | error e =>
      rw [hbytes] at hprepare
      rw [send, send, hbytes, hprepare]
      rfl
  | ok r =>
      rw [hbytes] at hprepare
      rw [send_eq_sending hbytes, send_eq_sending hprepare, Exchange.resultOver_sending,
        Exchange.resultOver_sending, hsame r _ hbytes hprepare]
      rfl

theorem lengthFits_withDigest {md5 : String} :
    (op.withHeader "content-md5" md5).LengthFits ↔ op.LengthFits := by
  have hlower : Header.lowerCase "content-length" ≠ Header.lowerCase "content-md5" := by decide
  have hsame : (op.withHeader "content-md5" md5).header? "content-length" =
      op.header? "content-length" := by
    rw [Operation.header?, Operation.withHeader, SortedMap.get?_insert, if_neg hlower]
    rfl
  rw [Operation.LengthFits, hsame]
  rfl

theorem request?_putObject_of_attach {o : PutOptions} {bucket key : String} {body : PutBody}
    {op : Operation} (hattach : body.attach (o.operation bucket key) = .ok op) {r : Request} :
    (c.putObject o bucket key body now).request? = some r ↔
      (checkBucket bucket = .ok () ∧ checkKey key = .ok ()) ∧ c.prepare op now = .ok r := by
  rw [request?_putObject, hattach]
  refine and_congr_right fun _ => ?_
  constructor
  · rintro ⟨op', hop', h⟩
    rwa [Except.ok.inj hop']
  · intro h
    exact ⟨op, rfl, h⟩

/-- **Storing a file is storing its bytes.** However a file is cut into parts while it
is digested and while it is sent, the digest is that of its content. Its bytes in memory
are sent just if the file is and the length that the caller gave, if one, can be a header.
Both requests have the same verb, URL, content and headers, signature included, but for
the length, which is that of the file. With a length that fits, the same answer gives the
same result, and so do calls that send nothing. -/
theorem file_stored_as_bytes (c : Client) (o : PutOptions) (bucket key path : String)
    (k : FileContent) (now : Instant) :
    contentMd5OfParts k.digested = contentMd5 k.bytes ∧
    ((∃ r, (c.putObject o bucket key (.bytes k.bytes) now).request? = some r) ↔
      (∃ r, (c.putObject o bucket key (.file ⟨path, some k⟩) now).request? = some r) ∧
        (o.operation bucket key).LengthFits) ∧
    (∀ r r', (c.putObject o bucket key (.bytes k.bytes) now).request? = some r →
      (c.putObject o bucket key (.file ⟨path, some k⟩) now).request? = some r' →
      SentAlike k.bytes.length r r' ∧ r.body.read = .ok k.bytes ∧ r'.body.read = .ok k.bytes) ∧
    ((o.operation bucket key).LengthFits →
      ∀ (σ τ : Type) (t : Transport σ) (s : σ) (u : Transport τ) (s' : τ),
        (∀ r r', (c.putObject o bucket key (.bytes k.bytes) now).request? = some r →
          (c.putObject o bucket key (.file ⟨path, some k⟩) now).request? = some r' →
          (u.send s' r').2 = (t.send s r).2) →
        (c.putObject o bucket key (.file ⟨path, some k⟩) now).resultOver u s' =
          (c.putObject o bucket key (.bytes k.bytes) now).resultOver t s) := by
  obtain ⟨op, hop⟩ : ∃ op,
      op = (o.operation bucket key).withHeader "content-md5" (contentMd5 k.bytes) := ⟨_, rfl⟩
  have hlower : LowerCase op.headers := by
    rw [hop]
    exact (Operation.Built.withHeader _ _ (o.built_operation bucket key)).lowerCase
  have hfits : op.LengthFits ↔ (o.operation bucket key).LengthFits := by
    rw [hop]
    exact lengthFits_withDigest
  have hbytes : (PutBody.bytes k.bytes).attach (o.operation bucket key) =
      .ok (op.withBody (.bytes k.bytes)) := by
    rw [hop]
    rfl
  have hfile : (PutBody.file ⟨path, some k⟩).attach (o.operation bucket key) =
      .ok (op.withBody (.stream (k.sent.map .ok) k.bytes.length)) := by
    rw [PutBody.attach_eq, hop]
    rfl
  simp only [request?_putObject_of_attach hbytes, request?_putObject_of_attach hfile,
    exists_and_left, ← hfits]
  refine ⟨k.contentMd5_digested, ?_, ?_, ?_⟩
  · exact (and_congr_right fun _ => exists_prepare_bytes_iff hlower k.bytes).trans
      and_assoc.symm
  · rintro r r' ⟨-, hr⟩ ⟨-, hr'⟩
    obtain ⟨halike, hrbody, hrbody'⟩ := sentAlike_stream hlower hr hr'
    rw [hrbody, hrbody']
    exact ⟨halike, rfl, k.collect_sent⟩
  · intro hlength σ τ t s u s' hsame
    unfold putObject
    rw [hbytes, hfile]
    cases hbucket : checkBucket bucket with
    | error fault => rfl
    | ok _ =>
        cases hkey : checkKey key with
        | error fault => rfl
        | ok _ =>
            show ((c.command _ now).map _).resultOver u s' = ((c.command _ now).map _).resultOver t s
            rw [Exchange.map, Exchange.map, Exchange.resultOver_andThen,
              Exchange.resultOver_andThen]
            congr 1
            refine resultOver_stream hlower hlength k.bytes ?_
            intro r r' hr hr'
            exact hsame r r' ⟨⟨hbucket, hkey⟩, hr⟩ ⟨⟨hbucket, hkey⟩, hr'⟩

def oneByte : FileContent := ⟨[97], [[97]], [[97]], rfl, rfl⟩

theorem file_stored_as_bytes_oneByte :
    ∃ r r', ((ofLocalService 1024).putObject .usual "logs" "k" (.bytes oneByte.bytes)
        ⟨0⟩).request? = some r ∧
      ((ofLocalService 1024).putObject .usual "logs" "k" (.file ⟨"f", some oneByte⟩)
        ⟨0⟩).request? = some r' ∧
      SentAlike 1 r r' := by
  obtain ⟨r, hprepare⟩ : ∃ r, (ofLocalService 1024).prepare
      (((PutOptions.usual.operation "logs" "k").withHeader "content-md5"
        (contentMd5 oneByte.bytes)).withBody (.bytes oneByte.bytes)) ⟨0⟩ = .ok r :=
    exists_request
      (Operation.Built.withBody _ (.withHeader _ _ (PutOptions.built_operation _ _ _))).lowerCase
      (by decide +kernel) (by decide) (by decide +kernel)
  have hbytes : ((ofLocalService 1024).putObject .usual "logs" "k" (.bytes oneByte.bytes)
      ⟨0⟩).request? = some r := request?_putObject.mpr ⟨by decide, _, rfl, hprepare⟩
  obtain ⟨-, hboth, halike, -⟩ :=
    file_stored_as_bytes (ofLocalService 1024) .usual "logs" "k" "f" oneByte ⟨0⟩
  obtain ⟨⟨r', hfile⟩, -⟩ := hboth.mp ⟨r, hbytes⟩
  exact ⟨r, r', hbytes, hfile, (halike r r' hbytes hfile).1⟩

/-- A stream is sent if all headers but the length that the caller gave can be sent,
and the path arrives. -/
theorem exists_prepare_stream (hop : LowerCase op.headers)
    (hother : ∀ p ∈ op.headers.entries, p.1 ≠ "content-length" → Header.fault? p = none)
    (hkey : Header.fault? ("authorization", c.credentials.keyId) = none)
    (hpath : (c.endpoint.withPath op.path).path = op.path) :
    ∃ r, c.prepare (op.withBody (.stream chunks length)) now = .ok r := by
  have hlower : LowerCase (op.withBody (.stream chunks length)).headers := hop
  refine ⟨_, (prepare_eq_ok_iff hlower).mpr ⟨?_, hpath, rfl⟩⟩
  rintro ⟨name, value⟩ hp
  by_cases hlength : name = "content-length"
  · rw [SortedMap.mem_entries_iff, hlength, sentHeaders_stream [], SortedMap.get?_insert,
      if_pos rfl] at hp
    rw [hlength, ← Option.some.inj hp]
    exact fault?_length length
  · rcases mem_sentHeaders hp with hmem | hadded
    · exact hother (name, value) hmem hlength
    · replace hadded : AddedHeader c (op.withBody (.stream chunks length)) now name value := hadded
      cases hadded with
      | date => exact Header.fault?_of_plain (by decide) (plain_format now)
      | authorization => exact (Header.fault?_authorization _ _ _).trans hkey
      | length n => exact absurd rfl hlength

def brokenLength : PutOptions := PutOptions.usual.withHeader "content-length" "\n"

/-- A file may be sent where its bytes are refused. Its length stands in for one that
the caller gave. -/
theorem file_sent_bytes_refused :
    (∃ r, ((ofLocalService 1024).putObject brokenLength "logs" "k" (.file ⟨"f", some oneByte⟩)
        ⟨0⟩).request? = some r) ∧
      ((ofLocalService 1024).putObject brokenLength "logs" "k" (.bytes oneByte.bytes)
        ⟨0⟩).request? = none := by
  have hlower (md5 : String) :
      LowerCase ((brokenLength.operation "logs" "k").withHeader "content-md5" md5).headers :=
    (Operation.Built.withHeader _ _ (brokenLength.built_operation "logs" "k")).lowerCase
  constructor
  · have hother : ∀ p ∈ ((brokenLength.operation "logs" "k").withHeader "content-md5"
        (contentMd5 oneByte.bytes)).headers.entries,
        p.1 ≠ "content-length" → Header.fault? p = none := by
      intro p hp hname
      rcases SortedMap.mem_insert hp with rfl | hp
      · exact Header.fault?_of_plain (by decide) (plain_base64 _)
      · have hgiven : ∀ p ∈ (brokenLength.operation "logs" "k").headers.entries,
            p.1 ≠ "content-length" → Header.fault? p = none := by decide +kernel
        exact hgiven p hp hname
    have hattach : (PutBody.file ⟨"f", some oneByte⟩).attach (brokenLength.operation "logs" "k") =
        .ok (((brokenLength.operation "logs" "k").withHeader "content-md5"
          (contentMd5 oneByte.bytes)).withBody (.stream (oneByte.sent.map .ok) 1)) := by
      rw [PutBody.attach_eq]
      rfl
    obtain ⟨r, hprepare⟩ := exists_prepare_stream (c := ofLocalService 1024) (hlower _) hother
      (by decide) (by decide +kernel)
    exact ⟨r, (request?_putObject_of_attach hattach).mpr ⟨by decide, hprepare⟩⟩
  · rw [Option.eq_none_iff_forall_ne_some]
    intro r hr
    obtain ⟨-, hprepare⟩ := (request?_putObject_of_attach rfl).mp hr
    have hfits := lengthFits_withDigest.mp (lengthFits_of_prepare (hlower _) hprepare)
    have hgiven : (brokenLength.operation "logs" "k").header? "content-length" = some "\n" := by
      decide +kernel
    exact absurd (hfits "\n" hgiven) (by decide)

end Client

end ObjectStore
