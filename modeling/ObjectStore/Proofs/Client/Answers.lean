import ObjectStore.Proofs.Request.Preparing

/-!
# What an answer means

The answer to an operation is judged by its status, its headers and the bytes
of its body. How the bytes are cut into chunks does not matter, and neither does
anything behind the bytes that are kept of an error document.
-/

namespace ObjectStore

namespace Chunks

/-- The failure that comes before so many bytes were delivered, if one does. -/
def failureWithin (limit : Nat) (chunks : List Chunk) : Option IoError :=
  if (delivered chunks).length < limit then failure? chunks else none

def kept (limit : Nat) (chunks : List Chunk) : Bytes := (delivered chunks).take limit

@[simp] theorem failureWithin_nil (limit : Nat) : failureWithin limit [] = none :=
  ite_self _

@[simp] theorem failureWithin_zero (chunks : List Chunk) : failureWithin 0 chunks = none :=
  if_neg (Nat.not_lt_zero _)

theorem failureWithin_error {limit : Nat} (h : 0 < limit) (e : IoError) (rest : List Chunk) :
    failureWithin limit (.error e :: rest) = some e :=
  if_pos h

theorem failureWithin_cons (limit : Nat) (bs : Bytes) (rest : List Chunk) :
    failureWithin limit (.ok bs :: rest) = failureWithin (limit - bs.length) rest := by
  have hcount : (delivered (.ok bs :: rest)).length < limit ↔
      (delivered rest).length < limit - bs.length := by
    rw [delivered, List.length_append]
    omega
  simp only [failureWithin, hcount, failure?]

theorem kept_cons (limit : Nat) (bs : Bytes) (rest : List Chunk) :
    kept limit (.ok bs :: rest) = bs.take limit ++ kept (limit - bs.length) rest := by
  rw [kept, delivered, List.take_append]
  rfl

/-- Without a failure on the way, nothing is kept exactly where nothing was
delivered at all. -/
theorem kept_eq_nil {limit : Nat} (hlimit : 0 < limit) {chunks : List Chunk}
    (h : failureWithin limit chunks = none) :
    kept limit chunks = [] ↔ ∀ chunk ∈ chunks, chunk = .ok [] := by
  induction chunks with
  | nil => simp [kept, delivered]
  | cons chunk rest ih =>
      cases chunk with
      | error e =>
          rw [failureWithin_error hlimit] at h
          cases h
      | ok bs =>
          rw [kept_cons, List.append_eq_nil_iff, List.forall_mem_cons]
          rw [failureWithin_cons] at h
          constructor
          · rintro ⟨htake, hrest⟩
            obtain rfl : bs = [] := by
              rcases List.take_eq_nil_iff.mp htake with hzero | hnil
              · exact absurd hzero (Nat.ne_of_gt hlimit)
              · exact hnil
            exact ⟨rfl, (ih h).mp hrest⟩
          · rintro ⟨hchunk, hrest⟩
            obtain rfl := Except.ok.inj hchunk
            exact ⟨List.take_nil, (ih h).mpr hrest⟩

end Chunks

namespace Client

/-- What is read of an error document: the failure before the limit, or the
bytes that are kept. -/
theorem firstBytes_eq (limit : Nat) (chunks : List Chunk) :
    firstBytes limit chunks =
      match Chunks.failureWithin limit chunks with
      | some e => .error e
      | none => .ok (Chunks.kept limit chunks) := by
  induction chunks generalizing limit with
  | nil =>
      rw [Chunks.failureWithin_nil]
      cases limit with
      | zero => rfl
      | succ limit => rfl
  | cons chunk rest ih =>
      cases limit with
      | zero =>
          rw [Chunks.failureWithin_zero]
          rfl
      | succ limit =>
          cases chunk with
          | error e =>
              rw [Chunks.failureWithin_error (Nat.succ_pos limit)]
              rfl
          | ok bs =>
              rw [Chunks.failureWithin_cons, Chunks.kept_cons]
              show (firstBytes (limit + 1 - bs.length) rest).map _ = _
              rw [ih]
              cases Chunks.failureWithin (limit + 1 - bs.length) rest with
              | none => rfl
              | some e => rfl

/-- What an answer without success means, told by the failure before the limit
and by the bytes that are kept. -/
theorem refusal_firstBytes (resource : String) (status limit : Nat) (chunks : List Chunk) :
    refusal resource status (firstBytes limit chunks) =
      match Chunks.failureWithin limit chunks with
      | some e => .transport resource ⟨"failed to read error body", some e.text⟩
      | none =>
        if Chunks.kept limit chunks = [] then .protocol resource (.noErrorDocument status)
        else
          .service { Refusal.ofBody (Chunks.kept limit chunks) with
            status := some status, resource := some resource } := by
  rw [firstBytes_eq]
  cases Chunks.failureWithin limit chunks with
  | some e => rfl
  | none =>
      dsimp only
      cases Chunks.kept limit chunks with
      | nil => rfl
      | cons b bs =>
          rw [if_neg (List.cons_ne_nil b bs)]
          rfl

end Client

/-- The result of a call over a transport, if the service ever answers. -/
def Exchange.resultOver {σ α : Type} (t : Transport σ) (s : σ) (x : Exchange α) :
    Option (Except Failure α) :=
  (x.run t s).2.map fun settled => settled.result

theorem Exchange.resultOver_sending {σ α : Type} (t : Transport σ) (s : σ) (request : Request)
    (settle : Except DeliveryError Answer → Settled α) :
    (sending request settle).resultOver t s =
      match (t.send s request).2 with
      | .answered a => some (settle (.ok a)).result
      | .failed e => some (settle (.error e)).result
      | .silent => none := by
  rw [resultOver, run]
  rcases t.send s request with ⟨s', a | e | _⟩
  · rfl
  · rfl
  · rfl

namespace Client

section Sent

variable {c : Client} {op : Operation} {now : Instant} {request : Request} {σ : Type}
  {t : Transport σ} {s s' : σ}

theorem resultOver_failed (hsent : c.prepare op now = .ok request) {e : DeliveryError}
    (h : t.send s request = (s', .failed e)) (wantsBody : Bool) :
    (c.send op wantsBody now).resultOver t s = some (.error (.transport op.path e)) := by
  rw [send_eq_sending hsent, Exchange.resultOver_sending, h]
  rfl

theorem resultOver_answered (hsent : c.prepare op now = .ok request) {a : Answer}
    (h : t.send s request = (s', .answered a)) (wantsBody : Bool) :
    (c.send op wantsBody now).resultOver t s =
      some (c.settle op.path wantsBody (.ok a)).result := by
  rw [send_eq_sending hsent, Exchange.resultOver_sending, h]

theorem result_settle_of_success {a : Answer} (h : isSuccess a.status = true) (resource : String)
    (wantsBody : Bool) :
    (c.settle resource wantsBody (.ok a)).result =
      .ok ⟨a.status, a.headers, if wantsBody then some ⟨a.body, a.connection⟩ else none⟩ := by
  simp only [settle, h, if_true]
  cases wantsBody <;> rfl

theorem result_settle_of_refusal {a : Answer} (h : isSuccess a.status = false) (resource : String)
    (wantsBody : Bool) :
    (c.settle resource wantsBody (.ok a)).result =
      .error (refusal resource a.status (firstBytes c.errorLimit (a.body.getD []))) := by
  simp only [settle, h, Bool.false_eq_true, if_false]

/-- Whether the body is wanted makes no difference to the failures. -/
theorem failure_settle_iff (resource : String) (wantsBody : Bool)
    (d : Except DeliveryError Answer) (failure : Failure) :
    (c.settle resource wantsBody d).result = .error failure ↔
      (c.settle resource false d).result = .error failure := by
  cases d with
  | error e => exact Iff.rfl
  | ok a =>
      cases h : isSuccess a.status with
      | false => rw [result_settle_of_refusal h, result_settle_of_refusal h]
      | true =>
          rw [result_settle_of_success h, result_settle_of_success h]
          constructor
          · intro heq
            cases heq
          · intro heq
            cases heq

end Sent

/-- **An answer is classified by its status, its headers and the bytes of its
body.** A failure on the way and a status of success are told at once. Any other
status means a failure of the read that comes before the limit, a missing
document if nothing is kept of the body, and else the refusal in the bytes that
are kept. Chunks that agree on the failure and on these bytes mean the same,
and the two ways to carry an operation out fail alike. -/
theorem answers_classified {c : Client} {op : Operation} {now : Instant} {request : Request}
    (hsent : c.prepare op now = .ok request) {σ : Type} (t : Transport σ) (s : σ) :
    (∀ s' e, t.send s request = (s', .failed e) →
      (c.ask op now).resultOver t s = some (.error (.transport op.path e)) ∧
        (c.command op now).resultOver t s = some (.error (.transport op.path e))) ∧
    (∀ s' a, t.send s request = (s', .answered a) → isSuccess a.status = true →
      (c.ask op now).resultOver t s =
          some (.ok ⟨a.status, a.headers,
            if op.verb = .head then none else some ⟨a.body, a.connection⟩⟩) ∧
        (c.command op now).resultOver t s = some (.ok ⟨a.status, a.headers, none⟩)) ∧
    (∀ s' a, t.send s request = (s', .answered a) → isSuccess a.status = false →
      ∃ failure, (c.ask op now).resultOver t s = some (.error failure) ∧
        (c.command op now).resultOver t s = some (.error failure) ∧
        failure =
          (match Chunks.failureWithin c.errorLimit (a.body.getD []) with
          | some e => .transport op.path ⟨"failed to read error body", some e.text⟩
          | none =>
            if Chunks.kept c.errorLimit (a.body.getD []) = [] then
              .protocol op.path (.noErrorDocument a.status)
            else
              .service { Refusal.ofBody (Chunks.kept c.errorLimit (a.body.getD [])) with
                status := some a.status, resource := some op.path }) ∧
        (0 < c.errorLimit → Chunks.failureWithin c.errorLimit (a.body.getD []) = none →
          (Chunks.kept c.errorLimit (a.body.getD []) = [] ↔
            ∀ chunk ∈ a.body.getD [], chunk = .ok []))) ∧
    (∀ s' a, t.send s request = (s', .answered a) → isSuccess a.status = false →
      ∀ (u : Transport σ) (r r' : σ) (b : Answer), u.send r request = (r', .answered b) →
        b.status = a.status →
        Chunks.failureWithin c.errorLimit (b.body.getD []) =
          Chunks.failureWithin c.errorLimit (a.body.getD []) →
        Chunks.kept c.errorLimit (b.body.getD []) = Chunks.kept c.errorLimit (a.body.getD []) →
        (c.ask op now).resultOver u r = (c.ask op now).resultOver t s) ∧
    (∀ failure, (c.ask op now).resultOver t s = some (.error failure) ↔
      (c.command op now).resultOver t s = some (.error failure)) := by
  refine ⟨?_, ?_, ?_, ?_, ?_⟩
  · intro s' e h
    exact ⟨resultOver_failed hsent h _, resultOver_failed hsent h _⟩
  · intro s' a h hsuccess
    rw [ask, command, resultOver_answered hsent h, resultOver_answered hsent h,
      result_settle_of_success hsuccess, result_settle_of_success hsuccess]
    refine ⟨?_, rfl⟩
    by_cases hverb : op.verb = .head
    · simp only [hverb, ne_eq, not_true_eq_false, decide_false, Bool.false_eq_true, if_false,
        if_true]
    · simp only [hverb, ne_eq, not_false_eq_true, decide_true, if_true, if_false]
  · intro s' a h hrefused
    refine ⟨_, ?_, ?_, refusal_firstBytes op.path a.status c.errorLimit (a.body.getD []),
      fun hlimit hnone => Chunks.kept_eq_nil hlimit hnone⟩
    · rw [ask, resultOver_answered hsent h, result_settle_of_refusal hrefused]
    · rw [command, resultOver_answered hsent h, result_settle_of_refusal hrefused]
  · intro s' a h hrefused u r r' b hb hstatus hfailure hkept
    have hrefused' : isSuccess b.status = false := by
      rw [hstatus]
      exact hrefused
    rw [ask, resultOver_answered hsent h, resultOver_answered hsent hb,
      result_settle_of_refusal hrefused, result_settle_of_refusal hrefused', refusal_firstBytes,
      refusal_firstBytes, hstatus, hfailure, hkept]
  · intro failure
    -- the two ways differ in what they do with a body, and only in success
    unfold ask command
    rcases h : t.send s request with ⟨s', a | e | _⟩
    · rw [resultOver_answered hsent h, resultOver_answered hsent h, Option.some.injEq,
        Option.some.injEq]
      exact failure_settle_iff op.path _ (.ok a) failure
    · rw [resultOver_failed hsent h, resultOver_failed hsent h]
    · simp only [Exchange.resultOver, send_eq_sending hsent, Exchange.run, h]

/-- A service that refuses everything in a document that it does not finish. -/
def refusing : Transport Unit where
  send _ _ :=
    ((), .answered ⟨404, ∅, some [.ok [60], .ok [], .ok [97, 62], .error ⟨"reset"⟩], .acquired⟩)

/-- Where two bytes are kept, the empty chunk makes no difference, nor does the
failure behind the limit. -/
theorem answers_classified_keepingTwo :
    ∃ request, (ofLocalService 2).prepare (.ofVerb .get) ⟨0⟩ = .ok request ∧
      ((ofLocalService 2).ask (.ofVerb .get) ⟨0⟩).resultOver refusing () =
        some (.error (.service { Refusal.ofBody [60, 97] with
          status := some 404, resource := some "/" })) := by
  obtain ⟨request, hsent⟩ := exists_request_ofLocalService 2
  obtain ⟨-, -, hrefused, -⟩ := answers_classified hsent refusing ()
  obtain ⟨failure, hask, -, hfailure, -⟩ := hrefused () _ rfl rfl
  refine ⟨request, hsent, ?_⟩
  rw [hask, hfailure]
  rfl

end Client

end ObjectStore
