import ObjectStore.Object.Fetch
import ObjectStore.Object.Put
import ObjectStore.Proofs.Client.Answers

/-!
# Results of calls that were answered

A call is a check, a request, and what is done with the response. So the result
of a call that was answered is read off the result of its request, and a call
that sends a request has passed its checks.
-/

namespace ObjectStore

variable {α β σ : Type}

theorem Settled.result_andThen (s : Settled α) (f : α → Settled β) :
    (s.andThen f).result = s.result.bind fun a => (f a).result := by
  unfold Settled.andThen
  cases s.result <;> rfl

namespace Exchange

variable {x : Exchange α} {request : Request} {t : Transport σ} {s : σ}

@[simp] theorem request?_andThen (x : Exchange α) (f : α → Settled β) :
    (x.andThen f).request? = x.request? := by
  cases x <;> rfl

theorem request?_checking {check : Except RequestFault Unit} :
    (checking check x).request? = some request ↔
      check = .ok () ∧ x.request? = some request := by
  cases check with
  | error fault =>
      constructor
      · intro h
        cases h
      · rintro ⟨h, -⟩
        cases h
  | ok u => exact ⟨fun h => ⟨rfl, h⟩, fun h => h.2⟩

theorem resultOver_checking {check : Except RequestFault Unit} (h : check = .ok ()) :
    (checking check x).resultOver t s = x.resultOver t s := by
  rw [h]
  rfl

theorem resultOver_andThen (x : Exchange α) (f : α → Settled β) :
    (x.andThen f).resultOver t s =
      (x.resultOver t s).map fun r => r.bind fun a => (f a).result := by
  cases x with
  | settled settled => exact congrArg some (settled.result_andThen f)
  | sending request settle =>
      rcases hsend : t.send s request with ⟨s', a | e | _⟩
      · simp only [resultOver, andThen, run, hsend, Option.map_some, Settled.result_andThen]
      · simp only [resultOver, andThen, run, hsend, Option.map_some, Settled.result_andThen]
      · simp only [resultOver, andThen, run, hsend, Option.map_none]

end Exchange

namespace Client

variable {c : Client} {op : Operation} {now : Instant} {request : Request} {t : Transport σ}
  {s s' : σ} {a : Answer}

theorem request?_send {wantsBody : Bool} :
    (c.send op wantsBody now).request? = some request ↔ c.prepare op now = .ok request := by
  unfold send
  cases c.prepare op now with
  | error e =>
      constructor
      · intro h
        cases h
      · intro h
        cases h
  | ok sent =>
      constructor
      · intro h
        rw [Option.some.inj h]
      · intro h
        exact congrArg some (Except.ok.inj h)

section Objects

variable {bucket key : String} {info : ObjectInfo}

theorem request?_putObject {o : PutOptions} {body : PutBody} {r : Request} :
    (c.putObject o bucket key body now).request? = some r ↔
      (checkBucket bucket = .ok () ∧ checkKey key = .ok ()) ∧
        ∃ op, body.attach (o.operation bucket key) = .ok op ∧ c.prepare op now = .ok r := by
  unfold putObject
  rw [Exchange.request?_checking, Exchange.request?_checking, and_assoc]
  refine and_congr_right fun _ => and_congr_right fun _ => ?_
  cases hattach : body.attach (o.operation bucket key) with
  | error e =>
      constructor
      · intro h
        cases h
      · rintro ⟨op, hop, -⟩
        cases hop
  | ok op =>
      dsimp only
      rw [Exchange.map, Exchange.request?_andThen, command, request?_send]
      constructor
      · intro h
        exact ⟨op, rfl, h⟩
      · rintro ⟨op', hop, h⟩
        rwa [Except.ok.inj hop]

theorem request?_onObject {α : Type} {next : Exchange α} :
    (onObject bucket key next).request? = some request ↔
      (checkBucket bucket = .ok () ∧ checkKey key = .ok ()) ∧ next.request? = some request := by
  unfold onObject
  rw [Exchange.request?_checking, Exchange.request?_checking, and_assoc]

theorem resultOver_onObject {α : Type} {next : Exchange α}
    (h : checkBucket bucket = .ok () ∧ checkKey key = .ok ()) :
    (onObject bucket key next).resultOver t s = next.resultOver t s := by
  unfold onObject
  rw [Exchange.resultOver_checking h.1, Exchange.resultOver_checking h.2]

/-- What a fetch leaves behind where an answer of success came back. Headers that do
not describe an object close the body, or the connection was released before. -/
theorem run_fetch_of_success (hsent : c.prepare op now = .ok request)
    (hanswer : t.send s request = (s', .answered a)) (hsuccess : isSuccess a.status = true) :
    (c.fetch op now).run t s =
      (s', some (match ObjectInfo.ofHeaders a.headers with
        | .ok info =>
          ⟨.ok (info, if op.verb = .head then none else some ⟨a.body, a.connection⟩),
            if op.verb = .head then some a.connection.release else none⟩
        | .error fault => ⟨.error (.protocol op.path fault), some a.connection.release⟩)) := by
  rw [fetch, ask, send_eq_sending hsent, Exchange.andThen, Exchange.run, hanswer]
  by_cases hverb : op.verb = .head
  · simp only [settle, hsuccess, hverb, Settled.andThen, readInfo, if_true, ne_eq,
      not_true_eq_false, decide_false, Bool.false_eq_true, if_false, Option.map_none]
    cases ObjectInfo.ofHeaders a.headers with
    | ok info => rfl
    | error fault => rfl
  · simp only [settle, hsuccess, hverb, Settled.andThen, readInfo, if_true, ne_eq,
      not_false_eq_true, decide_true, if_false, Option.map_some]
    cases ObjectInfo.ofHeaders a.headers with
    | ok info => rfl
    | error fault => rfl

theorem resultOver_fetch {op : Operation} (hsent : c.prepare op now = .ok request)
    (hanswer : t.send s request = (s', .answered a)) (hsuccess : isSuccess a.status = true)
    (hinfo : ObjectInfo.ofHeaders a.headers = .ok info) :
    (c.fetch op now).resultOver t s =
      some (.ok (info, if op.verb = .head then none else some ⟨a.body, a.connection⟩)) := by
  rw [Exchange.resultOver, run_fetch_of_success hsent hanswer hsuccess, hinfo]
  rfl

theorem resultOver_headObject
    (hrequest : (c.headObject bucket key now).request? = some request)
    (hanswer : t.send s request = (s', .answered a)) (hsuccess : isSuccess a.status = true)
    (hinfo : ObjectInfo.ofHeaders a.headers = .ok info) :
    (c.headObject bucket key now).resultOver t s = some (.ok info) := by
  obtain ⟨hchecks, hrequest⟩ := request?_onObject.mp hrequest
  rw [Exchange.request?_andThen, fetch, Exchange.request?_andThen, ask, request?_send] at hrequest
  unfold headObject
  rw [resultOver_onObject hchecks, Exchange.resultOver_andThen,
    resultOver_fetch hrequest hanswer hsuccess hinfo]
  rfl

theorem resultOver_getObject
    (hrequest : (c.getObject bucket key now).request? = some request)
    (hanswer : t.send s request = (s', .answered a)) (hsuccess : isSuccess a.status = true)
    (hinfo : ObjectInfo.ofHeaders a.headers = .ok info) :
    (c.getObject bucket key now).resultOver t s =
      some (.ok ⟨info, ⟨a.body, a.connection⟩⟩) := by
  obtain ⟨hchecks, hrequest⟩ := request?_onObject.mp hrequest
  rw [Exchange.request?_andThen, fetch, Exchange.request?_andThen, ask, request?_send] at hrequest
  unfold getObject
  dsimp only
  rw [resultOver_onObject hchecks, Exchange.resultOver_andThen,
    resultOver_fetch hrequest hanswer hsuccess hinfo]
  rfl

end Objects

end Client

end ObjectStore
