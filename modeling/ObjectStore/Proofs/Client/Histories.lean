import Mathlib.Algebra.GroupWithZero.Nat
import ObjectStore.Proofs.Client.Accounts
import ObjectStore.Proofs.Http.Releases
import ObjectStore.Proofs.Request.Preparing
import ObjectStore.Transport.Record

/-!
# Connections over whole histories

Calls are made one after the other, by any clients, and between them steps are
taken on the bodies that earlier calls returned, in any order and any number.
The service meets each request with whatever it likes, and each of its answers
arrives on a connection of its own. However such a history goes, each of these
connections is given back once, at the moment that belongs to it.
-/

namespace ObjectStore

/-- A service with the number of requests it received and of answers it gave. -/
structure Counted (σ : Type) where
  state : σ
  requests : Nat
  answers : Nat

def Plan.answers : Plan → Nat
  | .answer _ _ _ => 1
  | .fail _ => 0
  | .silence => 0

/-- The transport to a service that meets every request with some plan, and
is counted while it does. -/
def Transport.planned {σ : Type} (plan : σ → Request → σ × Plan) : Transport (Counted σ) where
  send s request :=
    let (state, p) := plan s.state request
    (⟨state, s.requests + 1, s.answers + p.answers⟩, p.delivery)

/-- A call that was made: how many requests and answers it took, what it
returned, if it returned, the connection that it is done with, and the open
body that it returned, followed since. -/
structure MadeCall where
  requests : Nat
  answers : Nat
  result : Option (Except Failure Returned)
  connection : Option Connection
  body : Option IncomingBody.Tracked

namespace MadeCall

def openBody : Option (Except Failure Returned) → Option IncomingBody
  | some (.ok returned) => returned.body
  | _ => none

/-- The connections of a call, those of its body included. -/
def connections (m : MadeCall) : List Connection :=
  m.connection.toList ++ (m.body.map fun t => t.held.connection).toList

def perform (m : MadeCall) (step : IncomingBody.Step) : MadeCall :=
  { m with body := m.body.map fun t => t.perform step }

/-- All is well with a call and with the connection of its answer. -/
structure Sound (m : MadeCall) : Prop where
  /-- No call sends a second request. -/
  oneRequest : m.requests ≤ 1
  /-- There is one connection for each answer. -/
  accounted : m.connections.length = m.answers
  /-- No connection is given back twice. -/
  atMostOnce : ∀ conn ∈ m.connections, conn.runs ≤ 1
  /-- A body is followed if the call returned an open one. -/
  followed : m.body.isSome = (openBody m.result).isSome
  /-- A call that returned no open body has given its connection back. -/
  closed : openBody m.result = none → ∀ conn ∈ m.connections,
    conn.runs = 1 ∧ conn.isReleased = true
  /-- An open body holds its connection until it ends, and gives it back then. -/
  held : ∀ t, m.body = some t → m.connections = [t.held.connection] ∧
    t.held.connection.runs = (if t.ended then 1 else 0) ∧
    t.held.connection.isReleased = t.ended
  /-- A body that is asked tells whether this has happened. -/
  asked : ∀ t b, m.body = some t → t.held = .body b →
    (t.held.perform .ask).1 = .flag t.ended

end MadeCall

def Call.made {σ : Type} (plan : σ → Request → σ × Plan) (state : σ) (call : Call) (c : Client)
    (now : Instant) : σ × MadeCall :=
  let (service, settled) := (call.exchange c now).run (.planned plan) ⟨state, 0, 0⟩
  let result := settled.map (·.result)
  (service.state, ⟨service.requests, service.answers, result, settled.bind (·.connection),
    (MadeCall.openBody result).map .fresh⟩)

/-- Something that is done: a call, or a step on the body of the call with a
number. -/
inductive Act where
  | call (call : Call) (c : Client) (now : Instant)
  | step (index : Nat) (step : IncomingBody.Step)

/-- A history: the state of the service, and the calls that were made. -/
structure History (σ : Type) where
  state : σ
  calls : List MadeCall

namespace History

variable {σ : Type} (plan : σ → Request → σ × Plan)

def start (state : σ) : History σ := ⟨state, []⟩

def act (h : History σ) : Act → History σ
  | .call call c now =>
    let (state, made) := call.made plan h.state c now
    ⟨state, h.calls ++ [made]⟩
  | .step index step => { h with calls := h.calls.modify index fun m => m.perform step }

def run (h : History σ) (acts : List Act) : History σ := acts.foldl (act plan) h

end History

/-! ## One call -/

namespace MadeCall

/-- What a call keeps to, told without counting: with no body, it is done
with the released connection of each answer; with a body, the connection is
where the steps on the body put it. -/
structure Kept (m : MadeCall) : Prop where
  oneRequest : m.requests ≤ 1
  followed : m.body.isSome = (openBody m.result).isSome
  closed : m.body = none →
    m.connection.toList = List.replicate m.answers Connection.acquired.release
  opened : ∀ t, m.body = some t → m.answers = 1 ∧ m.connection = none ∧ t.Sound .acquired

theorem Kept.perform {m : MadeCall} (h : m.Kept) (step : IncomingBody.Step) :
    (m.perform step).Kept := by
  refine ⟨h.oneRequest, ?_, ?_, ?_⟩
  · show (m.body.map _).isSome = (openBody m.result).isSome
    rw [Option.isSome_map, h.followed]
  · intro hnone
    exact h.closed (Option.map_eq_none_iff.mp hnone)
  · intro t ht
    obtain ⟨t', ht', rfl⟩ := Option.map_eq_some_iff.mp ht
    obtain ⟨hanswers, hconn, hsound⟩ := h.opened t' ht'
    exact ⟨hanswers, hconn, hsound.perform step⟩

theorem Kept.connections_of_closed {m : MadeCall} (h : m.Kept) (hbody : m.body = none) :
    m.connections = List.replicate m.answers Connection.acquired.release := by
  rw [connections, h.closed hbody, hbody]
  exact List.append_nil _

theorem Kept.connections_of_open {m : MadeCall} (h : m.Kept) {t : IncomingBody.Tracked}
    (hbody : m.body = some t) : m.connections = [t.held.connection] := by
  rw [connections, (h.opened t hbody).2.1, hbody]
  rfl

/-- A call that is not followed returned no open body. -/
theorem openBody_of_closed {m : MadeCall} (h : m.body.isSome = (openBody m.result).isSome)
    (hbody : m.body = none) : openBody m.result = none := by
  rw [hbody] at h
  exact Option.not_isSome_iff_eq_none.mp fun hsome => by rw [hsome] at h; cases h

/-- What a call keeps to makes all well with it. -/
theorem Kept.sound {m : MadeCall} (h : m.Kept) : m.Sound := by
  cases hbody : m.body with
  | none =>
      -- every connection is the released one of an answer
      have hconns := h.connections_of_closed hbody
      have hall : ∀ conn ∈ m.connections, conn.runs = 1 ∧ conn.isReleased = true := by
        intro conn hmem
        rw [hconns] at hmem
        rw [List.eq_of_mem_replicate hmem]
        decide
      refine ⟨h.oneRequest, ?_, ?_, h.followed, fun _ => hall, ?_, ?_⟩
      · rw [hconns, List.length_replicate]
      · intro conn hmem
        exact Nat.le_of_eq (hall conn hmem).1
      · intro t ht
        rw [hbody] at ht
        cases ht
      · intro t b ht
        rw [hbody] at ht
        cases ht
  | some t =>
      -- the one connection is where the steps on the body put it
      obtain ⟨hanswers, -, hsound⟩ := h.opened t hbody
      have hconns := h.connections_of_open hbody
      have hruns : t.held.connection.runs = (if t.ended then 1 else 0) ∧
          t.held.connection.isReleased = t.ended := by
        rw [show t.held.connection = _ from hsound]
        cases t.ended <;> decide
      refine ⟨h.oneRequest, ?_, ?_, h.followed, ?_, ?_, ?_⟩
      · rw [hconns, hanswers]
        rfl
      · intro conn hmem
        rw [hconns, List.mem_singleton] at hmem
        rw [hmem, hruns.1]
        split <;> omega
      · intro hnone
        have hsome := h.followed
        rw [hbody, hnone] at hsome
        cases hsome
      · intro t' ht'
        obtain rfl : t = t' := Option.some.inj (hbody.symm.trans ht')
        exact ⟨hconns, hruns⟩
      · intro t' b ht' hheld
        obtain rfl : t = t' := Option.some.inj (hbody.symm.trans ht')
        rw [hsound.ask hheld]

theorem Sound.runs {m : MadeCall} (h : m.Sound) (hended : ∀ t, m.body = some t → t.ended = true) :
    (m.connections.map (·.runs)).sum = m.answers := by
  have hone : ∀ conn ∈ m.connections, conn.runs = 1 := by
    cases hbody : m.body with
    | none =>
        have hresult := openBody_of_closed h.followed hbody
        exact fun conn hmem => (h.closed hresult conn hmem).1
    | some t =>
        obtain ⟨hconns, hruns, -⟩ := h.held t hbody
        intro conn hmem
        rw [hconns, List.mem_singleton] at hmem
        rw [hmem, hruns, hended t hbody]
        rfl
  rw [← h.accounted, List.map_congr_left hone, List.map_const', List.sum_replicate_nat,
    Nat.mul_one]

end MadeCall

theorem Settled.Accounts.kept {s : Settled Returned} {conn : Option Connection}
    (h : s.Accounts Returned.body conn) {requests answers : Nat} (hrequests : requests ≤ 1)
    (hconn : conn.toList = List.replicate answers Connection.acquired) :
    MadeCall.Kept ⟨requests, answers, some s.result, s.connection,
      (MadeCall.openBody (some s.result)).map .fresh⟩ := by
  cases conn with
  | none =>
      obtain ⟨hnone, hclosed⟩ := h
      obtain rfl : answers = 0 := by
        simpa using (congrArg List.length hconn).symm
      have hbody : MadeCall.openBody (some s.result) = none := by
        cases hresult : s.result with
        | error e => rfl
        | ok returned => exact hclosed returned hresult
      refine ⟨hrequests, Option.isSome_map, ?_, ?_⟩
      · intro _
        rw [hnone]
        rfl
      · intro t ht
        rw [hbody] at ht
        cases ht
  | some c =>
      obtain rfl : answers = 1 := by
        simpa using (congrArg List.length hconn).symm
      obtain rfl : c = .acquired := List.head_eq_of_cons_eq hconn
      rcases h with ⟨hnone, returned, body, hresult, hbody, hc⟩ | ⟨hreleased, hclosed⟩
      · have hopen : MadeCall.openBody (some s.result) = some body := by
          rw [hresult]
          exact hbody
        refine ⟨hrequests, Option.isSome_map, ?_, ?_⟩
        · intro hclosed
          rw [hopen] at hclosed
          cases hclosed
        · intro t ht
          rw [hopen] at ht
          obtain rfl := Option.some.inj ht
          exact ⟨rfl, hnone, hc ▸ IncomingBody.Tracked.sound_fresh body⟩
      · have hopen : MadeCall.openBody (some s.result) = none := by
          cases hresult : s.result with
          | error e => rfl
          | ok returned => exact hclosed returned hresult
        refine ⟨hrequests, Option.isSome_map, ?_, ?_⟩
        · intro _
          rw [hreleased]
          rfl
        · intro t ht
          rw [hopen] at ht
          cases ht

theorem Call.kept_made {σ : Type} (plan : σ → Request → σ × Plan) (state : σ) (call : Call)
    (c : Client) (now : Instant) : (call.made plan state c now).2.Kept := by
  have haccounts := call.accounts c now
  unfold Call.made
  cases hx : call.exchange c now with
  | settled s =>
      rw [hx] at haccounts
      have hs : s.Accounts Returned.body none := haccounts
      exact hs.kept (Nat.zero_le 1) rfl
  | sending request settle =>
      rw [hx] at haccounts
      obtain ⟨hfailed, hanswered⟩ := haccounts
      rcases hplan : plan state request with ⟨state', _ | e | _⟩
      · simp only [Exchange.run, Transport.planned, hplan, Plan.delivery, Plan.answers]
        exact (hanswered _).kept (Nat.le_refl 1) rfl
      · simp only [Exchange.run, Transport.planned, hplan, Plan.delivery, Plan.answers]
        exact (hfailed e).kept (Nat.le_refl 1) rfl
      · simp only [Exchange.run, Transport.planned, hplan, Plan.delivery, Plan.answers]
        refine ⟨Nat.le_refl 1, rfl, fun _ => rfl, ?_⟩
        intro t ht
        cases ht

/-! ## All calls -/

namespace History

variable {σ : Type} (plan : σ → Request → σ × Plan)

theorem kept_act {h : History σ} (hkept : ∀ m ∈ h.calls, m.Kept) (a : Act) :
    ∀ m ∈ (h.act plan a).calls, m.Kept := by
  intro m hm
  cases a with
  | call call c now =>
      rcases List.mem_append.mp hm with hm | hm
      · exact hkept m hm
      · rw [List.mem_singleton.mp hm]
        exact call.kept_made plan h.state c now
  | step index step =>
      have hmodified : m ∈ h.calls.modify index fun m => m.perform step := hm
      obtain ⟨i, hi, rfl⟩ := List.mem_iff_getElem.mp hmodified
      rw [List.getElem_modify]
      split
      · exact (hkept _ (List.getElem_mem _)).perform step
      · exact hkept _ (List.getElem_mem _)

theorem kept_run {h : History σ} (hkept : ∀ m ∈ h.calls, m.Kept) (acts : List Act) :
    ∀ m ∈ (h.run plan acts).calls, m.Kept := by
  induction acts generalizing h with
  | nil => exact hkept
  | cons a rest ih => exact ih (kept_act plan hkept a)

/-- **Over a whole history every connection is given back once, at the right
moment.** At every point of it all is well with every call that was made: it
sent one request at most, its connection is released from the moment at which
it returned without an open body, or from the moment at which its body ended.
When all bodies have ended, there were as many releases as answers. -/
theorem connections_released_once (state : σ) (acts : List Act) :
    (∀ m ∈ ((start state).run plan acts).calls, m.Sound) ∧
      ((∀ m ∈ ((start state).run plan acts).calls, ∀ t, m.body = some t → t.ended = true) →
        ((((start state).run plan acts).calls.flatMap fun m => m.connections).map
            fun conn => conn.runs).sum =
          (((start state).run plan acts).calls.map fun m => m.answers).sum) := by
  have hkept : ∀ m ∈ ((start state).run plan acts).calls, m.Kept :=
    kept_run plan (fun m hm => by cases hm) acts
  refine ⟨fun m hm => (hkept m hm).sound, fun hended => ?_⟩
  generalize ((start state).run plan acts).calls = calls at hkept hended
  induction calls with
  | nil => rfl
  | cons m rest ih =>
      have hm := (hkept m List.mem_cons_self).sound.runs (hended m List.mem_cons_self)
      have hrest := ih (fun m hm => hkept m (List.mem_cons_of_mem _ hm))
        (fun m hm => hended m (List.mem_cons_of_mem _ hm))
      rw [List.flatMap_cons, List.map_append, List.sum_append_nat, List.map_cons, List.sum_cons,
        hm, hrest]

def threeBytes : List Chunk := [.ok [1, 2], .ok [3]]

def givingThree : Unit → Request → Unit × Plan := fun _ _ => ((), .answer 200 ∅ (some threeBytes))

def calledForThree : MadeCall :=
  let body : IncomingBody := ⟨some threeBytes, .acquired⟩
  ⟨1, 1, some (.ok ⟨.response 200 ∅, some body⟩), none, some (.fresh body)⟩

/-- A call whose body is read to its end, looked for more, and closed. -/
def readingThree : List Act :=
  [.call (.ask (.ofVerb .get)) (.ofLocalService 1024) ⟨0⟩, .step 0 .next, .step 0 .next,
    .step 0 .next, .step 0 .next, .step 0 .close]

theorem connections_released_once_readingThree :
    ∃ m, ((start ()).run givingThree readingThree).calls = [m] ∧ m.answers = 1 ∧ m.Sound ∧
      (m.connections.map fun conn => conn.runs).sum = 1 := by
  obtain ⟨request, hsent⟩ := Client.exists_request_ofLocalService 1024
  have hmade : Call.made givingThree (start ()).state (.ask (.ofVerb .get))
      (.ofLocalService 1024) ⟨0⟩ = ((), calledForThree) := by
    rw [Call.made, Call.exchange, Client.ask, Client.send_eq_sending hsent]
    rfl
  have hcalled : (start ()).run givingThree readingThree =
      run givingThree ⟨(), [calledForThree]⟩ readingThree.tail := by
    rw [readingThree, run, List.foldl_cons, act, hmade]
    rfl
  obtain ⟨hsound, hbalanced⟩ := connections_released_once givingThree () readingThree
  rw [hcalled] at hsound hbalanced ⊢
  refine ⟨_, rfl, rfl, hsound _ List.mem_cons_self, hbalanced ?_⟩
  intro m hm t ht
  rw [List.mem_singleton.mp hm] at ht
  rw [← Option.some.inj ht]
  rfl

end History

/-! ## Sessions -/

namespace Session

variable {σ : Type}

/-- A session counts the connection of an answer once on both sides. -/
theorem counts_settle (s : Session σ) (steps : List IncomingBody.Step)
    {settled : Settled Returned} {conn : Option Connection}
    (h : settled.Accounts Returned.body conn) (hconn : ∀ c, conn = some c → c = .acquired) :
    (s.settle steps settled).2 =
      { s with
        acquired := s.acquired + conn.toList.length
        released := s.released + conn.toList.length } := by
  cases conn with
  | none =>
      obtain ⟨hnone, hclosed⟩ := h
      unfold settle
      rw [hnone]
      split
      · rfl
      · rfl
      · next hresult => cases hclosed _ hresult
  | some c =>
      obtain rfl := hconn c rfl
      rcases h with ⟨hnone, returned, body, hresult, hbody, hc⟩ | ⟨hreleased, hclosed⟩
      · obtain ⟨value, _ | body'⟩ := returned
        · cases hbody
        · obtain rfl := Option.some.inj hbody
          have hlast := IncomingBody.connection_performAll (.body body') steps
          rw [show (IncomingBody.Held.body body').connection = _ from hc] at hlast
          simp only [settle, hnone, hresult, read, count, hlast]
          rfl
      · unfold settle
        rw [hreleased]
        split
        · rfl
        · rfl
        · next hresult => cases hclosed _ hresult

/-- A session gives back what it acquires: after each call and the steps on
its body, both counts are the number of answers. -/
theorem counts_perform {plan : σ → Request → σ × Plan} {s : Session (Counted σ)}
    (hs : s.acquired = s.transport.answers ∧ s.released = s.transport.answers) (call : Call)
    (c : Client) (steps : List IncomingBody.Step) (now : Instant) :
    (s.perform c (.planned plan) call steps now).2.acquired =
        (s.perform c (.planned plan) call steps now).2.transport.answers ∧
      (s.perform c (.planned plan) call steps now).2.released =
        (s.perform c (.planned plan) call steps now).2.transport.answers := by
  have haccounts := call.accounts c now
  unfold perform
  cases hx : call.exchange c now with
  | settled settled =>
      rw [hx] at haccounts
      have hsettled : settled.Accounts Returned.body none := haccounts
      simp only [Exchange.run, counts_settle _ steps hsettled (fun _ h => by cases h)]
      exact hs
  | sending request settle =>
      rw [hx] at haccounts
      obtain ⟨hfailed, hanswered⟩ := haccounts
      rcases hplan : plan s.transport.state request with ⟨state', ⟨status, headers, body⟩ | e | _⟩
      · have hsettled := hanswered ⟨status, headers, body, .acquired⟩
        simp only [Exchange.run, Transport.planned, hplan, Plan.delivery, Plan.answers,
          counts_settle _ steps hsettled (fun _ h => (Option.some.inj h).symm)]
        exact ⟨congrArg (· + 1) hs.1, congrArg (· + 1) hs.2⟩
      · simp only [Exchange.run, Transport.planned, hplan, Plan.delivery, Plan.answers,
          counts_settle _ steps (hfailed e) (fun _ h => by cases h)]
        exact hs
      · simp only [Exchange.run, Transport.planned, hplan, Plan.delivery, Plan.answers]
        exact hs

end Session

end ObjectStore
