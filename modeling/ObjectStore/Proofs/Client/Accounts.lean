import ObjectStore.Client.Session

/-!
# Where the connection of an answer goes

Every answer arrives on a connection. The call that it settles either hands the
connection on, untouched, in the open body that it returns, or it releases the
connection and keeps nothing open. A call that was not answered has no
connection at all. This holds of sending an operation, it is kept by whatever
is done with the result, and so it holds of every call of a client.
-/

namespace ObjectStore

variable {α β : Type}

/-- A settled call accounts for the connection it was answered on, or for
having none. `openBody` finds the open body in a result. -/
def Settled.Accounts (openBody : α → Option IncomingBody) (s : Settled α) :
    Option Connection → Prop
  | none => s.connection = none ∧ ∀ a, s.result = .ok a → openBody a = none
  | some c =>
    (s.connection = none ∧
        ∃ a body, s.result = .ok a ∧ openBody a = some body ∧ body.connection = c) ∨
      (s.connection = some c.release ∧ ∀ a, s.result = .ok a → openBody a = none)

/-- A call accounts for the connection of every answer. -/
def Exchange.Accounts (openBody : α → Option IncomingBody) : Exchange α → Prop
  | .settled s => s.Accounts openBody none
  | .sending _ settle =>
    (∀ e, (settle (.error e)).Accounts openBody none) ∧
      ∀ answer, (settle (.ok answer)).Accounts openBody (some answer.connection)

/-! ## What is done with a result -/

section Results

variable {openBody : α → Option IncomingBody} {openBody' : β → Option IncomingBody}

theorem Settled.accounts_error (e : Failure) :
    (⟨.error e, none⟩ : Settled α).Accounts openBody none :=
  ⟨rfl, fun _ h => by cases h⟩

/-- Going on with a result keeps the account, if going on accounts for the
connection of the body in it. -/
theorem Settled.Accounts.andThen {s : Settled α} {f : α → Settled β} {conn : Option Connection}
    (h : s.Accounts openBody conn)
    (hf : ∀ a, (f a).Accounts openBody' ((openBody a).map (·.connection))) :
    (s.andThen f).Accounts openBody' conn := by
  cases hresult : s.result with
  | error e =>
      have hthen : s.andThen f = ⟨.error e, s.connection⟩ := by
        simp only [Settled.andThen, hresult]
      rw [hthen]
      cases conn with
      | none => exact ⟨h.1, fun _ heq => by cases heq⟩
      | some c =>
          rcases h with ⟨-, a, -, hok, -⟩ | ⟨hconn, -⟩
          · rw [hresult] at hok
            cases hok
          · exact .inr ⟨hconn, fun _ heq => by cases heq⟩
  | ok a =>
      have hthen : s.andThen f = ⟨(f a).result, (f a).connection.or s.connection⟩ := by
        simp only [Settled.andThen, hresult]
      have hfa := hf a
      rw [hthen]
      cases conn with
      | none =>
          obtain ⟨hconn, hclosed⟩ := h
          rw [hclosed a hresult] at hfa
          exact ⟨by rw [hfa.1, hconn]; rfl, hfa.2⟩
      | some c =>
          rcases h with ⟨hconn, a', body, hok, hbody, hc⟩ | ⟨hconn, hclosed⟩
          · -- the body goes on to `f`, which accounts for it
            obtain rfl : a = a' := by
              rw [hresult] at hok
              exact Except.ok.inj hok
            rw [hbody, Option.map_some, hc] at hfa
            rcases hfa with ⟨hnone, hheld⟩ | ⟨hreleased, hclosed⟩
            · exact .inl ⟨by rw [hnone, hconn]; rfl, hheld⟩
            · exact .inr ⟨by rw [hreleased]; rfl, hclosed⟩
          · rw [hclosed a hresult] at hfa
            exact .inr ⟨by rw [hfa.1, hconn]; rfl, hfa.2⟩

theorem Exchange.Accounts.andThen {x : Exchange α} {f : α → Settled β}
    (h : x.Accounts openBody)
    (hf : ∀ a, (f a).Accounts openBody' ((openBody a).map (·.connection))) :
    (x.andThen f).Accounts openBody' := by
  cases x with
  | settled s =>
      have hs : s.Accounts openBody none := h
      exact hs.andThen hf
  | sending request settle =>
      exact ⟨fun e => (h.1 e).andThen hf, fun answer => (h.2 answer).andThen hf⟩

theorem Exchange.Accounts.map {x : Exchange α} {f : α → β} (h : x.Accounts openBody)
    (hf : ∀ a, openBody' (f a) = openBody a) : (x.map f).Accounts openBody' := by
  refine h.andThen fun a => ?_
  rw [← hf a]
  cases hopen : openBody' (f a) with
  | none =>
      refine ⟨rfl, fun b hb => ?_⟩
      rw [← Except.ok.inj hb]
      exact hopen
  | some body => exact .inl ⟨rfl, f a, body, rfl, hopen, rfl⟩

theorem Exchange.accounts_refused (e : Failure) :
    (refused e : Exchange α).Accounts openBody :=
  Settled.accounts_error e

theorem Exchange.Accounts.checking {x : Exchange α} (h : x.Accounts openBody)
    (check : Except RequestFault Unit) : (checking check x).Accounts openBody := by
  cases check with
  | ok _ => exact h
  | error fault => exact accounts_refused _

end Results

/-! ## The calls -/

namespace Client

variable (c : Client)

/-- Settling an operation accounts for the connection of the answer. -/
theorem accounts_settle (resource : String) (wantsBody : Bool) (answer : Answer) :
    (c.settle resource wantsBody (.ok answer)).Accounts Response.body
      (some answer.connection) := by
  unfold settle
  dsimp only
  split
  · split
    · exact .inl ⟨rfl, _, _, rfl, rfl, rfl⟩
    · refine .inr ⟨rfl, fun r hr => ?_⟩
      rw [← Except.ok.inj hr]
  · exact .inr ⟨rfl, fun r hr => by cases hr⟩

theorem accounts_send (op : Operation) (wantsBody : Bool) (now : Instant) :
    (c.send op wantsBody now).Accounts Response.body := by
  unfold send
  split
  · exact Exchange.accounts_refused _
  · exact ⟨fun e => Settled.accounts_error _, c.accounts_settle op.path wantsBody⟩

theorem accounts_command {β : Type} (op : Operation) (now : Instant) (f : Response → β) :
    ((c.command op now).map f).Accounts fun _ => none := by
  have hnone : (c.command op now).Accounts fun _ => none := by
    unfold command send
    split
    · exact Exchange.accounts_refused _
    · refine ⟨fun e => Settled.accounts_error _, fun answer => ?_⟩
      rcases c.accounts_settle op.path false answer with ⟨-, r, body, hr, hbody, -⟩ | ⟨hconn, -⟩
      · unfold settle at hr
        dsimp only at hr
        split at hr
        · rw [← Except.ok.inj hr] at hbody
          cases hbody
        · cases hr
      · exact .inr ⟨hconn, fun _ _ => rfl⟩
  exact hnone.map fun _ => rfl

/-- Reading what the headers say closes the body where it fails. -/
theorem accounts_readInfo (resource : String) (r : Response) :
    (readInfo resource r).Accounts Prod.snd (r.body.map (·.connection)) := by
  unfold readInfo
  split
  · next info _ =>
      cases hbody : r.body with
      | none =>
          refine ⟨rfl, fun p hp => ?_⟩
          rw [← Except.ok.inj hp]
      | some body => exact .inl ⟨rfl, _, body, rfl, rfl, rfl⟩
  · cases r.body with
    | none => exact Settled.accounts_error _
    | some body => exact .inr ⟨rfl, fun p hp => by cases hp⟩

theorem accounts_fetch (op : Operation) (now : Instant) :
    (c.fetch op now).Accounts Prod.snd :=
  (c.accounts_send op _ now).andThen (accounts_readInfo op.path)

theorem accounts_getObject (bucket key : String) (now : Instant) :
    (c.getObject bucket key now).Accounts fun o => some o.body := by
  unfold getObject onObject
  refine (((c.accounts_fetch _ now).andThen fun p => ?_).checking _).checking _
  obtain ⟨info, _ | body⟩ := p
  · exact Settled.accounts_error _
  · exact .inl ⟨rfl, _, body, rfl, rfl, rfl⟩

theorem accounts_headObject (bucket key : String) (now : Instant) :
    (c.headObject bucket key now).Accounts fun _ => none := by
  unfold headObject onObject
  refine (((c.accounts_fetch _ now).andThen fun p => ?_).checking _).checking _
  obtain ⟨info, _ | body⟩ := p
  · exact ⟨rfl, fun _ _ => rfl⟩
  · exact .inr ⟨rfl, fun _ _ => rfl⟩

/-- A listing is read to the end of its document, and nothing stays open. -/
theorem accounts_listObjects (bucket : String) (query : ListQuery) (now : Instant) :
    (c.listObjects bucket query now).Accounts fun _ => none := by
  unfold listObjects
  refine ((c.accounts_send _ _ now).andThen fun r => ?_).checking _
  unfold readListing
  cases r.body with
  | none => exact Settled.accounts_error _
  | some body => exact .inr ⟨rfl, fun _ _ => rfl⟩

theorem accounts_putObject (o : PutOptions) (bucket key : String) (body : PutBody)
    (now : Instant) : (c.putObject o bucket key body now).Accounts fun _ => none := by
  unfold putObject
  refine (Exchange.Accounts.checking ?_ _).checking _
  split
  · exact Exchange.accounts_refused _
  · exact c.accounts_command _ now _

end Client

/-- **Every call accounts for the connection of every answer.** -/
theorem Call.accounts (call : Call) (c : Client) (now : Instant) :
    (call.exchange c now).Accounts Returned.body := by
  cases call with
  | putObject options bucket key body =>
      exact (c.accounts_putObject options bucket key body now).map fun _ => rfl
  | getObject bucket key => exact (c.accounts_getObject bucket key now).map fun _ => rfl
  | headObject bucket key => exact (c.accounts_headObject bucket key now).map fun _ => rfl
  | deleteObject bucket key =>
      exact (((c.accounts_command _ now _).checking _).checking _).map fun _ => rfl
  | createBucket bucket acl => exact ((c.accounts_command _ now _).checking _).map fun _ => rfl
  | deleteBucket bucket => exact ((c.accounts_command _ now _).checking _).map fun _ => rfl
  | listObjects bucket query => exact (c.accounts_listObjects bucket query now).map fun _ => rfl
  | ask op => exact (c.accounts_send op _ now).map fun _ => rfl
  | command op => exact (c.accounts_send op _ now).map fun _ => rfl
  | fetch op => exact (c.accounts_fetch op now).map fun _ => rfl

end ObjectStore
