import ObjectStore.Failure

/-!
# Exchanges

A call is an exchange with the service: it is settled at once, or it sends one
request and is settled by what becomes of it. There is no way to send a second
request. A settled call keeps no connection unless its result holds an open
body.
-/

namespace ObjectStore

/-- What a call leaves behind: its result, and the connection that it used
itself, as it left it. A connection that the result holds is not here. -/
structure Settled (α : Type) where
  result : Except Failure α
  connection : Option Connection

namespace Settled

variable {α β : Type}

/-- Goes on with a result. The connection is the one used last. -/
def andThen (s : Settled α) (f : α → Settled β) : Settled β :=
  match s.result with
  | .error e => ⟨.error e, s.connection⟩
  | .ok a => ⟨(f a).result, (f a).connection.or s.connection⟩

def map (f : α → β) (s : Settled α) : Settled β := ⟨s.result.map f, s.connection⟩

end Settled

/-- A call to the service: settled at once, or by what becomes of one
request. -/
inductive Exchange (α : Type) where
  | settled (s : Settled α)
  | sending (request : Request) (settle : Except DeliveryError Answer → Settled α)

namespace Exchange

variable {α β : Type}

def refused (e : Failure) : Exchange α := .settled ⟨.error e, none⟩

def checking (check : Except RequestFault Unit) (next : Exchange α) : Exchange α :=
  match check with
  | .ok () => next
  | .error fault => refused (.request fault)

/-- Goes on with the result of a call, without sending anything more. -/
def andThen (x : Exchange α) (f : α → Settled β) : Exchange β :=
  match x with
  | .settled s => .settled (s.andThen f)
  | .sending request settle => .sending request fun d => (settle d).andThen f

def map (f : α → β) (x : Exchange α) : Exchange β :=
  x.andThen fun a => ⟨.ok (f a), none⟩

def request? : Exchange α → Option Request
  | .settled _ => none
  | .sending request _ => some request

/-- Carries out a call over a transport. There is no result if the service
never answers. -/
def run {σ : Type} (t : Transport σ) (state : σ) (x : Exchange α) : σ × Option (Settled α) :=
  match x with
  | .settled s => (state, some s)
  | .sending request settle =>
    match t.send state request with
    | (state, .answered a) => (state, some (settle (.ok a)))
    | (state, .failed e) => (state, some (settle (.error e)))
    | (state, .silent) => (state, none)

end Exchange
end ObjectStore
