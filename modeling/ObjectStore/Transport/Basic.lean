import ObjectStore.Http.Header
import ObjectStore.Http.Incoming
import ObjectStore.Http.Outgoing
import ObjectStore.Http.Verb
import ObjectStore.Url.Basic

/-!
# Transports

A transport carries a request to the service. It may bring back an answer,
fail on the way, or never say anything. Every answer comes with the connection
it arrived on.
-/

namespace ObjectStore

structure Request where
  verb : Verb
  url : Url
  headers : HeaderMap
  body : OutgoingBody

structure DeliveryError where
  message : String
  source : Option String
  deriving DecidableEq, Repr

def DeliveryError.display (e : DeliveryError) : String :=
  match e.source with
  | some source => e.message ++ ": " ++ source
  | none => e.message

/-- What the service answers. An answer may come without a body. -/
structure Answer where
  status : Nat
  headers : HeaderMap
  body : Option (List Chunk)
  connection : Connection

def isSuccess (status : Nat) : Bool := 200 ≤ status && status ≤ 299

def Answer.shown (a : Answer) : String :=
  Quoted.record "TransportResponse"
    [("status", toString a.status), ("headers", a.headers.shown),
      ("has_body", Quoted.flag a.body.isSome), ("connection", a.connection.shown)]

inductive Delivery where
  | answered (a : Answer)
  | failed (e : DeliveryError)
  | silent

/-- A transport with a state of its own, such as what it has sent so far. -/
structure Transport (σ : Type) where
  send : σ → Request → σ × Delivery

end ObjectStore
