import ObjectStore.Bucket.Calls
import ObjectStore.Object.Fetch
import ObjectStore.Object.Put

/-!
# Sessions

Calls of one client, one after the other, over one transport. After each call
the body that it returned, if it returned one, is read in some steps and goes
out of use. A session counts the connections that were acquired and how often
connections were given back.
-/

namespace ObjectStore

inductive Call where
  | putObject (options : PutOptions) (bucket key : String) (body : PutBody)
  | getObject (bucket key : String)
  | headObject (bucket key : String)
  | deleteObject (bucket key : String)
  | createBucket (bucket : String) (acl : CannedAcl)
  | deleteBucket (bucket : String)
  | listObjects (bucket : String) (query : ListQuery)
  | ask (op : Operation)
  | command (op : Operation)
  | fetch (op : Operation)

inductive CallValue where
  | nothing
  | receipt (r : PutReceipt)
  | info (i : ObjectInfo)
  | listing (l : ListingPage)
  | response (status : Nat) (headers : HeaderMap)

/-- What a call returns, and the open body that comes with it. -/
structure Returned where
  value : CallValue
  body : Option IncomingBody

namespace Call

def ofResponse (r : Response) : Returned := ⟨.response r.status r.headers, r.body⟩

def exchange (c : Client) (now : Instant) : Call → Exchange Returned
  | .putObject options bucket key body =>
    (c.putObject options bucket key body now).map fun r => ⟨.receipt r, none⟩
  | .getObject bucket key =>
    (c.getObject bucket key now).map fun o => ⟨.info o.info, some o.body⟩
  | .headObject bucket key => (c.headObject bucket key now).map fun i => ⟨.info i, none⟩
  | .deleteObject bucket key => (c.deleteObject bucket key now).map fun _ => ⟨.nothing, none⟩
  | .createBucket bucket acl => (c.createBucket bucket acl now).map fun _ => ⟨.nothing, none⟩
  | .deleteBucket bucket => (c.deleteBucket bucket now).map fun _ => ⟨.nothing, none⟩
  | .listObjects bucket query => (c.listObjects bucket query now).map fun l => ⟨.listing l, none⟩
  | .ask op => (c.ask op now).map ofResponse
  | .command op => (c.command op now).map ofResponse
  | .fetch op => (c.fetch op now).map fun o => ⟨.info o.1, o.2⟩

end Call

/-- What a session shows of a call: its result, unless it was never answered,
and the replies to the steps on its body, unless it has none. Each reply comes
with how often connections had been given back by then. -/
structure CallReport where
  result : Option (Except Failure CallValue)
  replies : Option (List (IncomingBody.Reply × Nat))

/-- A session: the state of its transport, and the counts. -/
structure Session (σ : Type) where
  transport : σ
  acquired : Nat
  released : Nat

namespace Session

variable {σ : Type}

def start (transport : σ) : Session σ := ⟨transport, 0, 0⟩

def count (s : Session σ) (c : Connection) : Session σ :=
  { s with acquired := s.acquired + 1, released := s.released + c.runs }

def read (s : Session σ) (body : IncomingBody) (steps : List IncomingBody.Step) :
    List (IncomingBody.Reply × Nat) × Session σ :=
  let (replies, last) := (IncomingBody.Held.body body).performAll steps
  (replies.map fun r => (r.1, s.released + r.2), s.count last.connection)

/-- What a settled call adds to a session. -/
def settle (s : Session σ) (steps : List IncomingBody.Step) (settled : Settled Returned) :
    CallReport × Session σ :=
  let s := settled.connection.elim s s.count
  match settled.result with
  | .error e => (⟨some (.error e), none⟩, s)
  | .ok ⟨value, none⟩ => (⟨some (.ok value), none⟩, s)
  | .ok ⟨value, some body⟩ =>
    let (replies, s) := s.read body steps
    (⟨some (.ok value), some replies⟩, s)

def perform (c : Client) (t : Transport σ) (s : Session σ) (call : Call)
    (steps : List IncomingBody.Step) (now : Instant) : CallReport × Session σ :=
  let (transport, settled) := (call.exchange c now).run t s.transport
  let s := { s with transport := transport }
  match settled with
  | none => (⟨none, none⟩, s)
  | some settled => s.settle steps settled

end Session
end ObjectStore
