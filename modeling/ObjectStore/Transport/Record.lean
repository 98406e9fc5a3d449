import ObjectStore.Transport.Basic

/-!
# Recording transports

Transports that stand in for a service: they read the body of a request, keep
the request, and answer from what they were given. A request whose body cannot
be read is not kept. One kind of transport answers in the order of a script,
the other by the path of the request.
-/

namespace ObjectStore

structure Received where
  verb : Verb
  url : Url
  headers : HeaderMap
  body : Bytes

inductive Plan where
  | answer (status : Nat) (headers : HeaderMap) (body : Option (List Chunk))
  | fail (e : DeliveryError)
  | silence

/-- What becomes of a request that meets a plan. Every answer arrives on a
connection of its own. -/
def Plan.delivery : Plan → Delivery
  | .answer status headers body => .answered ⟨status, headers, body, .acquired⟩
  | .fail e => .failed e
  | .silence => .silent

/-- The request with its body read, or the failure of the body. -/
def Request.receive (r : Request) : Except DeliveryError Received :=
  match r.body.read with
  | .ok body => .ok ⟨r.verb, r.url, r.headers, body⟩
  | .error e => .error ⟨"body", some e.text⟩

structure Script where
  plans : List Plan
  received : List Received

def Script.transport : Transport Script where
  send script r :=
    match r.receive with
    | .error e => (script, .failed e)
    | .ok received =>
      match script.plans with
      | [] => (⟨[], received :: script.received⟩, .failed ⟨"no scripted response", none⟩)
      | plan :: plans => (⟨plans, received :: script.received⟩, plan.delivery)

structure Routes where
  byPath : List (String × Plan)
  others : Plan

/-- The plan for a path. -/
def Routes.plan (routes : Routes) (path : String) : Plan :=
  (routes.byPath.lookup path).getD routes.others

/-- The transport that follows routes. It keeps the requests received, the
last one first. -/
def Routes.transport (routes : Routes) : Transport (List Received) where
  send received r :=
    match r.receive with
    | .error e => (received, .failed e)
    | .ok request => (request :: received, (routes.plan r.url.path).delivery)

end ObjectStore
