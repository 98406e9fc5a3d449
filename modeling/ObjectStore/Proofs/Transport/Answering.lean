import ObjectStore.Exchange
import ObjectStore.Proofs.Request.Instants

/-!
# Services that answer by what they received

A service may answer a request by all that it received so far. A call to such a
service always comes to something. Where the answers ignore the dates and the
signatures of requests, calls that differ in nothing else come to the same.
-/

namespace ObjectStore

/-- How a service answers: by all requests so far, the last one included. -/
abbrev Answers := List Request → Except DeliveryError Answer

def Transport.answering (answers : Answers) : Transport (List Request) where
  send received request :=
    (received ++ [request],
      match answers (received ++ [request]) with
      | .ok answer => .answered answer
      | .error e => .failed e)

namespace Exchange

variable {α β : Type}

/-- What a call comes to at a service that received these requests before. -/
def outcome (answers : Answers) (received : List Request) : Exchange α → Settled α
  | .settled s => s
  | .sending request settle => settle (answers (received ++ [request]))

theorem run_answering (answers : Answers) (received : List Request) (x : Exchange α) :
    x.run (.answering answers) received =
      (received ++ x.request?.toList, some (x.outcome answers received)) := by
  cases x with
  | settled s => simp only [run, request?, Option.toList_none, List.append_nil, outcome]
  | sending request settle =>
      simp only [run, Transport.answering, request?, Option.toList_some, outcome]
      cases answers (received ++ [request]) <;> rfl

def undated : Exchange α → Exchange α
  | .settled s => .settled s
  | .sending request settle => .sending request.undated settle

end Exchange

end ObjectStore
