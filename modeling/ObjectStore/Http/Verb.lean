/-!
# Verbs

What a request asks to be done with a resource.
-/

namespace ObjectStore

inductive Verb where
  | get
  | put
  | post
  | delete
  | head
  deriving DecidableEq, Repr

def Verb.text : Verb → String
  | .get => "GET"
  | .put => "PUT"
  | .post => "POST"
  | .delete => "DELETE"
  | .head => "HEAD"

theorem Verb.text_injective {v w : Verb} (h : v.text = w.text) : v = w := by
  revert h; cases v <;> cases w <;> decide

end ObjectStore
