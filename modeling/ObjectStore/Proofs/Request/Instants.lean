import ObjectStore.Proofs.Request.Preparing

/-!
# Requests at different instants

An operation that is sent twice, at two instants, is sent with two dates and
two signatures. Everything else in the two requests is the same, and so is the
failure where there is no request: a date is visible text, and whether a
signature can be a header is a matter of the name of the key alone.
-/

namespace ObjectStore

/-- The headers that say when a request was made: the date, and the signature,
which covers it. -/
def Header.isDated (name : String) : Bool := name == "date" || name == "authorization"

def HeaderMap.undated (m : HeaderMap) : HeaderMap :=
  ⟨m.entries.filter fun e => !Header.isDated e.1⟩

def Request.undated (r : Request) : Request := { r with headers := r.headers.undated }

/-- Two headers of one name that are equally good, and equal unless they say
when a request was made. -/
def Header.Alike (p q : String × String) : Prop :=
  p.1 = q.1 ∧ Header.fault? p = Header.fault? q ∧ (Header.isDated p.1 = false → p = q)

theorem Header.Alike.refl (p : String × String) : Header.Alike p p := ⟨rfl, rfl, fun _ => rfl⟩

theorem findSome?_fault?_of_alike {l l' : List (String × String)}
    (h : List.Forall₂ Header.Alike l l') :
    l.findSome? Header.fault? = l'.findSome? Header.fault? := by
  induction h with
  | nil => rfl
  | cons hpq _ ih => rw [List.findSome?_cons, List.findSome?_cons, hpq.2.1, ih]

end ObjectStore
