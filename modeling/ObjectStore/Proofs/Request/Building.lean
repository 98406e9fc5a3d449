import ObjectStore.Proofs.Http.HeaderTexts
import ObjectStore.Proofs.Object.Bodies

/-!
# Operations as they are built

Nobody writes an operation down field by field. It starts as a verb and takes a
bucket, a key, parameters, headers and a body, in any order and any number of
times. The names of its headers are in lower case because of that.
-/

namespace ObjectStore

namespace Operation

/-- The operations that can be built. -/
inductive Built : Operation → Prop where
  | ofVerb (verb : Verb) : Built (ofVerb verb)
  | withBucket {op : Operation} (bucket : String) : Built op → Built (op.withBucket bucket)
  | withKey {op : Operation} (key : String) : Built op → Built (op.withKey key)
  | withQuery {op : Operation} (name value : String) : Built op → Built (op.withQuery name value)
  | withSubResource {op : Operation} (name : String) : Built op → Built (op.withSubResource name)
  | withHeader {op : Operation} (name value : String) :
      Built op → Built (op.withHeader name value)
  | withBody {op : Operation} (body : OutgoingBody) : Built op → Built (op.withBody body)

theorem Built.lowerCase {op : Operation} (h : op.Built) : LowerCase op.headers := by
  induction h with
  | ofVerb => exact LowerCase.empty
  | withBucket _ _ ih => exact ih
  | withKey _ _ ih => exact ih
  | withQuery _ _ _ ih => exact ih
  | withSubResource _ _ ih => exact ih
  | withHeader name value _ ih => exact ih.insert (Header.lowerCase_lowerCase name) value
  | withBody _ _ ih => exact ih

theorem Built.withHeaders {op : Operation} (h : op.Built) (headers : List (String × String)) :
    (headers.foldl (fun op h => op.withHeader h.1 h.2) op).Built := by
  induction headers generalizing op with
  | nil => exact h
  | cons header rest ih => exact ih (.withHeader header.1 header.2 h)

theorem withHeaders_eq (op : Operation) (headers : List (String × String)) :
    headers.foldl (fun op h => op.withHeader h.1 h.2) op =
      { op with
        headers := headers.foldl (fun m h => m.insert (Header.lowerCase h.1) h.2) op.headers } := by
  induction headers generalizing op with
  | nil => rfl
  | cons header rest ih => exact ih (op.withHeader header.1 header.2)

end Operation

theorem PutOptions.operation_eq (o : PutOptions) (bucket key : String) :
    o.operation bucket key =
      { verb := .put
        bucket := some bucket
        key := some key
        query := ∅
        headers := o.allHeaders.foldl (fun m h => m.insert (Header.lowerCase h.1) h.2) ∅
        body := .empty } :=
  Operation.withHeaders_eq _ o.allHeaders

/-- The operation that stores an object is built, before and after it gets its
body. -/
theorem PutOptions.built_operation (o : PutOptions) (bucket key : String) :
    (o.operation bucket key).Built :=
  Operation.Built.withHeaders (.withKey key (.withBucket bucket (.ofVerb .put))) o.allHeaders

theorem PutBody.built_attach {op op' : Operation} {body : PutBody} (h : op.Built)
    (hattach : body.attach op = .ok op') : op'.Built := by
  obtain ⟨md5, sent, -, rfl⟩ := attach_eq_ok.mp hattach
  exact .withBody _ (.withHeader _ _ h)

end ObjectStore
