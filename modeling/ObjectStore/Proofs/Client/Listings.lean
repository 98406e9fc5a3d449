import ObjectStore.Bucket.Calls
import ObjectStore.Proofs.Client.Results
import ObjectStore.Proofs.Http.Readings

/-!
# Listings in any number of chunks

A listing is read from the whole body of an answer. So it depends on the bytes of
the document and not on how they were cut into chunks on the way, and a
document that breaks off with a failure gives the failure.
-/

namespace ObjectStore

def ListingPage.ofDocument (document : Bytes) : Except Failure ListingPage :=
  (ListingPage.parse? document).elim (.error .document) .ok

namespace Client

theorem request?_listObjects {c : Client} {bucket : String} {q : ListQuery} {now : Instant}
    {request : Request} :
    (c.listObjects bucket q now).request? = some request ↔
      checkBucket bucket = .ok () ∧ c.prepare (q.operation bucket) now = .ok request := by
  unfold listObjects
  rw [Exchange.request?_checking, Exchange.request?_andThen, ask, request?_send]

end Client

end ObjectStore
