import ObjectStore.Bucket.Listing
import ObjectStore.Client.Basic
import ObjectStore.Naming
import ObjectStore.Settings.Acl

/-!
# Buckets

Listing the objects of a bucket, making a bucket and deleting one.
-/

namespace ObjectStore

structure ListQuery where
  keyPrefix : Option String
  marker : Option String
  delimiter : Option String
  maxKeys : Option Nat
  deriving DecidableEq, Repr

/-- The parameters of a page; what is not set is not sent. -/
def ListQuery.parameters (q : ListQuery) : List (String × String) :=
  [("prefix", q.keyPrefix), ("marker", q.marker), ("max-keys", q.maxKeys.map toString),
    ("delimiter", q.delimiter)].filterMap fun p => p.2.map (p.1, ·)

def ListQuery.operation (q : ListQuery) (bucket : String) : Operation :=
  q.parameters.foldl (fun op p => op.withQuery p.1 p.2) ((Operation.ofVerb .get).withBucket bucket)

namespace Client

def readListing (resource : String) (r : Response) : Settled ListingPage :=
  match r.body with
  | none => ⟨.error (.protocol resource .missingBody), none⟩
  | some body =>
    let (read, body) := body.collect
    let result : Except Failure ListingPage :=
      match read with
      | .error e => .error (.io e)
      | .ok document =>
        match ListingPage.parse? document with
        | some listing => .ok listing
        | none => .error .document
    ⟨result, some body.connection⟩

def listObjects (c : Client) (bucket : String) (q : ListQuery) (now : Instant) :
    Exchange ListingPage :=
  let op := q.operation bucket
  .checking (checkBucket bucket) <| (c.ask op now).andThen (readListing op.path)

def createBucket (c : Client) (bucket : String) (acl : CannedAcl) (now : Instant) :
    Exchange Unit :=
  let op := ((Operation.ofVerb .put).withBucket bucket).withHeader CannedAcl.header acl.text
  .checking (checkBucket bucket) <| (c.command op now).map fun _ => ()

def deleteBucket (c : Client) (bucket : String) (now : Instant) : Exchange Unit :=
  let op := (Operation.ofVerb .delete).withBucket bucket
  .checking (checkBucket bucket) <| (c.command op now).map fun _ => ()

end Client
end ObjectStore
