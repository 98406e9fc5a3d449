import ObjectStore.Client.Basic
import ObjectStore.Naming
import ObjectStore.Object.Info

/-!
# Fetching and deleting objects

An object is fetched with what its headers say about it. If the answer lacks a header that has
to be there, its body is closed and the call fails.
-/

namespace ObjectStore

structure FetchedObject where
  info : ObjectInfo
  body : IncomingBody

namespace Client

def readInfo (resource : String) (r : Response) :
    Settled (ObjectInfo × Option IncomingBody) :=
  match ObjectInfo.ofHeaders r.headers with
  | .ok info => ⟨.ok (info, r.body), none⟩
  | .error fault => ⟨.error (.protocol resource fault), r.body.map (·.close.connection)⟩

/-- Carries out an operation on an object and reads what is known about it. -/
def fetch (c : Client) (op : Operation) (now : Instant) :
    Exchange (ObjectInfo × Option IncomingBody) :=
  (c.ask op now).andThen (readInfo op.path)

def objectOperation (verb : Verb) (bucket key : String) : Operation :=
  ((Operation.ofVerb verb).withBucket bucket).withKey key

/-- Goes on if bucket and key pass the checks. -/
def onObject {α : Type} (bucket key : String) (next : Exchange α) : Exchange α :=
  .checking (checkBucket bucket) (.checking (checkKey key) next)

def getObject (c : Client) (bucket key : String) (now : Instant) : Exchange FetchedObject :=
  let op := objectOperation .get bucket key
  onObject bucket key <| (c.fetch op now).andThen fun
    | (info, some body) => ⟨.ok ⟨info, body⟩, none⟩
    | (_, none) => ⟨.error (.protocol op.path .missingBody), none⟩

def headObject (c : Client) (bucket key : String) (now : Instant) : Exchange ObjectInfo :=
  onObject bucket key <| (c.fetch (objectOperation .head bucket key) now).andThen fun
    | (info, body) => ⟨.ok info, body.map (·.close.connection)⟩

def deleteObject (c : Client) (bucket key : String) (now : Instant) : Exchange Unit :=
  onObject bucket key <|
    (c.command (objectOperation .delete bucket key) now).map fun _ => ()

end Client
end ObjectStore
