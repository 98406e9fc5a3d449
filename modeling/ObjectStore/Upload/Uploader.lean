import ObjectStore.Upload.Run

/-!
# Uploaders

An uploader uploads streams to a bucket, one after the other, each as blocks
under the name of the stream. It checks the name once, with the greatest
number that a block can have, and remembers how its last upload ended. An
upload that is given up counts as cancelled.
-/

namespace ObjectStore

/-- An uploader. Blocks have at least one byte, and there is room for at
least one of them in the channel. -/
structure Uploader where
  client : Client
  bucket : String
  blockSize : Nat
  capacity : Nat
  acl : CannedAcl
  status : UploadStatus

inductive UploadEnd where
  | returned (result : Except UploadFailure UploadTotal)
  | abandoned

/-- What an upload leaves behind: how it ended, the uploader, the
transport, the connections that were used, and how many bytes were taken from
the source. -/
structure UploadReport (σ : Type) where
  ending : UploadEnd
  uploader : Uploader
  transport : σ
  connections : List Connection
  consumed : Nat

namespace Uploader

def usualBlockSize : Nat := 1048576

def usualCapacity : Nat := 4

def ofSettings (client : Client) (bucket : String) (blockSize capacity : Nat)
    (acl : CannedAcl) : Except UploadFailure Uploader :=
  if blockSize = 0 then .error (.refused .zeroBlockSize)
  else if capacity = 0 then .error (.refused .zeroCapacity)
  else
    match checkBucket bucket with
    | .error fault => .error (.refused (.request fault))
    | .ok () => .ok ⟨client, bucket, blockSize, capacity, acl, .idle⟩

def lastSequence : Nat := Decimal.limit64 - 1

def checkName (name : String) : Except UploadFailure Unit :=
  match checkKey (blockKey name lastSequence) with
  | .error fault => .error (.refused (.request fault))
  | .ok () => .ok ()

variable {σ : Type}

def task (u : Uploader) (name : String) (clock : Nat → Instant)
    (transport : Transport σ) : UploadTask σ :=
  ⟨u.client, u.bucket, name, u.acl, clock, transport⟩

def started (u : Uploader) (source : Source) (transport : σ) :
    Uploader × UploadRun σ :=
  ({ u with status := .running }, .start u.blockSize u.capacity source transport)

/-- The report on an upload that went this far. One that has not returned is
given up. -/
def report (u : Uploader) (r : UploadRun σ) : UploadReport σ :=
  match r.result? with
  | some result =>
    ⟨.returned result, { u with status := u.status.after result }, r.transport, r.connections,
      r.cutter.consumed⟩
  | none =>
    let r := r.abandon
    ⟨.abandoned, { u with status := .failed .cancelled }, r.transport, r.connections,
      r.cutter.consumed⟩

/-- Uploads a stream until it is over or can make no more progress. -/
def upload (u : Uploader) (name : String) (source : Source) (clock : Nat → Instant)
    (t : Transport σ) (transport : σ) : UploadReport σ :=
  match checkName name with
  | .error e => ⟨.returned (.error e), u, transport, [], 0⟩
  | .ok () =>
    let (running, r) := u.started source transport
    running.report (r.settle (u.task name clock t))

end Uploader
end ObjectStore
