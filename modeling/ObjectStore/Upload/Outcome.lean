import ObjectStore.Failure

/-!
# Outcomes of uploads

What an upload reports when it is over, and what an uploader remembers of
it.
-/

namespace ObjectStore

inductive UploadFault where
  | zeroBlockSize
  | zeroCapacity
  | request (fault : RequestFault)
  deriving DecidableEq, Repr

def UploadFault.message : UploadFault → String
  | .zeroBlockSize => "block_size must be greater than 0"
  | .zeroCapacity => "queue_capacity must be greater than 0"
  | .request fault => (Failure.request fault).message

/-- Why an upload fails: its source, a block, a stop from outside, or
settings that it cannot start with. -/
inductive UploadFailure where
  | source (e : IoError)
  | block (sequence : Nat) (key : String) (cause : Failure)
  | cancelled
  | refused (fault : UploadFault)
  deriving DecidableEq, Repr

namespace UploadFailure

def message : UploadFailure → String
  | .source e => "failed to read the source stream: " ++ e.text
  | .block sequence key cause =>
    "failed to upload block " ++ toString sequence ++ " as `" ++ key ++ "`: " ++ cause.message
  | .cancelled => "upload was cancelled"
  | .refused fault => "invalid upload configuration: " ++ fault.message

def service? : UploadFailure → Option Refusal
  | .block _ _ cause => cause.service?
  | _ => none

end UploadFailure

structure UploadTotal where
  blocks : Nat
  bytes : Nat
  deriving DecidableEq, Repr

inductive UploadStop where
  | source
  | block (sequence : Nat)
  | cancelled
  deriving DecidableEq, Repr

/-- What an uploader is doing, or how its last upload ended. -/
inductive UploadStatus where
  | idle
  | running
  | succeeded
  | failed (reason : UploadStop)
  deriving DecidableEq, Repr

/-- The status after an upload with this result. An upload that was refused
leaves the status as it was. -/
def UploadStatus.after (before : UploadStatus) : Except UploadFailure UploadTotal → UploadStatus
  | .ok _ => .succeeded
  | .error (.source _) => .failed .source
  | .error (.block sequence _ _) => .failed (.block sequence)
  | .error .cancelled => .failed .cancelled
  | .error (.refused _) => before

end ObjectStore
