import ObjectStore.Http.Chunk
import ObjectStore.Http.Header
import ObjectStore.Service.Refusal
import ObjectStore.Transport.Basic
import ObjectStore.Url.Error

/-!
# Failures

Why a call fails. A request may be refused before it is sent, get lost on the
way, be refused by the service, or come back with an answer that does not keep
to the protocol.
-/

namespace ObjectStore

inductive RequestFault where
  | endpoint (text : String) (reason : UrlError)
  | bucketLength (length : Nat)
  | bucketCharacters (name : String)
  | bucketEnds (name : String)
  | emptyKey
  | longKey
  | keyStartsWithSlash
  | keyHasLineBreak
  | keyHasDotSegment (key : String)
  | pathChanged (resource sent : String)
  deriving DecidableEq, Repr

def RequestFault.message : RequestFault → String
  | .endpoint text reason =>
    "invalid endpoint `" ++ text ++ "`" ++ (reason.message?.elim "" (": " ++ ·))
  | .bucketLength length =>
    "bucket name must be 3-63 characters long, got " ++ toString length
  | .bucketCharacters name =>
    "bucket name `" ++ name ++ "` may only contain lowercase letters, digits, '-' and '.'"
  | .bucketEnds name =>
    "bucket name `" ++ name ++ "` must start and end with a letter or digit"
  | .emptyKey => "object key cannot be empty"
  | .longKey => "object key is too long, max is 1024 bytes"
  | .keyStartsWithSlash => "object key cannot start with '/'"
  | .keyHasLineBreak => "object key cannot contain control characters"
  | .keyHasDotSegment key =>
    "object key `" ++ key ++ "` cannot contain `.` or `..` path segments"
  | .pathChanged resource sent =>
    "resource `" ++ resource ++ "` would be sent as `" ++ sent ++ "`"

inductive AnswerFault where
  | noErrorDocument (status : Nat)
  | missingBody
  | missingContentLength
  | invalidContentLength
  | missingETag
  deriving DecidableEq, Repr

def AnswerFault.message : AnswerFault → String
  | .noErrorDocument status =>
    "status " ++ toString status ++ " returned without an error document"
  | .missingBody => "missing response body"
  | .missingContentLength => "missing Content-Length header"
  | .invalidContentLength => "invalid Content-Length header"
  | .missingETag => "missing ETag header"

inductive Failure where
  | transport (resource : String) (cause : DeliveryError)
  | protocol (resource : String) (fault : AnswerFault)
  | service (e : Refusal)
  | request (fault : RequestFault)
  | io (e : IoError)
  | document
  | header (e : HeaderError)
  deriving DecidableEq, Repr

namespace Failure

def message : Failure → String
  | .transport resource cause =>
    "transport error on `" ++ resource ++ "`: " ++ cause.display
  | .protocol resource fault =>
    "protocol violation on `" ++ resource ++ "`: " ++ fault.message
  | .service e => e.display
  | .request fault => "invalid request: " ++ fault.message
  | .io e => "io error: " ++ e.text
  | .document => "xml deserialize error: not a listing"
  | .header e => "error: " ++ e.message

def service? : Failure → Option Refusal
  | .service e => some e
  | _ => none

end Failure
end ObjectStore
