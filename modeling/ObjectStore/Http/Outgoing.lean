import ObjectStore.Http.Chunk

/-!
# Request bodies

What a request carries: nothing, bytes in memory, or a stream of a stated
length.
-/

namespace ObjectStore

/-- The body of a request. The length of a stream is what its sender
says it is. -/
inductive OutgoingBody where
  | empty
  | bytes (bs : Bytes)
  | stream (chunks : List Chunk) (length : Nat)

namespace OutgoingBody

def contentLength : OutgoingBody → Nat
  | .empty => 0
  | .bytes bs => bs.length
  | .stream _ length => length

/-- The bytes, if they are in memory. -/
def bytes? : OutgoingBody → Option Bytes
  | .empty => some []
  | .bytes bs => some bs
  | .stream _ _ => none

def read : OutgoingBody → Except IoError Bytes
  | .empty => .ok []
  | .bytes bs => .ok bs
  | .stream chunks _ => Chunks.collect chunks

def shown : OutgoingBody → String
  | .empty => "Empty"
  | .bytes bs => "Bytes(" ++ toString bs.length ++ " bytes)"
  | .stream _ length => "Stream(" ++ toString length ++ " bytes)"

end OutgoingBody
end ObjectStore
