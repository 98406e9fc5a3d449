import ObjectStore.Proofs.Http.Releases

/-!
# All ways of reading a body agree

A body can be read chunk by chunk, whole, into a writer, or through a buffer.
However it is read, what comes out is the content before its first failure, in
order and without a byte lost or repeated, and then the failure. Where the
content is cut into chunks shows only to a reader that asks for chunks, and no
reader gets anything from behind a failure.
-/

namespace ObjectStore

namespace Chunks

/-- The chunks before the first failure. -/
def intact : List Chunk → List Bytes
  | .ok bs :: rest => bs :: intact rest
  | _ => []

/-- What is given to somebody who asks for one chunk after the other: the chunks
before the first failure, and the failure. -/
def oneByOne (chunks : List Chunk) : List Chunk :=
  (intact chunks).map .ok ++ (failure? chunks).toList.map .error

end Chunks

namespace IncomingBody

/-! ## Chunk by chunk -/

end IncomingBody

/-! ## Through a buffer -/

namespace BodyReader

/-- What a reader is still to give. -/
def pending (r : BodyReader) : Bytes := r.left ++ Chunks.delivered r.body.remaining

end BodyReader
namespace IncomingBody

/-! ## In any way -/

def Reply.bytes : Reply → Bytes
  | .chunk bs => bs
  | .collected (.ok content) => content
  | .copied written _ => written
  | .read pieces _ => pieces.flatten
  | _ => []

def Held.pending : Held → Bytes
  | .body b => Chunks.delivered b.remaining
  | .reader r => r.pending
  | .gone _ => []

end IncomingBody
end ObjectStore
