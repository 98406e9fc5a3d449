import ObjectStore.Http.Chunk
import ObjectStore.Http.Connection

/-!
# Response bodies

A response body can be read once, and it holds the connection it arrives on.
The connection is released when the body ends, when a read fails, when the
body is closed and when it goes out of use, whichever comes first. A body can
be read chunk by chunk, whole, into a writer, or through a buffer; all of these
give the same bytes.
-/

namespace ObjectStore

/-- A body being read: the chunks to come, unless it is over, and its
connection. -/
structure IncomingBody where
  chunks : Option (List Chunk)
  connection : Connection

namespace IncomingBody

def close (b : IncomingBody) : IncomingBody := ⟨none, b.connection.release⟩

def isReleased (b : IncomingBody) : Bool := b.connection.isReleased

/-- The next chunk. The end and a failure close the body. -/
def next (b : IncomingBody) : Option Chunk × IncomingBody :=
  match b.chunks with
  | none => (none, b.close)
  | some [] => (none, b.close)
  | some (.error e :: _) => (some (.error e), b.close)
  | some (.ok bs :: rest) => (some (.ok bs), ⟨some rest, b.connection⟩)

def remaining (b : IncomingBody) : List Chunk := b.chunks.getD []

def collect (b : IncomingBody) : Except IoError Bytes × IncomingBody :=
  (Chunks.collect b.remaining, b.close)

def writerFull : IoError := ⟨"writer is full"⟩

/-- Writes chunks to a writer that has room for `room` more bytes; each is
written before the next one is read. Gives what was written and the failure,
if there was one. -/
def copyChunks : Nat → List Chunk → Bytes × Option IoError
  | _, [] => ([], none)
  | _, .error e :: _ => ([], some e)
  | room, .ok bs :: rest =>
    if bs.length ≤ room then
      let (written, failure) := copyChunks (room - bs.length) rest
      (bs ++ written, failure)
    else (bs.take room, some writerFull)

/-- Writes the body to a writer with so much room, after which it is out
of use. -/
def copyTo (b : IncomingBody) (room : Nat) : (Bytes × Option IoError) × IncomingBody :=
  (copyChunks room b.remaining, b.close)

def nextFilled (b : IncomingBody) : Option Chunk × IncomingBody :=
  next { b with chunks := b.chunks.map Chunks.dropEmpty }

def shown (b : IncomingBody) : String :=
  Quoted.record "ResponseBody"
    [("exhausted", Quoted.flag b.chunks.isNone), ("connection", b.connection.shown)]

end IncomingBody

/-! ## Reading through a buffer -/

/-- A reader of a body: the body, and what is left of the chunk at hand. -/
structure BodyReader where
  body : IncomingBody
  left : Bytes

namespace BodyReader

def ofBody (b : IncomingBody) : BodyReader := ⟨b, []⟩

/-- Reads at most `size` bytes. No read goes beyond a chunk, and empty chunks
are passed over. No bytes are the end, unless there was no room for any. -/
def read (size : Nat) (r : BodyReader) : Except IoError Bytes × BodyReader :=
  if size = 0 then (.ok [], r)
  else if r.left ≠ [] then (.ok (r.left.take size), ⟨r.body, r.left.drop size⟩)
  else
    match r.body.nextFilled with
    | (none, body) => (.ok [], ⟨body, []⟩)
    | (some (.error e), body) => (.error e, ⟨body, []⟩)
    | (some (.ok bs), body) => (.ok (bs.take size), ⟨body, bs.drop size⟩)

def weight (r : BodyReader) : Nat := r.left.length + Chunks.weight r.body.remaining

theorem nextFilled_eq_ok {b body : IncomingBody} {bs : Bytes}
    (h : b.nextFilled = (some (.ok bs), body)) :
    Chunks.dropEmpty b.remaining = .ok bs :: body.remaining := by
  obtain ⟨_ | chunks, connection⟩ := b
  · cases h
  · simp only [IncomingBody.nextFilled, IncomingBody.next, Option.map_some] at h
    split at h
    · cases h
    · cases h
    · cases h
    · next heq =>
        simp only [Prod.mk.injEq, Option.some.injEq, Except.ok.injEq] at h
        obtain ⟨rfl, rfl⟩ := h
        exact Option.some.inj heq

theorem weight_read_lt {size : Nat} {r next : BodyReader} {bs : Bytes}
    (h : r.read size = (.ok bs, next)) (hne : bs ≠ []) : next.weight < r.weight := by
  unfold read at h
  split at h
  · obtain ⟨hbs, -⟩ := Prod.mk.inj h
    exact absurd (Except.ok.inj hbs).symm hne
  split at h
  · next hsize hleft =>
      obtain ⟨-, rfl⟩ := Prod.mk.inj h
      have hpos : 0 < r.left.length := List.length_pos_iff.mpr hleft
      simp only [weight, List.length_drop]
      omega
  · split at h
    · obtain ⟨hbs, -⟩ := Prod.mk.inj h
      exact absurd (Except.ok.inj hbs).symm hne
    · cases h
    · next chunk body hnext =>
        obtain ⟨-, rfl⟩ := Prod.mk.inj h
        have hle := Chunks.weight_dropEmpty_le r.body.remaining
        rw [nextFilled_eq_ok hnext, Chunks.weight] at hle
        simp only [weight, List.length_drop]
        omega

/-- Reads to the end: the pieces that the reads give, and the failure that
ended them, if one did. -/
def readAll (size : Nat) (r : BodyReader) : (List Bytes × Option IoError) × BodyReader :=
  match h : r.read size with
  | (.error e, next) => (([], some e), next)
  | (.ok bs, next) =>
    if hne : bs = [] then (([], none), next)
    else
      have := weight_read_lt h hne
      let (read, last) := readAll size next
      ((bs :: read.1, read.2), last)
termination_by r.weight

end BodyReader

namespace IncomingBody

/-- Reads the body through a buffer of so many bytes to its end, after which
it is out of use. -/
def readPieces (b : IncomingBody) (size : Nat) :
    (List Bytes × Option IoError) × IncomingBody :=
  let (read, last) := (BodyReader.ofBody b).readAll size
  (read, last.body.close)

/-! ## Steps -/

/-- One thing done with a body, or with a reader that took it over. -/
inductive Step where
  | next
  | close
  | ask
  | view
  | leave
  | collect
  | copyTo (room : Nat)
  | readPieces (size : Nat)
  | toReader
  | read (size : Nat)
  deriving DecidableEq, Repr

inductive Reply where
  | chunk (bs : Bytes)
  | ended
  | failed (e : IoError)
  | done
  | flag (b : Bool)
  | text (s : String)
  | collected (result : Except IoError Bytes)
  | copied (written : Bytes) (failure : Option IoError)
  | read (parts : List Bytes) (failure : Option IoError)
  | gone

/-- A body in use, a reader of it in use, or what is left when both are out of
use. -/
inductive Held where
  | body (b : IncomingBody)
  | reader (r : BodyReader)
  | gone (connection : Connection)

namespace Held

def connection : Held → Connection
  | .body b => b.connection
  | .reader r => r.body.connection
  | .gone connection => connection

def leave (h : Held) : Held := .gone h.connection.release

/-- Does one step with a body. Reading all of it takes it out of use. -/
def performBody (b : IncomingBody) (step : Step) : Reply × Held :=
  match step with
  | .next =>
    let (chunk, b) := b.next
    let reply : Reply :=
      match chunk with
      | none => .ended
      | some (.ok bs) => .chunk bs
      | some (.error e) => .failed e
    (reply, .body b)
  | .close => (.done, .body b.close)
  | .ask => (.flag b.isReleased, .body b)
  | .view => (.text b.shown, .body b)
  | .leave => (.done, (Held.body b).leave)
  | .collect =>
    let (result, b) := b.collect
    (.collected result, .gone b.connection)
  | .copyTo room =>
    let (copied, b) := b.copyTo room
    (.copied copied.1 copied.2, .gone b.connection)
  | .readPieces size =>
    let (read, b) := b.readPieces size
    (.read read.1 read.2, .gone b.connection)
  | .toReader => (.done, .reader (.ofBody b))
  | .read _ => (.gone, .body b)

def performReader (r : BodyReader) (step : Step) : Reply × Held :=
  match step with
  | .read size =>
    let (result, next) := r.read size
    let reply : Reply :=
      match result with
      | .ok bs => if bs = [] ∧ size ≠ 0 then .ended else .chunk bs
      | .error e => .failed e
    (reply, .reader next)
  | .leave => (.done, (Held.reader r).leave)
  | _ => (.gone, .reader r)

/-- Does one step. Nothing can be done with what is out of use. -/
def perform (h : Held) (step : Step) : Reply × Held :=
  match h with
  | .body b => performBody b step
  | .reader r => performReader r step
  | .gone connection => (.gone, .gone connection)

/-- Does steps one after the other. Each reply comes with how often the
connection had been given back by then. At the end the body goes out of use. -/
def performAll : Held → List Step → List (Reply × Nat) × Held
  | h, [] => ([], h.leave)
  | h, step :: steps =>
    let (reply, h) := h.perform step
    let (replies, last) := h.performAll steps
    ((reply, h.connection.runs) :: replies, last)

end Held
end IncomingBody
end ObjectStore
