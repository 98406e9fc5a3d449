import Mathlib.Algebra.GroupWithZero.Nat
import ObjectStore.Client.Session
import ObjectStore.Proofs.Upload.Joint
import ObjectStore.Upload.Uploader

/-!
# What is done with a client

A client makes calls, one after the other. The bodies that they return are read
in steps, whenever it suits, and uploaders are made from the client, each of
which uploads stream after stream. An upload takes its steps in any order while
its source gives more, and is given up if it has not returned by then. The
service keeps every request it receives and answers as it likes.
-/

namespace ObjectStore

/-! ## The service -/

/-- A service that keeps what it received. -/
structure Recorded (σ : Type) where
  service : σ
  received : List Request

/-- The transport to a service that keeps the requests and answers each of
them by its state. -/
def Transport.recorded {σ : Type} (answer : σ → Request → σ × Delivery) :
    Transport (Recorded σ) where
  send s request :=
    let (service, delivery) := answer s.service request
    (⟨service, s.received ++ [request]⟩, delivery)

/-! ## Uploads in any order -/

/-- What moves an upload: a step of one of the parties, if it can take one,
or more of the source. -/
inductive UploadRun.Move where
  | cutter
  | uploader
  | fed (event : SourceEvent)
  deriving DecidableEq, Repr

namespace UploadRun

variable {σ : Type}

/-- The upload after one move. -/
def move (task : UploadTask σ) (r : UploadRun σ) : Move → UploadRun σ
  | .cutter => r.cutterStep.getD r
  | .uploader => (r.uploaderStep task).getD r
  | .fed event => r.feed event

def moveAll (task : UploadTask σ) (r : UploadRun σ) (moves : List Move) : UploadRun σ :=
  moves.foldl (move task) r

/-- The schedule that prefers the uploader makes some moves. -/
theorem exists_moveAll_settle (task : UploadTask σ) (r : UploadRun σ) :
    ∃ moves, r.moveAll task moves = r.settle task := by
  fun_induction settle task r with
  | case1 r h => exact ⟨[], rfl⟩
  | case2 r s h _ ih =>
      obtain ⟨moves, hmoves⟩ := ih
      cases step_of_schedule h with
      | cutter hstep =>
          refine ⟨.cutter :: moves, ?_⟩
          rw [← hmoves, moveAll, List.foldl_cons, move, hstep]
          rfl
      | uploader hstep =>
          refine ⟨.uploader :: moves, ?_⟩
          rw [← hmoves, moveAll, List.foldl_cons, move, hstep]
          rfl

end UploadRun

/-- Uploads a stream by some moves, after which the upload is over or given
up. -/
def Uploader.uploadBy {σ : Type} (u : Uploader) (name : String) (source : Source)
    (clock : Nat → Instant) (t : Transport σ) (transport : σ) (moves : List UploadRun.Move) :
    UploadReport σ :=
  match checkName name with
  | .error e => ⟨.returned (.error e), u, transport, [], 0⟩
  | .ok () =>
    let (running, r) := u.started source transport
    running.report (r.moveAll (u.task name clock t) moves)

/-- An upload that runs until it can make no more progress makes some moves. -/
theorem Uploader.exists_uploadBy {σ : Type} (u : Uploader) (name : String) (source : Source)
    (clock : Nat → Instant) (t : Transport σ) (transport : σ) :
    ∃ moves, u.uploadBy name source clock t transport moves =
      u.upload name source clock t transport := by
  obtain ⟨moves, hmoves⟩ :=
    (u.started source transport).2.exists_moveAll_settle (u.task name clock t)
  refine ⟨moves, ?_⟩
  unfold uploadBy upload
  cases checkName name with
  | error e => rfl
  | ok _ => exact congrArg (report (u.started source transport).1) hmoves

/-! ## Usages -/

/-- Something that is done with a client: a call, a step on a body that a
call returned, a new uploader, or a stream that an uploader uploads. -/
inductive Usage.Act where
  | call (call : Call) (now : Instant)
  | read (index : Nat) (step : IncomingBody.Step)
  | makeUploader (bucket : String) (blockSize capacity : Nat) (acl : CannedAcl)
  | upload (index : Nat) (name : String) (source : Source) (clock : Nat → Instant)
      (moves : List UploadRun.Move)

/-- What shows of it: the result of a call, if it was answered, the reply of
a body, the failure to make an uploader, or how an upload ended, with what the
uploader remembers of it and how much of the source it read. -/
inductive Usage.Shown where
  | returned (result : Option (Except Failure CallValue))
  | replied (reply : IncomingBody.Reply)
  | made (failure : Option UploadFailure)
  | uploaded (ending : UploadEnd) (status : UploadStatus) (consumed : Nat)

/-- A usage of a client: the service, the bodies and the connections so far,
the uploaders, and all that showed, each with how often connections had been
given back by then. -/
structure Usage (σ : Type) where
  transport : Recorded σ
  bodies : List IncomingBody.Held
  connections : List Connection
  uploaders : List Uploader
  shown : List (Usage.Shown × Nat)

namespace Usage

variable {σ : Type}

def start (service : σ) : Usage σ := ⟨⟨service, []⟩, [], [], [], []⟩

def releases (w : Usage σ) : Nat :=
  ((w.connections ++ w.bodies.map fun b => b.connection).map fun conn => conn.runs).sum

def showing (w : Usage σ) (shown : Shown) : Usage σ :=
  { w with shown := w.shown ++ [(shown, w.releases)] }

/-- What an answered call leaves behind. -/
def settled (w : Usage σ) (s : Settled Returned) : Usage σ :=
  let body : Option IncomingBody := s.result.toOption.bind fun r => r.body
  { w with
    bodies := w.bodies ++ body.toList.map .body
    connections := w.connections ++ s.connection.toList }

def called (w : Usage σ) (transport : Recorded σ) (settled : Option (Settled Returned)) :
    Usage σ :=
  let w := { w with transport := transport }
  (settled.elim w w.settled).showing (.returned (settled.map fun s => s.result.map Returned.value))

/-- A step on the body with a number, if there is one. -/
def read (w : Usage σ) (index : Nat) (step : IncomingBody.Step) : Usage σ :=
  match w.bodies[index]? with
  | none => w
  | some body =>
    let (reply, body) := body.perform step
    { w with bodies := w.bodies.set index body }.showing (.replied reply)

def made (w : Usage σ) : Except UploadFailure Uploader → Usage σ
  | .ok u => { w with uploaders := w.uploaders ++ [u] }.showing (.made none)
  | .error e => w.showing (.made (some e))

def reported (w : Usage σ) (index : Nat) (report : UploadReport (Recorded σ)) : Usage σ :=
  { w with
    transport := report.transport
    connections := w.connections ++ report.connections
    uploaders := w.uploaders.set index report.uploader }.showing
    (.uploaded report.ending report.uploader.status report.consumed)

/-- Does one thing more with a client. -/
def act (c : Client) (t : Transport (Recorded σ)) (w : Usage σ) : Act → Usage σ
  | .call call now =>
    let (transport, settled) := (call.exchange c now).run t w.transport
    w.called transport settled
  | .read index step => w.read index step
  | .makeUploader bucket blockSize capacity acl =>
    w.made (Uploader.ofSettings c bucket blockSize capacity acl)
  | .upload index name source clock moves =>
    match w.uploaders[index]? with
    | none => w
    | some u => w.reported index (u.uploadBy name source clock t w.transport moves)

def run (c : Client) (t : Transport (Recorded σ)) (w : Usage σ) (acts : List Act) : Usage σ :=
  acts.foldl (act c t) w

end Usage

end ObjectStore
