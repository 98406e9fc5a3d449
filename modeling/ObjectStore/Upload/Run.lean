import ObjectStore.Object.Put
import ObjectStore.Upload.Cutter
import ObjectStore.Upload.Outcome

/-!
# Uploads under way

An upload is a cutter and an uploader with a channel between them. The
cutter fills the channel from the source; the uploader takes the blocks
out of it and stores them one by one. When a block cannot be stored, the
uploader tells the cutter to stop, takes the channel away and waits for
the cutter to end, one after the other. The two take their steps in any order.
Here every step is a function, and a schedule that prefers the uploader runs an
upload until nothing can be done without an answer from outside.
-/

namespace ObjectStore

/-- What is to be uploaded where, and when the put of each block is made. -/
structure UploadTask (σ : Type) where
  client : Client
  bucket : String
  name : String
  acl : CannedAcl
  clock : Nat → Instant
  transport : Transport σ

def blockKey (name : String) (sequence : Nat) : String := name ++ "." ++ toString sequence

def UploadTask.put {σ : Type} (task : UploadTask σ) (block : Block) : Exchange PutReceipt :=
  task.client.putObject { PutOptions.usual with acl := task.acl } task.bucket
    (blockKey task.name block.sequence) (.bytes block.payload) (task.clock block.sequence)

/-- What the uploader of an upload is doing. A put that is under way has
been answered or not. After a put that failed the uploader stops the cutter,
takes the channel away and waits. -/
inductive UploadPhase where
  | receiving
  | sending (block : Block)
  | storing (block : Block) (answer : Option (Settled PutReceipt))
  | cancelling (sequence : Nat) (cause : Failure)
  | dropping (sequence : Nat) (cause : Failure)
  | stopping (sequence : Nat) (cause : Failure)
  | joining
  | returned (result : Except UploadFailure UploadTotal)
  | abandoned

/-- An upload under way: both parties, what is between them, and what has
come of it so far. -/
structure UploadRun (σ : Type) where
  cutter : Cutter
  channel : Channel
  cancelled : Bool
  phase : UploadPhase
  transport : σ
  summary : UploadTotal
  connections : List Connection

namespace UploadRun

variable {σ : Type}

def start (blockSize capacity : Nat) (source : Source) (transport : σ) : UploadRun σ :=
  ⟨.start blockSize source, .ofCapacity capacity, false, .receiving, transport, ⟨0, 0⟩, []⟩

def cutterStep (r : UploadRun σ) : Option (UploadRun σ) :=
  (r.cutter.step r.cancelled r.channel).map fun p =>
    { r with cutter := p.1, channel := p.2 }

/-- Sends the put of a block. -/
def store (task : UploadTask σ) (r : UploadRun σ) (block : Block) : UploadRun σ :=
  let (transport, answer) := (task.put block).run task.transport r.transport
  { r with transport := transport, phase := .storing block answer }

def stored (r : UploadRun σ) (block : Block) (answer : Settled PutReceipt) : UploadRun σ :=
  let r := { r with connections := r.connections ++ answer.connection.toList }
  match answer.result with
  | .ok _ =>
    { r with
      phase := .receiving
      summary := ⟨r.summary.blocks + 1, r.summary.bytes + block.length⟩ }
  | .error cause => { r with phase := .cancelling block.sequence cause }

def resultOf (summary : UploadTotal) : CutterEnd → Except UploadFailure UploadTotal
  | .completed _ => .ok summary
  | .cancelled => .error .cancelled
  | .failed e => .error (.source e)

/-- A step of the uploader, if it does not have to wait. -/
def uploaderStep (task : UploadTask σ) (r : UploadRun σ) : Option (UploadRun σ) :=
  match r.phase with
  | .receiving =>
    match r.channel.take with
    | some (block, channel) => some { r with channel := channel, phase := .sending block }
    | none => if r.cutter.exit?.isSome then some { r with phase := .joining } else none
  | .sending block => some (r.store task block)
  | .storing block answer => answer.map (r.stored block)
  | .cancelling sequence cause =>
    some { r with cancelled := true, phase := .dropping sequence cause }
  | .dropping sequence cause =>
    some { r with channel := r.channel.drop, phase := .stopping sequence cause }
  | .stopping sequence cause =>
    if r.cutter.exit?.isSome then
      some { r with
        phase := .returned (.error (.block sequence (blockKey task.name sequence) cause)) }
    else none
  | .joining =>
    r.cutter.exit?.map fun exit => { r with phase := .returned (resultOf r.summary exit) }
  | .returned _ => none
  | .abandoned => none

/-- Gives up an upload. The cutter is told to stop. -/
def abandon (r : UploadRun σ) : UploadRun σ :=
  { r with phase := .abandoned, cancelled := true, channel := r.channel.drop }

inductive Step (task : UploadTask σ) : UploadRun σ → UploadRun σ → Prop where
  | cutter {r s : UploadRun σ} : r.cutterStep = some s → Step task r s
  | uploader {r s : UploadRun σ} : r.uploaderStep task = some s → Step task r s

/-- One step of the schedule that prefers the uploader. -/
def step (task : UploadTask σ) (r : UploadRun σ) : Option (UploadRun σ) :=
  (r.uploaderStep task).or r.cutterStep

/-- What a step of the uploader can be, with all that it needs. -/
inductive UploaderMove (task : UploadTask σ) (r : UploadRun σ) : UploadRun σ → Prop where
  | take {block : Block} {channel : Channel} : r.phase = .receiving →
      r.channel.take = some (block, channel) →
      UploaderMove task r { r with channel := channel, phase := .sending block }
  | finish {exit : CutterEnd} : r.phase = .receiving → r.channel.queue = [] →
      r.cutter.exit? = some exit → UploaderMove task r { r with phase := .joining }
  | send {block : Block} : r.phase = .sending block → UploaderMove task r (r.store task block)
  | settle {block : Block} {answer : Settled PutReceipt} :
      r.phase = .storing block (some answer) → UploaderMove task r (r.stored block answer)
  | cancel {sequence : Nat} {cause : Failure} : r.phase = .cancelling sequence cause →
      UploaderMove task r { r with cancelled := true, phase := .dropping sequence cause }
  | drop {sequence : Nat} {cause : Failure} : r.phase = .dropping sequence cause →
      UploaderMove task r { r with channel := r.channel.drop, phase := .stopping sequence cause }
  | fail {sequence : Nat} {cause : Failure} {exit : CutterEnd} :
      r.phase = .stopping sequence cause → r.cutter.exit? = some exit →
      UploaderMove task r { r with
        phase := .returned (.error (.block sequence (blockKey task.name sequence) cause)) }
  | join {exit : CutterEnd} : r.phase = .joining → r.cutter.exit? = some exit →
      UploaderMove task r { r with phase := .returned (resultOf r.summary exit) }

theorem move_of_uploaderStep {task : UploadTask σ} {r s : UploadRun σ}
    (h : r.uploaderStep task = some s) : UploaderMove task r s := by
  unfold uploaderStep at h
  split at h
  · next hphase =>
      split at h
      · next htake =>
          obtain rfl := Option.some.inj h
          exact .take hphase htake
      · next htake =>
          split at h
          · next hexit =>
              obtain rfl := Option.some.inj h
              obtain ⟨exit, hexit⟩ := Option.isSome_iff_exists.mp hexit
              exact .finish hphase (Channel.take_eq_none.mp htake) hexit
          · cases h
  · next hphase =>
      obtain rfl := Option.some.inj h
      exact .send hphase
  · next hphase =>
      obtain ⟨answer, rfl, rfl⟩ := Option.map_eq_some_iff.mp h
      exact .settle hphase
  · next hphase =>
      obtain rfl := Option.some.inj h
      exact .cancel hphase
  · next hphase =>
      obtain rfl := Option.some.inj h
      exact .drop hphase
  · next hphase =>
      split at h
      · next hexit =>
          obtain rfl := Option.some.inj h
          obtain ⟨exit, hexit⟩ := Option.isSome_iff_exists.mp hexit
          exact .fail hphase hexit
      · cases h
  · next hphase =>
      obtain ⟨exit, hexit, rfl⟩ := Option.map_eq_some_iff.mp h
      exact .join hphase hexit
  · cases h
  · cases h

/-! ## Steps come to an end -/

def phaseWork : UploadPhase → Nat
  | .receiving => 3
  | .sending _ => 5
  | .storing _ _ => 4
  | .cancelling _ _ => 3
  | .dropping _ _ => 2
  | .stopping _ _ => 1
  | .joining => 1
  | .returned _ => 0
  | .abandoned => 0

def work (r : UploadRun σ) : Nat :=
  r.cutter.work + 3 * r.channel.queue.length + phaseWork r.phase

theorem work_cutterStep_lt {r s : UploadRun σ} (h : r.cutterStep = some s) :
    s.work < r.work := by
  obtain ⟨p, hp, rfl⟩ := Option.map_eq_some_iff.mp h
  have := Cutter.work_step_lt (q := p.1) (d := p.2) hp
  simp only [work]
  omega

theorem work_uploaderStep_lt {task : UploadTask σ} {r s : UploadRun σ}
    (h : r.uploaderStep task = some s) : s.work < r.work := by
  cases move_of_uploaderStep h with
  | take hphase htake =>
      have hlen := congrArg List.length (Channel.take_eq_some htake).1
      simp only [List.length_cons] at hlen
      simp only [work, phaseWork, hphase]
      omega
  | finish hphase => simp [work, phaseWork, hphase]
  | send hphase => simp [work, store, phaseWork, hphase]
  | settle hphase =>
      unfold stored
      split <;> simp [work, phaseWork, hphase]
  | cancel hphase => simp [work, phaseWork, hphase]
  | drop hphase =>
      simp only [work, phaseWork, hphase, Channel.drop, List.length_nil]
      omega
  | fail hphase => simp [work, phaseWork, hphase]
  | join hphase => simp [work, phaseWork, hphase]

theorem work_lt_of_step {task : UploadTask σ} {r s : UploadRun σ} (h : Step task r s) :
    s.work < r.work := by
  cases h with
  | cutter h => exact work_cutterStep_lt h
  | uploader h => exact work_uploaderStep_lt h

/-- The schedule takes steps of the two parties. -/
theorem step_of_schedule {task : UploadTask σ} {r s : UploadRun σ} (h : r.step task = some s) :
    Step task r s := by
  unfold step at h
  cases hc : r.uploaderStep task with
  | some t =>
      rw [hc] at h
      obtain rfl := Option.some.inj h
      exact .uploader hc
  | none =>
      rw [hc] at h
      exact .cutter h

/-- The schedule waits only where neither party can take a step. -/
theorem not_step_of_schedule {task : UploadTask σ} {r s : UploadRun σ} (h : r.step task = none) :
    ¬Step task r s := by
  obtain ⟨huploader, hcutter⟩ := Option.or_eq_none_iff.mp h
  rintro (hs | hs)
  · rw [hcutter] at hs
    cases hs
  · rw [huploader] at hs
    cases hs

/-- Runs an upload until nothing can be done without an answer from
outside. -/
def settle (task : UploadTask σ) (r : UploadRun σ) : UploadRun σ :=
  match h : r.step task with
  | none => r
  | some s =>
    have := work_lt_of_step (step_of_schedule h)
    settle task s
termination_by r.work

def result? (r : UploadRun σ) : Option (Except UploadFailure UploadTotal) :=
  match r.phase with
  | .returned result => some result
  | _ => none

end UploadRun
end ObjectStore
