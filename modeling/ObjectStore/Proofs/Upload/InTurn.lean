import Mathlib.Logic.Relation
import ObjectStore.Proofs.Upload.Blocks
import ObjectStore.Upload.Run

/-!
# Uploads without a queue

The plain way to upload a source: cut it into its blocks and store them one
after the other, up to the first one that is not stored. There is no second
party and no channel. This program is what an upload amounts to under every
schedule of its two parties.

The link is the *outlook* of an upload under way, which is what the plain
program would still make of it. A step of either party leaves the outlook as it
is, and an upload that cannot go on has come to its outlook.
-/

namespace ObjectStore

def UploadTotal.add (t : UploadTotal) (b : Block) : UploadTotal :=
  ⟨t.blocks + 1, t.bytes + b.length⟩

def UploadTask.blockFailure {σ : Type} (task : UploadTask σ) (sequence : Nat) (cause : Failure) :
    UploadFailure :=
  .block sequence (blockKey task.name sequence) cause

/-- The upload without a queue: stores blocks one after the other. Without
an answer to a put, or without an end of the source, it does not return. -/
def UploadTask.storeAll {σ : Type} (task : UploadTask σ) (final : Option CutterEnd) :
    σ → UploadTotal → List Block → σ × Option (Except UploadFailure UploadTotal)
  | transport, total, [] => (transport, final.map (UploadRun.resultOf total))
  | transport, total, block :: rest =>
    match (task.put block).run task.transport transport with
    | (transport, none) => (transport, none)
    | (transport, some answer) =>
      match answer.result with
      | .ok _ => storeAll task final transport (total.add block) rest
      | .error cause => (transport, some (.error (task.blockFailure block.sequence cause)))

/-! ## Where a cutter waits -/

namespace Cutter

theorem exit?_eq_some {p : Cutter} {exit : CutterEnd} (h : p.exit? = some exit) :
    p.phase = .exited exit := by
  unfold exit? at h
  split at h
  · next heq => rw [heq, Option.some.inj h]
  · cases h

theorem facts_of_exited {p : Cutter} {exit : CutterEnd} (h : p.exit? = some exit) :
    p.pending = [] ∧ p.final = some exit := by
  have hphase := exit?_eq_some h
  simp only [pending, final, hphase, and_self]

/-- A cutter that was told to stop only waits when it has ended. -/
theorem exited_of_cancelled {p : Cutter} {c : Channel} (h : p.step true c = none) :
    ∃ exit, p.exit? = some exit := by
  unfold step at h
  split at h
  · next exit hphase => exact ⟨exit, by simp [exit?, hphase]⟩
  · cases h
  · cases h
  · cases h
  · cases h

/-- With an empty channel before it, a cutter waits for its source or has
ended. -/
theorem exited_or_starving {p : Cutter} {c : Channel} (hroom : p.NotFull)
    (hqueue : c.queue = []) (hcapacity : 0 < c.capacity) (hlisten : c.receiver = .listening)
    (h : p.step false c = none) :
    (∃ exit, p.exit? = some exit) ∨ (p.pending = [] ∧ p.final = none) := by
  unfold step at h
  split at h
  · next exit hphase => exact .inl ⟨exit, by simp [exit?, hphase]⟩
  · next sequence buffer hphase =>
      right
      simp only [NotFull, hphase] at hroom
      simp only [Bool.false_eq_true, if_false, Option.map_eq_none_iff] at h
      unfold fill at h
      split at h
      · next hread =>
          -- without a stop to come, a buffer that is not full will never be a block
          have hsource := Source.read_eq_waiting hread
          have hnone : cut p.blockSize none buffer = [] := cut_dropped (by simp) hroom
          simp [pending, final, hphase, hsource, Source.content, Source.stop?, hnone]
      · cases h
      · split at h <;> cases h
  · have hfree : c.hasRoom = true := by simp [Channel.hasRoom, hqueue, hcapacity]
    simp [hlisten, hfree] at h
  · cases h
  · cases h

end Cutter

namespace UploadRun

variable {σ : Type} {task : UploadTask σ}

/-- An upload that may still store blocks: nobody was told to stop, and the
channel is in place. -/
structure Live (r : UploadRun σ) : Prop where
  notCancelled : r.cancelled = false
  listening : r.channel.receiver = .listening
  room : 0 < r.channel.capacity
  notFull : r.cutter.NotFull

/-- What holds of an upload under way, by what its uploader is doing. -/
def Consistent (r : UploadRun σ) : Prop :=
  match r.phase with
  | .receiving => r.Live
  | .sending _ => r.Live
  | .storing _ _ => r.Live
  | .dropping _ _ => r.cancelled = true
  | .stopping _ _ => r.cancelled = true
  | .joining => ∃ exit, r.cutter.exit? = some exit
  | _ => True

/-- The blocks that are on their way to the uploader, now or later. -/
def upcoming (r : UploadRun σ) : List Block := r.channel.queue ++ r.cutter.pending

/-- What the plain program would still make of an upload: the transport in
the end, and what is returned. -/
def outlook (task : UploadTask σ) (r : UploadRun σ) :
    σ × Option (Except UploadFailure UploadTotal) :=
  match r.phase with
  | .receiving => task.storeAll r.cutter.final r.transport r.summary r.upcoming
  | .sending block => task.storeAll r.cutter.final r.transport r.summary (block :: r.upcoming)
  | .storing _ none => (r.transport, none)
  | .storing block (some answer) =>
    match answer.result with
    | .ok _ => task.storeAll r.cutter.final r.transport (r.summary.add block) r.upcoming
    | .error cause => (r.transport, some (.error (task.blockFailure block.sequence cause)))
  | .cancelling sequence cause => (r.transport, some (.error (task.blockFailure sequence cause)))
  | .dropping sequence cause => (r.transport, some (.error (task.blockFailure sequence cause)))
  | .stopping sequence cause => (r.transport, some (.error (task.blockFailure sequence cause)))
  | .joining => (r.transport, r.cutter.final.map (resultOf r.summary))
  | .returned result => (r.transport, some result)
  | .abandoned => (r.transport, none)

/-! ## Steps -/

theorem Live.cutterStep {r s : UploadRun σ} (h : r.Live) (hs : r.cutterStep = some s) :
    s.Live ∧ s.upcoming = r.upcoming ∧ s.cutter.final = r.cutter.final := by
  obtain ⟨⟨q, d⟩, hstep, rfl⟩ := Option.map_eq_some_iff.mp hs
  rw [h.notCancelled] at hstep
  obtain ⟨hfull, hlisten, hcapacity, hqueue, hfinal⟩ :=
    Cutter.step_listening h.notFull h.listening hstep
  exact ⟨⟨h.notCancelled, hlisten, hcapacity ▸ h.room, hfull⟩, hqueue, hfinal⟩

theorem cutterStep_frame {r s : UploadRun σ} (hs : r.cutterStep = some s) :
    s.phase = r.phase ∧ s.transport = r.transport ∧ s.summary = r.summary ∧
      s.cancelled = r.cancelled := by
  obtain ⟨⟨q, d⟩, _, rfl⟩ := Option.map_eq_some_iff.mp hs
  exact ⟨rfl, rfl, rfl, rfl⟩

theorem cutterStep_of_exited {r : UploadRun σ} {exit : CutterEnd} (h : r.cutter.exit? = some exit) :
    r.cutterStep = none := by
  have hphase := Cutter.exit?_eq_some h
  simp [cutterStep, Cutter.step, hphase]

/-- The cutter changes nothing of the outlook. -/
theorem outlook_cutterStep {r s : UploadRun σ} (h : r.Consistent)
    (hs : r.cutterStep = some s) : s.Consistent ∧ s.outlook task = r.outlook task := by
  obtain ⟨hphase, htransport, hsummary, hcancelled⟩ := cutterStep_frame hs
  cases hr : r.phase with
  | receiving =>
      simp only [Consistent, hr] at h
      obtain ⟨hlive, hcoming, hfinal⟩ := h.cutterStep hs
      simp only [Consistent, outlook, hphase, hr]
      exact ⟨hlive, by rw [hfinal, htransport, hsummary, hcoming]⟩
  | sending block =>
      simp only [Consistent, hr] at h
      obtain ⟨hlive, hcoming, hfinal⟩ := h.cutterStep hs
      simp only [Consistent, outlook, hphase, hr]
      exact ⟨hlive, by rw [hfinal, htransport, hsummary, hcoming]⟩
  | storing block answer =>
      simp only [Consistent, hr] at h
      obtain ⟨hlive, hcoming, hfinal⟩ := h.cutterStep hs
      simp only [Consistent, hphase, hr]
      refine ⟨hlive, ?_⟩
      cases answer with
      | none => simp only [outlook, hphase, hr, htransport]
      | some answer =>
          simp only [outlook, hphase, hr]
          rw [hfinal, htransport, hsummary, hcoming]
  | cancelling => simp only [Consistent, outlook, hphase, hr, htransport, and_self]
  | dropping =>
      simp only [Consistent, hr] at h
      simp only [Consistent, outlook, hphase, hr, htransport, hcancelled, h, and_self]
  | stopping =>
      simp only [Consistent, hr] at h
      simp only [Consistent, outlook, hphase, hr, htransport, hcancelled, h, and_self]
  | joining =>
      -- the cutter has ended and takes no step
      simp only [Consistent, hr] at h
      obtain ⟨exit, hexit⟩ := h
      rw [cutterStep_of_exited hexit] at hs
      cases hs
  | returned => simp only [Consistent, outlook, hphase, hr, htransport, and_self]
  | abandoned => simp only [Consistent, outlook, hphase, hr, htransport, and_self]

/-- The uploader does what the outlook said. -/
theorem outlook_uploaderStep {r s : UploadRun σ} (h : r.Consistent)
    (hs : r.uploaderStep task = some s) : s.Consistent ∧ s.outlook task = r.outlook task := by
  cases move_of_uploaderStep hs with
  | take hphase htake =>
      simp only [Consistent, hphase] at h
      obtain ⟨hqueue, hcapacity, hreceiver⟩ := Channel.take_eq_some htake
      refine ⟨⟨h.notCancelled, hreceiver ▸ h.listening, hcapacity ▸ h.room, h.notFull⟩, ?_⟩
      simp only [outlook, hphase, upcoming, hqueue, List.cons_append]
  | finish hphase hqueue hexit =>
      obtain ⟨hpending, hfinal⟩ := Cutter.facts_of_exited hexit
      refine ⟨⟨_, hexit⟩, ?_⟩
      simp only [outlook, hphase, upcoming, hqueue, hpending, List.append_nil,
        UploadTask.storeAll]
  | @send block hphase =>
      simp only [Consistent, hphase] at h
      refine ⟨⟨h.notCancelled, h.listening, h.room, h.notFull⟩, ?_⟩
      rcases hrun : (task.put block).run task.transport r.transport with ⟨transport, _ | answer⟩
      · simp only [outlook, store, hphase, UploadTask.storeAll, hrun]
      · simp only [outlook, store, hphase, UploadTask.storeAll, hrun]
        rfl
  | @settle block answer hphase =>
      simp only [Consistent, hphase] at h
      cases hresult : answer.result with
      | ok receipt =>
          simp only [Consistent, outlook, stored, hphase, hresult]
          exact ⟨⟨h.notCancelled, h.listening, h.room, h.notFull⟩, rfl⟩
      | error cause => simp only [Consistent, outlook, stored, hphase, hresult, and_self]
  | cancel hphase => simp only [Consistent, outlook, hphase, and_self]
  | drop hphase =>
      simp only [Consistent, hphase] at h
      simp only [Consistent, outlook, hphase, h, and_self]
  | fail hphase => simp only [Consistent, outlook, hphase, UploadTask.blockFailure, and_self]
  | join hphase hexit =>
      obtain ⟨-, hfinal⟩ := Cutter.facts_of_exited hexit
      simp only [Consistent, outlook, hphase, hfinal, Option.map_some, and_self]

theorem outlook_step {r s : UploadRun σ} (h : r.Consistent) (hs : Step task r s) :
    s.Consistent ∧ s.outlook task = r.outlook task := by
  cases hs with
  | cutter hs => exact outlook_cutterStep h hs
  | uploader hs => exact outlook_uploaderStep h hs

/-! ## Runs -/

abbrev Run (task : UploadTask σ) : UploadRun σ → UploadRun σ → Prop :=
  Relation.ReflTransGen (Step task)

/-- Neither party can take a step. -/
def AtRest (task : UploadTask σ) (r : UploadRun σ) : Prop := ∀ s, ¬Step task r s

theorem outlook_run {r s : UploadRun σ} (h : r.Consistent) (hs : Run task r s) :
    s.Consistent ∧ s.outlook task = r.outlook task := by
  induction hs with
  | refl => exact ⟨h, rfl⟩
  | tail _ hstep ih =>
      obtain ⟨hmid, hmidOutlook⟩ := ih
      obtain ⟨hlast, hlastOutlook⟩ := outlook_step hmid hstep
      exact ⟨hlast, hlastOutlook.trans hmidOutlook⟩

theorem AtRest.uploader {r : UploadRun σ} (h : AtRest task r) : r.uploaderStep task = none := by
  cases hs : r.uploaderStep task with
  | none => rfl
  | some s => exact absurd (.uploader hs) (h s)

theorem AtRest.cutter {r : UploadRun σ} (h : AtRest task r) :
    r.cutter.step r.cancelled r.channel = none := by
  cases hs : r.cutterStep with
  | none => exact Option.map_eq_none_iff.mp hs
  | some s => exact absurd (.cutter hs) (h s)

/-- **An upload that cannot go on has come to its outlook.** Where it has not
returned, the plain program would not return either. -/
theorem outlook_atRest {r : UploadRun σ} (h : r.Consistent) (hrest : AtRest task r) :
    r.outlook task = (r.transport, r.result?) := by
  have huploader := hrest.uploader
  have hcutter := hrest.cutter
  cases hphase : r.phase with
  | receiving =>
      simp only [Consistent, hphase] at h
      simp only [uploaderStep, hphase] at huploader
      split at huploader
      · cases huploader
      · next htake =>
          -- the channel is empty and the cutter runs, so it can only be starving
          have hqueue := Channel.take_eq_none.mp htake
          have hrunning : ¬r.cutter.exit?.isSome = true := by
            intro hexit
            rw [if_pos hexit] at huploader
            cases huploader
          rw [h.notCancelled] at hcutter
          rcases Cutter.exited_or_starving h.notFull hqueue h.room h.listening hcutter with
            ⟨exit, hexit⟩ | ⟨hpending, hfinal⟩
          · exact absurd (by rw [hexit]; rfl) hrunning
          · simp [outlook, result?, hphase, upcoming, hqueue, hpending, hfinal,
              UploadTask.storeAll]
  | sending => simp [uploaderStep, hphase] at huploader
  | storing block answer =>
      cases answer with
      | none => simp only [outlook, result?, hphase]
      | some answer => simp [uploaderStep, hphase] at huploader
  | cancelling => simp [uploaderStep, hphase] at huploader
  | dropping => simp [uploaderStep, hphase] at huploader
  | stopping =>
      simp only [Consistent, hphase] at h
      rw [h] at hcutter
      obtain ⟨exit, hexit⟩ := Cutter.exited_of_cancelled hcutter
      simp [uploaderStep, hphase, hexit] at huploader
  | joining =>
      simp only [Consistent, hphase] at h
      obtain ⟨exit, hexit⟩ := h
      simp [uploaderStep, hphase, hexit] at huploader
  | returned => simp only [outlook, result?, hphase]
  | abandoned => simp only [outlook, result?, hphase]

theorem outlook_returned {r : UploadRun σ} {result : Except UploadFailure UploadTotal}
    (h : r.result? = some result) : r.outlook task = (r.transport, some result) := by
  unfold result? at h
  split at h
  · next hphase => rw [outlook, hphase, Option.some.inj h]
  · cases h

theorem consistent_start {size capacity : Nat} (hsize : 0 < size) (hcapacity : 0 < capacity)
    (source : Source) (transport : σ) :
    (start size capacity source transport).Consistent :=
  ⟨rfl, rfl, hcapacity, Cutter.notFull_start hsize source⟩

theorem outlook_start (size capacity : Nat) (source : Source) (transport : σ) :
    (start size capacity source transport).outlook task =
      task.storeAll (source.stop?.map (.ofStop (source.blocks size).length)) transport ⟨0, 0⟩
        (source.blocks size) := by
  rw [← Cutter.final_start]
  rfl

/-! ## Every run comes to rest -/

/-- The schedule of an upload is one of its runs. -/
theorem run_settle (task : UploadTask σ) (r : UploadRun σ) : Run task r (r.settle task) := by
  rw [settle]
  split
  · exact .refl
  · next s hs =>
      have hstep := step_of_schedule hs
      have hless := work_lt_of_step hstep
      exact .head hstep (run_settle task s)
termination_by r.work

theorem atRest_settle (task : UploadTask σ) (r : UploadRun σ) : AtRest task (r.settle task) := by
  rw [settle]
  split
  · next hs => exact fun s => not_step_of_schedule hs
  · next s hs =>
      have hless := work_lt_of_step (step_of_schedule hs)
      exact atRest_settle task s
termination_by r.work

end UploadRun
end ObjectStore
