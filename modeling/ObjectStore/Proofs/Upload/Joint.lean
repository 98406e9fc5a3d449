import ObjectStore.Proofs.Data.Trace
import ObjectStore.Proofs.Upload.Deeds
import ObjectStore.Proofs.Upload.InTurn

/-!
# What happens to an upload

The two parties of an upload take their steps in any order. Meanwhile the
source gives more, and the caller may give the upload up. Each of these shows
something, and what they showed so far is the history of the upload.
-/

namespace ObjectStore

open CutterDeed

/-- What a step of an uploader shows: a block that it took out of the
channel, a put that it began, the end of this put, or none of these. -/
inductive UploaderDeed where
  | took (block : Block)
  | began (block : Block)
  | stored (block : Block)
  | notStored (block : Block) (cause : Failure)
  | inner
  deriving DecidableEq, Repr

namespace UploadRun

/-- Something that happens to an upload: a deed of one of the parties, more
of the source, or that the upload is given up. -/
inductive Event where
  | cutter (deed : CutterDeed)
  | uploader (deed : UploaderDeed)
  | fed (event : SourceEvent)
  | abandoned
  deriving DecidableEq, Repr

namespace Event

def deed? : Event → Option CutterDeed
  | .cutter deed => some deed
  | _ => none

def fed? : Event → Option SourceEvent
  | .fed event => some event
  | _ => none

def took? : Event → Option Block
  | .uploader (.took block) => some block
  | _ => none

def began? : Event → Option Block
  | .uploader (.began block) => some block
  | _ => none

def stored? : Event → Option Block
  | .uploader (.stored block) => some block
  | _ => none

def isStep : Event → Bool
  | .cutter _ => true
  | .uploader _ => true
  | _ => false

def isRead : Event → Bool
  | .cutter deed => deed.isRead
  | _ => false

def deeds (events : List Event) : List CutterDeed := events.filterMap deed?

def given (events : List Event) : Source := events.filterMap fed?

def enqueued (events : List Event) : List Block := sentBlocks (deeds events)

def taken (events : List Event) : List Block := events.filterMap took?

def puts (events : List Event) : List Block := events.filterMap began?

def storedBlocks (events : List Event) : List Block := events.filterMap stored?

section Snoc

variable (events : List Event) (e : Event)

theorem filterMap_snoc {α β : Type} (f : α → Option β) (l : List α) (a : α) :
    (l ++ [a]).filterMap f = l.filterMap f ++ (f a).toList := by
  cases h : f a <;> simp [h]

@[simp] theorem deeds_snoc : deeds (events ++ [e]) = deeds events ++ e.deed?.toList :=
  filterMap_snoc ..

@[simp] theorem given_snoc : given (events ++ [e]) = given events ++ e.fed?.toList :=
  filterMap_snoc ..

@[simp] theorem taken_snoc : taken (events ++ [e]) = taken events ++ e.took?.toList :=
  filterMap_snoc ..

@[simp] theorem puts_snoc : puts (events ++ [e]) = puts events ++ e.began?.toList :=
  filterMap_snoc ..

@[simp] theorem storedBlocks_snoc :
    storedBlocks (events ++ [e]) = storedBlocks events ++ e.stored?.toList :=
  filterMap_snoc ..

end Snoc

theorem fed?_of_isStep {e : Event} (h : e.isStep = true) : e.fed? = none := by
  cases e with
  | cutter deed => rfl
  | uploader deed => rfl
  | fed event => cases h
  | abandoned => rfl

end Event

variable {σ : Type}

/-- What the next step of the uploader shows, if it takes one. -/
def uploaderDeed (r : UploadRun σ) : UploaderDeed :=
  match r.phase with
  | .receiving =>
    match r.channel.take with
    | some (block, _) => .took block
    | none => .inner
  | .sending block => .began block
  | .storing block (some answer) =>
    match answer.result with
    | .ok _ => .stored block
    | .error cause => .notStored block cause
  | _ => .inner

def feed (r : UploadRun σ) (event : SourceEvent) : UploadRun σ :=
  { r with cutter := { r.cutter with source := r.cutter.source ++ [event] } }

def UnderWay (r : UploadRun σ) : Prop := r.result? = none ∧ r.phase ≠ .abandoned

inductive Happens (task : UploadTask σ) : UploadRun σ → Event → UploadRun σ → Prop where
  | cutter {r s : UploadRun σ} {deed : CutterDeed} : r.cutterStep = some s →
      r.cutter.deed r.cancelled r.channel = deed → Happens task r (.cutter deed) s
  | uploader {r s : UploadRun σ} {deed : UploaderDeed} : r.uploaderStep task = some s →
      r.uploaderDeed = deed → Happens task r (.uploader deed) s
  | fed {r : UploadRun σ} (event : SourceEvent) : Happens task r (.fed event) (r.feed event)
  | abandoned {r : UploadRun σ} : r.UnderWay → Happens task r .abandoned r.abandon

abbrev History (task : UploadTask σ) : UploadRun σ → List Event → UploadRun σ → Prop :=
  Trace (Happens task)

/-- What an uploader does, with all that it needs. -/
inductive Does (task : UploadTask σ) (r : UploadRun σ) : UploaderDeed → UploadRun σ → Prop where
  | took {block : Block} {rest : List Block} : r.phase = .receiving →
      r.channel.queue = block :: rest →
      Does task r (.took block)
        { r with
          channel := ⟨r.channel.capacity, rest, r.channel.receiver⟩
          phase := .sending block }
  | finish {exit : CutterEnd} : r.phase = .receiving → r.channel.queue = [] →
      r.cutter.exit? = some exit → Does task r .inner { r with phase := .joining }
  | began {block : Block} : r.phase = .sending block →
      Does task r (.began block) (r.store task block)
  | stored {block : Block} {answer : Settled PutReceipt} {receipt : PutReceipt} :
      r.phase = .storing block (some answer) → answer.result = .ok receipt →
      Does task r (.stored block)
        { r with
          phase := .receiving
          summary := r.summary.add block
          connections := r.connections ++ answer.connection.toList }
  | notStored {block : Block} {answer : Settled PutReceipt} {cause : Failure} :
      r.phase = .storing block (some answer) → answer.result = .error cause →
      Does task r (.notStored block cause)
        { r with
          phase := .cancelling block.sequence cause
          connections := r.connections ++ answer.connection.toList }
  | cancel {sequence : Nat} {cause : Failure} : r.phase = .cancelling sequence cause →
      Does task r .inner { r with cancelled := true, phase := .dropping sequence cause }
  | drop {sequence : Nat} {cause : Failure} : r.phase = .dropping sequence cause →
      Does task r .inner { r with channel := r.channel.drop, phase := .stopping sequence cause }
  | fail {sequence : Nat} {cause : Failure} {exit : CutterEnd} :
      r.phase = .stopping sequence cause → r.cutter.exit? = some exit →
      Does task r .inner { r with
        phase := .returned (.error (.block sequence (blockKey task.name sequence) cause)) }
  | join {exit : CutterEnd} : r.phase = .joining → r.cutter.exit? = some exit →
      Does task r .inner { r with phase := .returned (resultOf r.summary exit) }

variable {task : UploadTask σ} {r s : UploadRun σ}

theorem does_of_uploaderStep (h : r.uploaderStep task = some s) :
    Does task r r.uploaderDeed s := by
  cases move_of_uploaderStep h with
  | @take block channel hphase htake =>
      obtain ⟨hqueue, hcapacity, hreceiver⟩ := Channel.take_eq_some htake
      have hchannel : channel = ⟨r.channel.capacity, channel.queue, r.channel.receiver⟩ := by
        rw [← hcapacity, ← hreceiver]
      simp only [uploaderDeed, hphase, htake]
      rw [hchannel]
      exact .took hphase hqueue
  | finish hphase hqueue hexit =>
      simp only [uploaderDeed, hphase, Channel.take_eq_none.mpr hqueue]
      exact .finish hphase hqueue hexit
  | send hphase =>
      simp only [uploaderDeed, hphase]
      exact .began hphase
  | @settle block answer hphase =>
      simp only [uploaderDeed, hphase, stored]
      cases hresult : answer.result with
      | ok receipt => exact .stored hphase hresult
      | error cause => exact .notStored hphase hresult
  | cancel hphase =>
      simp only [uploaderDeed, hphase]
      exact .cancel hphase
  | drop hphase =>
      simp only [uploaderDeed, hphase]
      exact .drop hphase
  | fail hphase hexit =>
      simp only [uploaderDeed, hphase]
      exact .fail hphase hexit
  | join hphase hexit =>
      simp only [uploaderDeed, hphase]
      exact .join hphase hexit

theorem Happens.cutter_does {deed : CutterDeed} (h : Happens task r (.cutter deed) s) :
    ∃ p c, Cutter.Does r.cancelled r.cutter r.channel deed p c ∧
      s = { r with cutter := p, channel := c } := by
  cases h with
  | cutter hstep hdeed =>
      obtain ⟨⟨p, c⟩, hp, rfl⟩ := Option.map_eq_some_iff.mp hstep
      exact ⟨p, c, hdeed ▸ Cutter.does_of_step hp, rfl⟩

theorem Happens.uploader_does {deed : UploaderDeed} (h : Happens task r (.uploader deed) s) :
    Does task r deed s := by
  cases h with
  | uploader hstep hdeed => exact hdeed ▸ does_of_uploaderStep hstep

theorem Step.happens (h : Step task r s) : ∃ e, Happens task r e s ∧ e.isStep = true := by
  cases h with
  | cutter h => exact ⟨_, .cutter h rfl, rfl⟩
  | uploader h => exact ⟨_, .uploader h rfl, rfl⟩

theorem Happens.step {e : Event} (h : Happens task r e s) (he : e.isStep = true) :
    Step task r s := by
  cases h with
  | cutter h _ => exact .cutter h
  | uploader h _ => exact .uploader h
  | fed => cases he
  | abandoned => cases he

/-- Every run has its history, in which nothing happens but the steps. -/
theorem history_of_run (h : Run task r s) :
    ∃ events, History task r events s ∧ ∀ e ∈ events, e.isStep = true := by
  induction h with
  | refl => exact ⟨[], .refl, fun e he => absurd he List.not_mem_nil⟩
  | tail _ hstep ih =>
      obtain ⟨events, hhistory, hsteps⟩ := ih
      obtain ⟨e, hhappens, he⟩ := hstep.happens
      refine ⟨events ++ [e], hhistory.tail hhappens, fun e' he' => ?_⟩
      rcases List.mem_append.mp he' with he' | he'
      · exact hsteps e' he'
      · rw [List.mem_singleton.mp he']
        exact he

end UploadRun
end ObjectStore
