import ObjectStore.Proofs.Upload.Joint
import ObjectStore.Proofs.Upload.Schedules

/-!
# The calls of one uploader

An uploader is called again and again, and each call may be given up while it
runs. A call that is given up leaves a cutter behind, which has lost its
channel and brings nothing about any more. So every call does what it would do
on a new uploader, and the status tells how the last one ended.
-/

namespace ObjectStore

open UploadRun.Event

/-- A call of an uploader: the stream to upload, and when its puts are made. -/
structure UploadCall where
  name : String
  source : Source
  clock : Nat → Instant

namespace UploadCall

variable {σ : Type}

def task (call : UploadCall) (u : Uploader) (t : Transport σ) : UploadTask σ :=
  u.task call.name call.clock t

/-- What the call comes to when nobody gives it up. -/
def madeBy (call : UploadCall) (u : Uploader) (t : Transport σ) (transport : σ) :
    UploadReport σ :=
  u.upload call.name call.source call.clock t transport

/-- A call that is not refused is a run of its task, taken to its end. -/
theorem madeBy_eq {call : UploadCall} (hname : Uploader.checkName call.name = .ok ())
    (u : Uploader) (t : Transport σ) (transport : σ) :
    call.madeBy u t transport =
      (u.started call.source transport).1.report
        ((u.started call.source transport).2.settle (call.task u t)) := by
  rw [madeBy, Uploader.upload, hname]
  rfl

end UploadCall

/-- An uploader at its transport, between two calls or in the middle of one,
which began with the transport as it was before. -/
inductive Desk (σ : Type) where
  | resting (u : Uploader) (transport : σ)
  | uploading (u : Uploader) (call : UploadCall) (before : σ) (r : UploadRun σ)

namespace Desk

variable {σ : Type}

def status : Desk σ → UploadStatus
  | .resting u _ => u.status
  | .uploading u _ _ _ => u.status

def transport : Desk σ → σ
  | .resting _ transport => transport
  | .uploading _ _ _ r => r.transport

/-- The desk when a call is over. -/
def after (report : UploadReport σ) : Desk σ := .resting report.uploader report.transport

inductive Event where
  | refused (call : UploadCall) (e : UploadFailure)
  | began (call : UploadCall)
  | worked
  | returned (result : Except UploadFailure UploadTotal)
  | dropped

/-- What can happen at a desk. A call under way may be dropped wherever it
is. -/
inductive Happens (t : Transport σ) : Desk σ → Event → Desk σ → Prop where
  | refused {u : Uploader} {transport : σ} {call : UploadCall} {e : UploadFailure} :
      Uploader.checkName call.name = .error e →
      Happens t (.resting u transport) (.refused call e) (after (call.madeBy u t transport))
  | began {u : Uploader} {transport : σ} {call : UploadCall} :
      Uploader.checkName call.name = .ok () →
      Happens t (.resting u transport) (.began call)
        (.uploading (u.started call.source transport).1 call transport
          (u.started call.source transport).2)
  | worked {u : Uploader} {call : UploadCall} {before : σ} {r s : UploadRun σ} :
      UploadRun.Step (call.task u t) r s →
      Happens t (.uploading u call before r) .worked (.uploading u call before s)
  | returned {u : Uploader} {call : UploadCall} {before : σ} {r : UploadRun σ}
      {result : Except UploadFailure UploadTotal} : r.result? = some result →
      Happens t (.uploading u call before r) (.returned result) (after (u.report r))
  | dropped {u : Uploader} {call : UploadCall} {before : σ} {r : UploadRun σ} :
      r.result? = none → Happens t (.uploading u call before r) .dropped (after (u.report r))

abbrev History (t : Transport σ) : Desk σ → List Event → Desk σ → Prop := Trace (Happens t)

end Desk

/-! ## What an upload can return -/

section Results

variable {σ : Type} {task : UploadTask σ}

theorem UploadTask.storeAll_result {final : Option CutterEnd} {transport : σ}
    {total : UploadTotal} {blocks : List Block} {result : Except UploadFailure UploadTotal}
    (h : (task.storeAll final transport total blocks).2 = some result) :
    (∃ exit total', final = some exit ∧ result = UploadRun.resultOf total' exit) ∨
      ∃ sequence cause, result = .error (task.blockFailure sequence cause) := by
  induction blocks generalizing transport total with
  | nil =>
      obtain ⟨exit, hexit, rfl⟩ := Option.map_eq_some_iff.mp h
      exact .inl ⟨exit, total, hexit, rfl⟩
  | cons block rest ih =>
      simp only [storeAll] at h
      split at h
      · cases h
      · split at h
        · exact ih h
        · exact .inr ⟨_, _, (Option.some.inj h).symm⟩

/-- An upload is not cancelled by anyone else: it stores the stream, or its
source or one of its blocks fails. -/
theorem UploadRun.result_of_run {size capacity : Nat} {source : Source} {transport : σ}
    {r : UploadRun σ} (hsize : 0 < size) (hcapacity : 0 < capacity)
    (hrun : Run task (start size capacity source transport) r)
    {result : Except UploadFailure UploadTotal} (hresult : r.result? = some result) :
    (∃ total, result = .ok total) ∨ (∃ e, result = .error (.source e)) ∨
      ∃ sequence cause, result = .error (task.blockFailure sequence cause) := by
  have hstart := consistent_start hsize hcapacity source transport
  obtain ⟨-, houtlook⟩ := outlook_run hstart hrun
  rw [outlook_returned hresult, outlook_start] at houtlook
  rcases UploadTask.storeAll_result (congrArg Prod.snd houtlook.symm) with
    ⟨exit, total, hexit, rfl⟩ | ⟨sequence, cause, rfl⟩
  · obtain ⟨stop, -, rfl⟩ := Option.map_eq_some_iff.mp hexit
    cases stop with
    | ended => exact .inl ⟨total, rfl⟩
    | fault e => exact .inr (.inl ⟨e, rfl⟩)
  · exact .inr (.inr ⟨sequence, cause, rfl⟩)

/-- All runs that return do it with the same result and leave the transport
alike. -/
theorem UploadRun.settle_of_run {size capacity : Nat} {source : Source} {transport : σ}
    {r : UploadRun σ} (hsize : 0 < size) (hcapacity : 0 < capacity)
    (hrun : Run task (start size capacity source transport) r)
    {result : Except UploadFailure UploadTotal} (hresult : r.result? = some result) :
    ((start size capacity source transport).settle task).result? = some result ∧
      ((start size capacity source transport).settle task).transport = r.transport := by
  have hstart := consistent_start hsize hcapacity source transport
  obtain ⟨-, houtlook⟩ := outlook_run hstart hrun
  obtain ⟨hsettled, hsame⟩ := outlook_run hstart (run_settle task _)
  rw [outlook_atRest hsettled (atRest_settle task _), ← houtlook,
    outlook_returned hresult] at hsame
  exact ⟨(Prod.mk.inj hsame).2, (Prod.mk.inj hsame).1⟩

end Results

/-! ## What is left of an upload that was given up -/

namespace UploadRun

variable {σ : Type} {task : UploadTask σ} {r s : UploadRun σ}

/-- The upload was given up, and its channel is gone. -/
def Forsaken (transport : σ) (r : UploadRun σ) : Prop :=
  r.phase = .abandoned ∧ r.channel.receiver = .dropped ∧ r.transport = transport

/-- The cutter of an upload that was given up goes on without effect. -/
theorem Forsaken.happens {transport : σ} (h : r.Forsaken transport) {e : UploadRun.Event}
    (hhappens : Happens task r e s) :
    s.Forsaken transport ∧ (∀ deed, e.deed? = some deed → deed.sent? = none) ∧
      e.began? = none := by
  obtain ⟨hphase, hdropped, htransport⟩ := h
  cases e with
  | cutter deed =>
      obtain ⟨p, c, hdoes, rfl⟩ := hhappens.cutter_does
      have hnone := hdoes.sent_of_dropped hdropped
      obtain rfl := hdoes.channel
      refine ⟨⟨hphase, hdropped, htransport⟩, ?_, rfl⟩
      rintro _ ⟨⟩
      exact hnone
  | uploader deed =>
      cases hhappens with
      | uploader hstep => simp [uploaderStep, hphase] at hstep
  | fed event =>
      cases hhappens
      refine ⟨⟨hphase, hdropped, htransport⟩, ?_, rfl⟩
      intro deed hdeed
      cases hdeed
  | abandoned =>
      cases hhappens with
      | abandoned hway => exact absurd hphase hway.2

theorem forsaken_abandon (r : UploadRun σ) : r.abandon.Forsaken r.transport := ⟨rfl, rfl, rfl⟩

/-- After an upload was given up, no block is enqueued and no put is made. -/
theorem quiet_of_abandon {later : List UploadRun.Event} (h : History task r.abandon later s) :
    enqueued later = [] ∧ puts later = [] ∧ s.transport = r.transport := by
  obtain ⟨hlast, hnone⟩ := h.keeps (P := fun s => s.Forsaken r.transport)
    (R := fun e => (∀ deed, e.deed? = some deed → deed.sent? = none) ∧ e.began? = none)
    (fun hb hstep => hb.happens hstep) r.forsaken_abandon
  refine ⟨CutterDeed.sentBlocks_eq_nil ?_,
    List.filterMap_eq_nil_iff.mpr fun e he => (hnone e he).2, hlast.2.2⟩
  intro deed hdeed
  obtain ⟨e, he, hsame⟩ := List.mem_filterMap.mp hdeed
  exact (hnone e he).1 deed hsame

end UploadRun

namespace Uploader

theorem ofSettings_eq_ok {client : Client} {bucket : String} {blockSize capacity : Nat}
    {acl : CannedAcl} {u : Uploader}
    (h : ofSettings client bucket blockSize capacity acl = .ok u) :
    0 < u.blockSize ∧ 0 < u.capacity ∧ u.status = .idle := by
  unfold ofSettings at h
  split at h
  · cases h
  · next hsize =>
      split at h
      · cases h
      · next hcapacity =>
          split at h
          · cases h
          · obtain rfl := Except.ok.inj h
            exact ⟨Nat.pos_of_ne_zero hsize, Nat.pos_of_ne_zero hcapacity, rfl⟩

theorem checkName_eq_error {name : String} {e : UploadFailure} (h : checkName name = .error e) :
    ∃ fault, e = .refused fault := by
  unfold checkName at h
  split at h
  · exact ⟨_, (Except.error.inj h).symm⟩
  · cases h

end Uploader

namespace Desk

variable {σ : Type} {t : Transport σ} {fresh : Uploader} {d d' : Desk σ} {events : List Event}

/-! ## Calls as histories -/

theorem history_of_run {u : Uploader} {call : UploadCall} {before : σ} {r s : UploadRun σ}
    (h : UploadRun.Run (call.task u t) r s) :
    ∃ events, History t (.uploading u call before r) events (.uploading u call before s) := by
  induction h with
  | refl => exact ⟨[], .refl⟩
  | tail _ hstep ih =>
      obtain ⟨events, hevents⟩ := ih
      exact ⟨events ++ [.worked], hevents.tail (.worked hstep)⟩

theorem history_of_call (u : Uploader) (call : UploadCall) (t : Transport σ) (transport : σ) :
    ∃ events, History t (.resting u transport) events (after (call.madeBy u t transport)) := by
  cases hname : Uploader.checkName call.name with
  | error e => exact ⟨[.refused call e], .head (.refused hname) .refl⟩
  | ok _ =>
      have hrun := UploadRun.run_settle (call.task (u.started call.source transport).1 t)
        (u.started call.source transport).2
      obtain ⟨events, hevents⟩ := history_of_run hrun
      have hbegun : History t (.resting u transport) (.began call :: events) _ :=
        hevents.head (.began hname)
      rw [UploadCall.madeBy_eq hname]
      cases hresult : ((u.started call.source transport).2.settle (call.task u t)).result? with
      | none => exact ⟨_, hbegun.tail (.dropped hresult)⟩
      | some result => exact ⟨_, hbegun.tail (.returned hresult)⟩

/-! ## What every event keeps -/

/-- What holds at the desk of an uploader that was fresh once, by what the
uploader is doing. -/
def Kept (fresh : Uploader) (t : Transport σ) : Desk σ → Prop
  | .resting u _ => u = { fresh with status := u.status } ∧ u.status ≠ .running
  | .uploading u call before r =>
    u = { fresh with status := .running } ∧ Uploader.checkName call.name = .ok () ∧
      UploadRun.Run (call.task fresh t) (fresh.started call.source before).2 r

/-- The status after a call is not that of a call under way, as the call came
to something. -/
theorem after_ne_running {result : Except UploadFailure UploadTotal}
    (h : ∀ fault, result ≠ .error (.refused fault)) (before : UploadStatus) :
    before.after result ≠ .running := by
  intro hrunning
  rcases result with (e | e | _ | fault) | total
  · cases hrunning
  · cases hrunning
  · cases hrunning
  · exact h fault rfl
  · cases hrunning

theorem Kept.happens (hsize : 0 < fresh.blockSize) (hcapacity : 0 < fresh.capacity)
    (h : d.Kept fresh t) {e : Event} (hhappens : Happens t d e d') : d'.Kept fresh t := by
  cases hhappens with
  | refused hname =>
      simp only [after, UploadCall.madeBy, Uploader.upload, hname]
      exact h
  | @began u transport call hname =>
      obtain ⟨hsame, -⟩ := h
      rw [hsame]
      exact ⟨rfl, hname, .refl⟩
  | worked hstep =>
      obtain ⟨rfl, hname, hrun⟩ := h
      exact ⟨rfl, hname, hrun.tail hstep⟩
  | returned hresult =>
      obtain ⟨rfl, hname, hrun⟩ := h
      rw [Uploader.report_of_returned _ hresult]
      refine ⟨rfl, after_ne_running ?_ _⟩
      rintro fault rfl
      rcases UploadRun.result_of_run hsize hcapacity hrun hresult with
        ⟨total, h⟩ | ⟨e, h⟩ | ⟨sequence, cause, h⟩ <;> cases h
  | dropped hresult =>
      obtain ⟨rfl, hname, hrun⟩ := h
      simp only [after, Uploader.report, hresult]
      refine ⟨rfl, ?_⟩
      intro hrunning
      cases hrunning

theorem kept_of_history (hsize : 0 < fresh.blockSize) (hcapacity : 0 < fresh.capacity)
    (hidle : fresh.status = .idle) {transport : σ}
    (h : History t (.resting fresh transport) events d) : d.Kept fresh t := by
  induction h with
  | refl =>
      refine ⟨rfl, fun hrunning => ?_⟩
      rw [hidle] at hrunning
      cases hrunning
  | tail _ hhappens ih => exact ih.happens hsize hcapacity hhappens

/-! ## The lifecycle -/

structure Tells (status : UploadStatus) (result : Except UploadFailure UploadTotal) : Prop where
  succeeded : status = .succeeded ↔ ∃ total, result = .ok total
  sourceFailed : status = .failed .source ↔ ∃ e, result = .error (.source e)
  notStored : ∀ k, status = .failed (.block k) ↔
    ∃ key cause, result = .error (.block k key cause)

theorem tells_after {result : Except UploadFailure UploadTotal}
    (h : ∀ fault, result ≠ .error (.refused fault)) (before : UploadStatus) :
    Tells (before.after result) result := by
  rcases result with (e | ⟨sequence, key, cause⟩ | _ | fault) | total
  · constructor <;> simp [UploadStatus.after]
  · constructor <;> simp [UploadStatus.after]
  · constructor <;> simp [UploadStatus.after]
  · exact absurd rfl (h fault)
  · constructor <;> simp [UploadStatus.after]

/-- The lifecycle of an uploader: where it is, and what each event that can
happen next makes of it. -/
structure Lifecycle (fresh : Uploader) (t : Transport σ) (d : Desk σ) : Prop where
  /-- Between calls the uploader does not say that it is running. -/
  between : ∀ u transport, d = .resting u transport → d.status ≠ .running
  /-- During a call it does, and the call goes as on a fresh uploader. -/
  during : ∀ u call before r, d = .uploading u call before r → d.status = .running ∧
    UploadRun.Run (call.task fresh t) (fresh.started call.source before).2 r
  /-- A call that is refused changes nothing and sends nothing. -/
  refused : ∀ call e d', Happens t d (.refused call e) d' →
    d' = d ∧ ∃ fault, e = .refused fault
  /-- A call that returns was not cancelled, the status tells its result, and a
  fresh uploader would have sent and returned the same. -/
  returned : ∀ u call before r result d', d = .uploading u call before r →
    Happens t d (.returned result) d' →
      Tells d'.status result ∧ result ≠ .error .cancelled ∧
        (call.madeBy fresh t before).ending = .returned result ∧
        (call.madeBy fresh t before).transport = d'.transport
  /-- A call that is dropped counts as cancelled. What is left of it enqueues no
  block and sends no request. -/
  dropped : ∀ u call before r d', d = .uploading u call before r →
    Happens t d .dropped d' → d'.status = .failed .cancelled ∧
      ∀ later s, UploadRun.History (call.task fresh t) r.abandon later s →
        enqueued later = [] ∧ puts later = [] ∧ s.transport = d'.transport

/-- **Every history of a fresh uploader follows the lifecycle.** -/
theorem lifecycle_of_history {client : Client} {bucket : String} {blockSize capacity : Nat}
    {acl : CannedAcl}
    (hfresh : Uploader.ofSettings client bucket blockSize capacity acl = .ok fresh)
    {transport : σ} (h : History t (.resting fresh transport) events d) :
    Lifecycle fresh t d := by
  obtain ⟨hsize, hcapacity, hidle⟩ := Uploader.ofSettings_eq_ok hfresh
  have hkept := kept_of_history hsize hcapacity hidle h
  refine ⟨?_, ?_, ?_, ?_, ?_⟩
  · rintro u transport rfl
    exact hkept.2
  · rintro u call before r rfl
    obtain ⟨rfl, -, hrun⟩ := hkept
    exact ⟨rfl, hrun⟩
  · intro call e d' hhappens
    cases hhappens with
    | refused hname =>
        refine ⟨?_, Uploader.checkName_eq_error hname⟩
        simp only [after, UploadCall.madeBy, Uploader.upload, hname]
  · rintro u call before r result d' rfl hhappens
    cases hhappens with
    | returned hresult =>
        obtain ⟨rfl, hname, hrun⟩ := hkept
        -- a fresh uploader has the same task, and all its runs return the same
        have hcases := UploadRun.result_of_run hsize hcapacity hrun hresult
        obtain ⟨hsettled, hsame⟩ := UploadRun.settle_of_run hsize hcapacity hrun hresult
        have hmade := UploadCall.madeBy_eq hname fresh t before
        have hreport := (fresh.started call.source before).1.report_of_returned hsettled
        rw [Uploader.report_of_returned _ hresult]
        refine ⟨tells_after ?_ _, ?_, ?_, ?_⟩
        · rintro fault rfl
          rcases hcases with ⟨total, h⟩ | ⟨e, h⟩ | ⟨sequence, cause, h⟩ <;> cases h
        · rintro rfl
          rcases hcases with ⟨total, h⟩ | ⟨e, h⟩ | ⟨sequence, cause, h⟩ <;> cases h
        · rw [hmade]
          exact congrArg UploadReport.ending hreport
        · rw [hmade]
          exact (congrArg UploadReport.transport hreport).trans hsame
  · rintro u call before r d' rfl hhappens
    cases hhappens with
    | dropped hresult =>
        refine ⟨?_, fun later s hlater => ?_⟩
        · simp only [after, Uploader.report, hresult, status]
        · have hquiet := UploadRun.quiet_of_abandon hlater
          simp only [after, Uploader.report, hresult, Desk.transport]
          exact hquiet

/-- A call is made to its end, and then another one is dropped that waits for
its source. -/
theorem lifecycle_of_history_dropped :
    Uploader.ofSettings (.ofLocalService 1024) "logs" 2 1 default = .ok Uploader.ofTwoBytes ∧
      ∃ events d, History (.answering Uploader.takesOne) (.resting Uploader.ofTwoBytes [])
          events d ∧ d.status = .failed .cancelled ∧
        Lifecycle Uploader.ofTwoBytes (.answering Uploader.takesOne) d := by
  have hbucket : checkBucket "logs" = .ok () := by decide +kernel
  have hfresh : Uploader.ofSettings (.ofLocalService 1024) "logs" 2 1 default =
      .ok Uploader.ofTwoBytes := by
    rw [Uploader.ofSettings, if_neg (by decide), if_neg (by decide), hbucket]
    rfl
  have hname : Uploader.checkName "log" = .ok () := by decide +kernel
  obtain ⟨events, hfirst⟩ := history_of_call Uploader.ofTwoBytes
    ⟨"log", [.bytes [1, 2, 3], .ended], fun _ => ⟨0⟩⟩ (.answering Uploader.takesOne) []
  have hbegan := hfirst.tail (e := .began ⟨"log", [], fun _ => ⟨0⟩⟩) (.began hname)
  have hhistory := hbegan.tail (.dropped rfl)
  exact ⟨hfresh, _, _, hhistory, rfl, lifecycle_of_history hfresh hhistory⟩

end Desk
end ObjectStore
