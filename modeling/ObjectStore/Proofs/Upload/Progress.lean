import ObjectStore.Proofs.Upload.Flow

/-!
# Uploads do not get stuck

An upload waits for nothing but its source and its transport. The two parties
never wait for each other: a cutter without room has an uploader with a block
to take, and an uploader that waits for the end of the cutter has told it to
stop before. After a put that failed the source is not needed any more. The
work of both parties is paid for by the answers of the source.
-/

namespace ObjectStore

def Transport.Responds {σ : Type} (t : Transport σ) : Prop :=
  ∀ state request, (t.send state request).2 ≠ .silent

theorem Transport.responds_answering (answers : Answers) :
    (Transport.answering answers).Responds := by
  intro received request
  simp only [answering]
  split <;> simp

theorem Exchange.isSome_run {σ α : Type} {t : Transport σ} (h : t.Responds) (state : σ)
    (x : Exchange α) : (x.run t state).2.isSome := by
  cases x with
  | settled s => rfl
  | sending request settle =>
      have hdelivery := h state request
      simp only [run]
      rcases hsend : t.send state request with ⟨after, delivery⟩
      rw [hsend] at hdelivery
      cases delivery with
      | answered a => rfl
      | failed e => rfl
      | silent => exact absurd rfl hdelivery

namespace Cutter

variable {p q : Cutter} {c d : Channel} {cancelled : Bool} {deed : CutterDeed}

def AwaitsSource (p : Cutter) : Prop :=
  ∃ sequence buffer, p.phase = .filling sequence buffer ∧
    p.source.read (p.blockSize - buffer.length) = .waiting

def AwaitsRoom (p : Cutter) (c : Channel) : Prop :=
  ∃ block last, p.phase = .offering block last ∧ c.hasRoom = false

/-- Nobody has stopped a cutter that waits: it has ended, or waits for its
source or for room. -/
theorem waits_of_step_eq_none (hlisten : c.receiver = .listening) (h : p.step false c = none) :
    (∃ exit, p.exit? = some exit) ∨ p.AwaitsSource ∨ p.AwaitsRoom c := by
  unfold step at h
  split at h
  · next exit hphase => exact .inl ⟨exit, by simp only [exit?, hphase]⟩
  · next sequence buffer hphase =>
      rw [if_neg (by decide), Option.map_eq_none_iff] at h
      unfold fill at h
      split at h
      · next hread => exact .inr (.inl ⟨sequence, buffer, hphase, hread⟩)
      · cases h
      · split at h <;> cases h
  · next block last hphase =>
      rw [if_neg (by decide), if_neg (by simp [hlisten])] at h
      refine .inr (.inr ⟨block, last, hphase, ?_⟩)
      by_contra hroom
      rw [if_pos (Bool.not_eq_false _ ▸ hroom)] at h
      cases h
  · cases h
  · cases h

theorem isRead_of_cancelled (p : Cutter) (c : Channel) : (p.deed true c).isRead = false := by
  unfold deed
  split
  · rfl
  · split <;> rfl
  · rfl

theorem Does.source_eq (h : Does cancelled p c deed q d) (hread : deed.isRead = false) :
    q.source = p.source := by
  cases h with
  | got => cases hread
  | foundEnd => cases hread
  | foundFault => cases hread
  | sent =>
      unfold afterOffer
      split <;> rfl
  | lost =>
      unfold afterOffer
      split <;> rfl
  | _ => rfl

theorem phaseWork_le (phase : CutterPhase) : phaseWork phase ≤ 12 := by
  cases phase with
  | offering block last => cases last <;> simp [phaseWork]
  | placing block last => cases last <;> simp [phaseWork]
  | _ => simp [phaseWork]

/-- A read is made by a cutter that fills a block. -/
theorem Does.phaseWork_of_isRead (h : Does cancelled p c deed q d) (hread : deed.isRead = true) :
    phaseWork p.phase = 7 ∧ d = c := by
  cases h with
  | got hphase => simp [phaseWork, hphase]
  | foundEnd hphase => simp [phaseWork, hphase]
  | foundFault hphase => simp [phaseWork, hphase]
  | _ => cases hread

end Cutter

namespace UploadRun

open Event

variable {σ : Type} {task : UploadTask σ} {size capacity : Nat} {source : Source}
  {events : List Event} {r s : UploadRun σ}

def AwaitsSource (r : UploadRun σ) : Prop := r.cancelled = false ∧ r.cutter.AwaitsSource

def AwaitsAnswer (r : UploadRun σ) : Prop := ∃ block, r.phase = .storing block none

def AwaitsBlock (r : UploadRun σ) : Prop := r.phase = .receiving ∧ r.channel.queue = []

def AwaitsExit (r : UploadRun σ) : Prop :=
  (∃ sequence cause, r.phase = .stopping sequence cause) ∨ r.phase = .joining

/-! ## What holds in every history -/

theorem Consistent.feed (h : r.Consistent) (event : SourceEvent) : (r.feed event).Consistent := by
  have hlive : r.Live → (r.feed event).Live := fun h =>
    ⟨h.notCancelled, h.listening, h.room, h.notFull⟩
  rcases r with ⟨cutter, channel, cancelled, phase, transport, summary, connections⟩
  cases phase with
  | receiving => exact hlive h
  | sending => exact hlive h
  | storing => exact hlive h
  | _ => exact h

theorem Consistent.happens (h : r.Consistent) {e : Event} (hhappens : Happens task r e s) :
    s.Consistent := by
  cases e with
  | cutter deed => exact (outlook_step h (hhappens.step rfl)).1
  | uploader deed => exact (outlook_step h (hhappens.step rfl)).1
  | fed event =>
      cases hhappens
      exact h.feed event
  | abandoned =>
      cases hhappens
      trivial

theorem consistent_of_history (hsize : 0 < size) (hcapacity : 0 < capacity) {transport : σ}
    (h : History task (start size capacity source transport) events r) : r.Consistent := by
  induction h with
  | refl => exact consistent_start hsize hcapacity source transport
  | tail _ hhappens ih => exact ih.happens hhappens

/-! ## Waiting -/

/-- A cutter waits for room only while there are blocks to take. -/
theorem Consistent.not_deadlocked (h : r.Consistent) :
    ¬(r.cutter.AwaitsRoom r.channel ∧ r.AwaitsBlock) := by
  rintro ⟨⟨block, last, -, hfull⟩, hphase, hqueue⟩
  unfold Consistent at h
  rw [hphase] at h
  have hroom := h.room
  simp [Channel.hasRoom, hqueue, hroom] at hfull

/-- A cutter that was told to stop ends, and then the uploader returns. -/
theorem not_atRest_of_stopping {sequence : Nat} {cause : Failure}
    (hphase : r.phase = .stopping sequence cause) (hcancel : r.cancelled = true) :
    ¬AtRest task r := by
  intro hrest
  have huploader := hrest.uploader
  have hcutter := hrest.cutter
  rw [hcancel] at hcutter
  obtain ⟨exit, hexit⟩ := Cutter.exited_of_cancelled hcutter
  simp [uploaderStep, hphase, hexit] at huploader

/-- An upload under way can take a step, or it waits for its source or for
the answer to a put. -/
theorem Consistent.goes_on (h : r.Consistent) (hway : r.UnderWay) :
    (∃ s, Step task r s) ∨ r.AwaitsSource ∨ r.AwaitsAnswer := by
  by_cases hgoes : ∃ s, Step task r s
  · exact .inl hgoes
  right
  have hrest : AtRest task r := fun s hs => hgoes ⟨s, hs⟩
  have huploader := hrest.uploader
  have hcutter := hrest.cutter
  have hdeadlock := h.not_deadlocked
  obtain ⟨hnone, hnot⟩ := hway
  unfold Consistent at h
  cases hphase : r.phase with
  | receiving =>
      -- nothing is there to take, so there is room for the cutter
      rw [hphase] at h
      simp only [uploaderStep, hphase] at huploader
      split at huploader
      · cases huploader
      · next htake =>
          have hqueue := Channel.take_eq_none.mp htake
          rw [h.notCancelled] at hcutter
          rcases Cutter.waits_of_step_eq_none h.listening hcutter with
            ⟨exit, hexit⟩ | hsource | hroom
          · simp [hexit] at huploader
          · exact .inl ⟨h.notCancelled, hsource⟩
          · exact absurd ⟨hroom, hphase, hqueue⟩ hdeadlock
  | sending => simp [uploaderStep, hphase] at huploader
  | storing block answer =>
      cases answer with
      | none => exact .inr ⟨block, hphase⟩
      | some answer => simp [uploaderStep, hphase] at huploader
  | cancelling => simp [uploaderStep, hphase] at huploader
  | dropping => simp [uploaderStep, hphase] at huploader
  | stopping =>
      rw [hphase] at h
      exact absurd hrest (not_atRest_of_stopping hphase h)
  | joining =>
      rw [hphase] at h
      obtain ⟨exit, hexit⟩ := h
      simp [uploaderStep, hphase, hexit] at huploader
  | returned => simp [result?, hphase] at hnone
  | abandoned => exact absurd hphase hnot

/-- The cutter can come to its end by steps of its own that need no answer of
the source. -/
def CanExit (task : UploadTask σ) (r : UploadRun σ) : Prop :=
  ∃ later s, History task r later s ∧
    (∀ e ∈ later, ∃ deed, e = .cutter deed ∧ deed.isRead = false) ∧ s.cutter.exit?.isSome

theorem canExit_of_exit? {exit : CutterEnd} (h : r.cutter.exit? = some exit) : CanExit task r :=
  ⟨[], r, .refl, fun e he => absurd he List.not_mem_nil, by rw [h]; rfl⟩

theorem canExit_of_cancelled (r : UploadRun σ) (hcancel : r.cancelled = true) :
    CanExit task r := by
  cases hstep : r.cutterStep with
  | none =>
      have hwaits := Option.map_eq_none_iff.mp hstep
      rw [hcancel] at hwaits
      obtain ⟨exit, hexit⟩ := Cutter.exited_of_cancelled hwaits
      exact canExit_of_exit? hexit
  | some s =>
      have hless := work_cutterStep_lt hstep
      obtain ⟨-, -, -, hsame⟩ := cutterStep_frame hstep
      obtain ⟨later, t, hlater, hinner, hexit⟩ := canExit_of_cancelled s (hsame.trans hcancel)
      refine ⟨_, t, .head (.cutter hstep rfl) hlater, ?_, hexit⟩
      intro e he
      rcases List.mem_cons.mp he with rfl | he
      · refine ⟨_, rfl, ?_⟩
        rw [hcancel]
        exact Cutter.isRead_of_cancelled ..
      · exact hinner e he
termination_by r.work

theorem Consistent.canExit (h : r.Consistent) (hwaits : r.AwaitsExit) : CanExit task r := by
  unfold Consistent at h
  rcases hwaits with ⟨sequence, cause, hphase⟩ | hphase
  · rw [hphase] at h
    exact canExit_of_cancelled r h
  · rw [hphase] at h
    obtain ⟨exit, hexit⟩ := h
    exact canExit_of_exit? hexit

/-! ## After a put that failed -/

/-- The upload fails, or has failed, because of a block. -/
def Fails (task : UploadTask σ) (sequence : Nat) (cause : Failure) (r : UploadRun σ) : Prop :=
  match r.phase with
  | .cancelling n e => n = sequence ∧ e = cause
  | .dropping n e => n = sequence ∧ e = cause ∧ r.cancelled = true
  | .stopping n e => n = sequence ∧ e = cause ∧ r.cancelled = true
  | .returned result => result = .error (task.blockFailure sequence cause)
  | _ => False

variable {sequence : Nat} {cause : Failure}

theorem Fails.cutterStep (h : Fails task sequence cause r) (hstep : r.cutterStep = some s) :
    Fails task sequence cause s := by
  obtain ⟨hphase, -, -, hcancel⟩ := cutterStep_frame hstep
  unfold Fails at h ⊢
  rwa [hphase, hcancel]

theorem Fails.uploaderStep (h : Fails task sequence cause r)
    (hstep : r.uploaderStep task = some s) : Fails task sequence cause s := by
  have hdoes := does_of_uploaderStep hstep
  generalize r.uploaderDeed = deed at hdoes
  unfold Fails at h
  cases hdoes with
  | cancel hphase =>
      simp only [hphase] at h
      obtain ⟨rfl, rfl⟩ := h
      exact ⟨rfl, rfl, rfl⟩
  | drop hphase =>
      simp only [hphase] at h
      exact h
  | fail hphase =>
      simp only [hphase] at h
      obtain ⟨rfl, rfl, -⟩ := h
      exact rfl
  | took hphase => simp only [hphase] at h
  | finish hphase => simp only [hphase] at h
  | began hphase => simp only [hphase] at h
  | stored hphase => simp only [hphase] at h
  | notStored hphase => simp only [hphase] at h
  | join hphase => simp only [hphase] at h

theorem Fails.step (h : Fails task sequence cause r) (hstep : Step task r s) :
    Fails task sequence cause s := by
  cases hstep with
  | cutter hstep => exact h.cutterStep hstep
  | uploader hstep => exact h.uploaderStep hstep

theorem Fails.goes_on (h : Fails task sequence cause r)
    (hnot : ¬r.result? = some (.error (task.blockFailure sequence cause))) :
    ∃ s, Step task r s := by
  by_contra hstuck
  have hrest : AtRest task r := fun s hs => hstuck ⟨s, hs⟩
  have huploader := hrest.uploader
  unfold Fails at h
  split at h
  · next hphase => simp [UploadRun.uploaderStep, hphase] at huploader
  · next hphase => simp [UploadRun.uploaderStep, hphase] at huploader
  · next hphase =>
      obtain ⟨-, -, hcancel⟩ := h
      exact not_atRest_of_stopping hphase hcancel hrest
  · next hphase =>
      obtain rfl := h
      exact hnot (by rw [result?, hphase])
  · exact h

/-- An upload that fails because of a block returns, whatever its source does. -/
theorem Fails.returns (h : Fails task sequence cause r) {n : Nat} (hn : r.work ≤ n) :
    ComesWithin (Step task)
      (fun s => s.result? = some (.error (task.blockFailure sequence cause))) n r :=
  comesWithin_of_measure (Fails task sequence cause) work
    (fun hfails hstep => ⟨hfails.step hstep, work_lt_of_step hstep⟩) (fun hfails => hfails.goes_on)
    h hn

theorem Fails.happens (h : Fails task sequence cause r) {e : Event}
    (hhappens : Happens task r e s) (he : e ≠ .abandoned) : Fails task sequence cause s := by
  cases e with
  | cutter deed => exact h.step (hhappens.step rfl)
  | uploader deed => exact h.step (hhappens.step rfl)
  | fed event =>
      cases hhappens
      exact h
  | abandoned => exact absurd rfl he

theorem Fails.history (h : Fails task sequence cause r) (hlater : History task r events s)
    (hkept : .abandoned ∉ events) : Fails task sequence cause s := by
  induction hlater with
  | refl => exact h
  | tail _ hhappens ih =>
      refine (ih fun he => hkept (List.mem_append_left _ he)).happens hhappens ?_
      rintro rfl
      exact hkept (List.mem_append_right _ (List.mem_singleton_self _))

def withSource (r : UploadRun σ) (rest : Source) : UploadRun σ :=
  { r with cutter := { r.cutter with source := rest } }

/-! ## The pace -/

/-- What both parties have still to do without an answer of the source. -/
def pace (r : UploadRun σ) : Nat :=
  Cutter.phaseWork r.cutter.phase + 3 * r.channel.queue.length + phaseWork r.phase

theorem work_eq (r : UploadRun σ) : r.work = 6 * r.cutter.source.weight + r.pace := by
  simp only [work, Cutter.work, pace, Nat.add_assoc]

theorem phaseWork_le (phase : UploadPhase) : phaseWork phase ≤ 5 := by
  cases phase <;> simp [phaseWork]

theorem pace_le (h : r.channel.queue.length ≤ capacity) : r.pace ≤ 3 * capacity + 17 := by
  have hcutter := Cutter.phaseWork_le r.cutter.phase
  have huploader := phaseWork_le r.phase
  simp only [pace]
  omega

theorem Does.cutter_eq {deed : UploaderDeed} (h : Does task r deed s) : s.cutter = r.cutter := by
  cases h <;> rfl

/-- A step costs one, and a read pays for six. -/
theorem pace_happens {e : Event} (h : Happens task r e s) :
    s.pace + e.isStep.toNat ≤ r.pace + 6 * e.isRead.toNat := by
  cases e with
  | cutter deed =>
      have hless := work_lt_of_step (h.step rfl)
      obtain ⟨p, c, hdoes, rfl⟩ := h.cutter_does
      cases hread : deed.isRead with
      | false =>
          rw [work_eq, work_eq, hdoes.source_eq hread] at hless
          simp only [isStep, isRead, hread, Bool.toNat_true, Bool.toNat_false]
          omega
      | true =>
          obtain ⟨hfilling, rfl⟩ := hdoes.phaseWork_of_isRead hread
          have hafter := Cutter.phaseWork_le p.phase
          simp only [pace, isStep, isRead, hread, Bool.toNat_true, hfilling]
          omega
  | uploader deed =>
      have hless := work_lt_of_step (h.step rfl)
      rw [work_eq, work_eq, h.uploader_does.cutter_eq] at hless
      simp only [isStep, isRead, Bool.toNat_true, Bool.toNat_false]
      omega
  | fed event =>
      cases h
      exact Nat.le_refl _
  | abandoned =>
      cases h
      simp only [pace, abandon, Channel.drop, phaseWork, isStep, isRead, Bool.toNat_false,
        List.length_nil]
      omega

theorem pace_history (h : History task r events s) :
    s.pace + events.countP isStep ≤ r.pace + 6 * events.countP isRead := by
  induction h with
  | refl => exact Nat.le_refl _
  | @tail events e b c _ hhappens ih =>
      have hstep := pace_happens hhappens
      rw [List.countP_append, List.countP_append, List.countP_singleton, List.countP_singleton]
      cases hs : e.isStep <;> cases hr : e.isRead <;>
        simp only [hs, hr, Bool.toNat_true, Bool.toNat_false, Bool.false_eq_true, if_true,
          if_false] at hstep ⊢ <;> omega

/-! ## Every upload comes to its end -/

theorem not_awaitsAnswer (hresponds : task.transport.Responds) {transport : σ}
    (h : History task (start size capacity source transport) events r) : ¬r.AwaitsAnswer := by
  induction h with
  | refl =>
      rintro ⟨block, hphase⟩
      cases hphase
  | @tail events e b c _ hhappens ih =>
      rintro ⟨block, hphase⟩
      cases e with
      | cutter deed =>
          obtain ⟨p, d, -, rfl⟩ := hhappens.cutter_does
          exact ih ⟨block, hphase⟩
      | uploader deed =>
          cases hhappens.uploader_does with
          | @began block' _ =>
              have hsome := Exchange.isSome_run hresponds b.transport (task.put block')
              have hanswer : ((task.put block').run task.transport b.transport).2 = none :=
                (UploadPhase.storing.inj hphase).2
              rw [hanswer] at hsome
              cases hsome
          | _ => cases hphase
      | fed event =>
          cases hhappens
          exact ih ⟨block, hphase⟩
      | abandoned =>
          cases hhappens
          cases hphase

theorem Conserved.not_awaitsSource (h : Conserved size capacity source events r)
    (hstop : (source ++ given events).stop?.isSome) : ¬r.AwaitsSource := by
  rintro ⟨-, sequence, buffer, hphase, hread⟩
  have hstands := h.account.stands
  simp only [Cutter.Stands, hphase] at hstands
  obtain ⟨-, ⟨-, hsame⟩, -⟩ := hstands
  rw [hsame, Source.read_eq_waiting hread] at hstop
  cases hstop

theorem not_abandoned (h : History task r events s) (hr : r.phase ≠ .abandoned)
    (hkept : .abandoned ∉ events) : s.phase ≠ .abandoned := by
  induction h with
  | refl => exact hr
  | @tail events e b c _ hhappens ih =>
      have hb := ih fun he => hkept (List.mem_append_left _ he)
      cases e with
      | cutter deed =>
          obtain ⟨p, d, -, rfl⟩ := hhappens.cutter_does
          exact hb
      | uploader deed =>
          intro habandoned
          cases hhappens.uploader_does <;> cases habandoned
      | fed event =>
          cases hhappens
          exact hb
      | abandoned => exact absurd (List.mem_append_right _ (List.mem_singleton_self _)) hkept

/-- The upload has a source that is known to its stop, and was not given up. -/
def Supplied (task : UploadTask σ) (size capacity : Nat) (source : Source) (transport : σ)
    (r : UploadRun σ) : Prop :=
  ∃ events, History task (start size capacity source transport) events r ∧
    (source ++ given events).stop?.isSome ∧ .abandoned ∉ events

theorem Supplied.step {transport : σ} (h : Supplied task size capacity source transport r)
    (hstep : Step task r s) : Supplied task size capacity source transport s := by
  obtain ⟨events, hevents, hstop, hkept⟩ := h
  obtain ⟨e, hhappens, he⟩ := hstep.happens
  refine ⟨events ++ [e], hevents.tail hhappens, ?_, ?_⟩
  · -- a step gives the source nothing
    rwa [given_snoc, fed?_of_isStep he, Option.toList_none, List.append_nil]
  · intro hmem
    rcases List.mem_append.mp hmem with hmem | hmem
    · exact hkept hmem
    · rw [← List.mem_singleton.mp hmem] at he
      cases he

theorem Supplied.goes_on (hsize : 0 < size) (hcapacity : 0 < capacity)
    (hresponds : task.transport.Responds) {transport : σ}
    (h : Supplied task size capacity source transport r) (hresult : ¬r.result?.isSome) :
    ∃ s, Step task r s := by
  obtain ⟨events, hevents, hstop, hkept⟩ := h
  have hstart : (start size capacity source transport).phase ≠ .abandoned := by
    intro habandoned
    cases habandoned
  have hway : r.UnderWay := ⟨by simpa using hresult, not_abandoned hevents hstart hkept⟩
  rcases (consistent_of_history hsize hcapacity hevents).goes_on hway with
    hstep | hsource | hanswer
  · exact hstep
  · have hconserved := (accounted_of_history hsize hevents).conserved
    exact absurd hsource (hconserved.not_awaitsSource hstop)
  · exact absurd hanswer (not_awaitsAnswer hresponds hevents)

/-- An upload with its source at hand returns where its puts are answered. -/
theorem Supplied.returns (hsize : 0 < size) (hcapacity : 0 < capacity)
    (hresponds : task.transport.Responds) {transport : σ}
    (h : Supplied task size capacity source transport r) {n : Nat} (hn : r.work ≤ n) :
    ComesWithin (Step task) (fun s => s.result?.isSome) n r :=
  comesWithin_of_measure (Supplied task size capacity source transport) work
    (fun hsupplied hstep => ⟨hsupplied.step hstep, work_lt_of_step hstep⟩)
    (fun hsupplied => hsupplied.goes_on hsize hcapacity hresponds) h hn

theorem work_le (h : r.channel.queue.length ≤ capacity) :
    r.work ≤ 6 * r.cutter.source.weight + 3 * capacity + 17 := by
  rw [work_eq, Nat.add_assoc]
  exact Nat.add_le_add_left (pace_le h) _

/-- How an upload goes on after its history. -/
structure Progress (task : UploadTask σ) (capacity : Nat) (source : Source)
    (events : List Event) (r : UploadRun σ) : Prop where
  /-- While it is under way, it can take a step or waits for an answer from
  outside. -/
  goesOn : r.UnderWay → (∃ s, Step task r s) ∨ r.AwaitsSource ∨ r.AwaitsAnswer
  /-- The two parties do not wait for each other. -/
  notDeadlocked : ¬(r.cutter.AwaitsRoom r.channel ∧ r.AwaitsBlock)
  /-- When the uploader waits for the end of the cutter, the cutter comes to it
  by steps that need no answer of the source. -/
  exits : r.AwaitsExit → CanExit task r
  /-- After a put that failed the upload returns the failure, whatever is left
  of its source. -/
  fails : ∀ before block cause after,
    events = before ++ .uploader (.notStored block cause) :: after → .abandoned ∉ after →
      ∀ rest : Source, ComesWithin (Step task)
        (fun s => s.result? = some (.error (task.blockFailure block.sequence cause)))
        (6 * rest.weight + 3 * capacity + 17) (r.withSource rest)
  /-- Every read pays for six steps. -/
  paid : events.countP isStep ≤ 6 * events.countP isRead + 10
  /-- With a source that stops and a transport that responds the upload
  returns. -/
  returns : task.transport.Responds → (source ++ given events).stop?.isSome →
    .abandoned ∉ events → ComesWithin (Step task) (fun s => s.result?.isSome)
      (6 * r.cutter.source.weight + 3 * capacity + 17) r

/-- **An upload cannot get stuck**, whatever happened to it. -/
theorem progress_of_history (hsize : 0 < size) (hcapacity : 0 < capacity) {transport : σ}
    (h : History task (start size capacity source transport) events r) :
    Progress task capacity source events r := by
  have hconsistent := consistent_of_history hsize hcapacity h
  have hbounded := (accounted_of_history hsize h).conserved.bounded
  refine ⟨hconsistent.goes_on, hconsistent.not_deadlocked, hconsistent.canExit, ?_, ?_, ?_⟩
  · rintro before block cause after rfl hkept rest
    obtain ⟨b, d, -, hnot, hafter⟩ := h.of_append_cons
    -- what is left of the source plays no part from there on
    have hfails : Fails task block.sequence cause d := by
      cases hnot.uploader_does with
      | notStored => exact ⟨rfl, rfl⟩
    have hnow := hfails.history hafter hkept
    exact Fails.returns (r := r.withSource rest) hnow (work_le (r := r.withSource rest) hbounded)
  · have hpaid := pace_history h
    have hstart : (start size capacity source transport).pace = 10 := rfl
    rw [hstart] at hpaid
    omega
  · intro hresponds hstop hkept
    have hsupplied : Supplied task size capacity source transport r := ⟨events, h, hstop, hkept⟩
    exact hsupplied.returns hsize hcapacity hresponds (work_le hbounded)

/-- An upload to a service that responds, whose source gave three bytes and no
end. The first block was taken, and the cutter waits for more of the second
one. -/
theorem progress_of_history_waiting :
    0 < 2 ∧ 0 < 1 ∧ (Transport.answering Uploader.takesOne).Responds ∧ ∃ events r,
      History (Uploader.ofTwoBytes.serving "log" (fun _ => ⟨0⟩) Uploader.takesOne)
          (start 2 1 [.bytes [1, 2, 3]] []) events r ∧
        r.phase = .sending ⟨0, [1, 2]⟩ ∧ r.AwaitsSource ∧
        Progress (Uploader.ofTwoBytes.serving "log" (fun _ => ⟨0⟩) Uploader.takesOne) 1
          [.bytes [1, 2, 3]] events r := by
  have hsize : 0 < 2 := by decide
  have hcapacity : 0 < 1 := by decide
  have hhistory : History (Uploader.ofTwoBytes.serving "log" (fun _ => ⟨0⟩) Uploader.takesOne)
      (start 2 1 [.bytes [1, 2, 3]] [])
      [.cutter (.got [1, 2]), .cutter .inner, .cutter (.sent ⟨0, [1, 2]⟩),
        .uploader (.took ⟨0, [1, 2]⟩), .cutter (.got [3])]
      ⟨⟨2, [], 3, .filling 1 [3]⟩, ⟨1, [], .listening⟩, false, .sending ⟨0, [1, 2]⟩, [],
        ⟨0, 0⟩, []⟩ :=
    .head (.cutter rfl rfl) <| .head (.cutter rfl rfl) <| .head (.cutter rfl rfl) <|
      .head (.uploader rfl rfl) <| .head (.cutter rfl rfl) .refl
  exact ⟨hsize, hcapacity, Transport.responds_answering _, _, _, hhistory, rfl,
    ⟨rfl, 1, [3], rfl, rfl⟩, progress_of_history hsize hcapacity hhistory⟩

end UploadRun
end ObjectStore
