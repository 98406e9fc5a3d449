import ObjectStore.Proofs.Upload.Joint
import ObjectStore.Proofs.Upload.Schedules

/-!
# The flow of blocks through an upload

In every history of an upload, blocks go one way: the cutter puts them into the
channel, the uploader takes them out and puts them one after the other. None is
lost or taken twice while the channel is in place, and the cutter is never more
than the channel and one block ahead. A put that failed is the last one.
-/

namespace ObjectStore

open CutterDeed

namespace Cutter

/-- The places that the cutter was given and has still to fill. -/
def places (p : Cutter) : Nat :=
  match p.phase with
  | .placing _ _ => 1
  | _ => 0

section

variable {cancelled : Bool} {p q : Cutter} {c d : Channel} {deed : CutterDeed}

/-- A block takes the place that was given for it, and a place is given only
where there is room. -/
theorem Does.places_add (h : Does cancelled p c deed q d) :
    q.places + deed.placed?.toList.length ≤ p.places ∨
      (deed = .inner ∧ q.places = 1 ∧ c.receiver = .listening ∧ c.hasRoom = true) := by
  by_cases hplacing : ∃ block last, q.phase = .placing block last
  · obtain ⟨block, last, hphase⟩ := hplacing
    obtain ⟨-, hinner, -, hlisten, hroom⟩ := h.reserved hphase
    have hplaces : q.places = 1 := by simp only [places, hphase]
    exact .inr ⟨hinner, hplaces, hlisten, hroom⟩
  · left
    have hplaces : q.places = 0 := by
      unfold places
      split
      · next hphase => exact absurd ⟨_, _, hphase⟩ hplacing
      · rfl
    cases hplaced : deed.placed? with
    | none => simp [hplaces]
    | some block =>
        obtain ⟨last, hphase⟩ := h.placing hplaced
        have hplace : p.places = 1 := by simp only [places, hphase]
        simp [hplaces, hplace]

end

end Cutter

namespace UploadRun

open Event

variable {σ : Type}

/-- Where the blocks of an upload are after its history. -/
structure Conserved (size capacity : Nat) (source : Source) (events : List Event)
    (r : UploadRun σ) : Prop where
  account : Cutter.Account size (source ++ given events) (deeds events) r.cutter
  capacity_eq : r.channel.capacity = capacity
  /-- A channel that is gone holds no blocks. -/
  empty : r.channel.receiver = .dropped → r.channel.queue = []
  queued : r.channel.receiver ≠ .dropped → taken events ++ r.channel.queue = enqueued events
  sent_eq : r.channel.receiver ≠ .dropped → enqueued events = placed (deeds events)
  taken_isPrefix : taken events <+: enqueued events
  enqueued_isPrefix : enqueued events <+: placed (deeds events)
  /-- The blocks that were placed or have a place are no more than a channel
  ahead of those that were taken. -/
  ahead : (placed (deeds events)).length + r.cutter.places ≤ (taken events).length + capacity

/-- Puts were begun one after the other, for blocks that were taken. -/
structure OneByOne (events : List Event) : Prop where
  puts_isPrefix : puts events <+: taken events
  stored_isPrefix : storedBlocks events <+: puts events
  length_le : (puts events).length ≤ (storedBlocks events).length + 1

/-- How far the puts are, by what the uploader is doing. -/
def Stage (events : List Event) : UploadPhase → Prop
  | .receiving => taken events = puts events ∧ storedBlocks events = puts events
  | .sending block => taken events = puts events ++ [block] ∧ storedBlocks events = puts events
  | .storing block _ => taken events = puts events ∧ puts events = storedBlocks events ++ [block]
  | _ => OneByOne events

variable {task : UploadTask σ} {size capacity : Nat} {source : Source} {events : List Event}
  {r s : UploadRun σ}

theorem conserved_start (hsize : 0 < size) (capacity : Nat) (source : Source) (transport : σ) :
    Conserved size capacity source [] (start size capacity source transport) := by
  refine ⟨?_, rfl, fun _ => rfl, fun _ => rfl, fun _ => rfl, List.prefix_refl _,
    List.prefix_refl _, ?_⟩
  · show Cutter.Account size (source ++ []) [] (.start size source)
    rw [List.append_nil]
    exact Cutter.account_start hsize source
  · exact Nat.zero_le _

theorem Conserved.cutter (hsize : 0 < size) (h : Conserved size capacity source events r)
    {deed : CutterDeed} {p : Cutter} {c : Channel}
    (hdoes : Cutter.Does r.cancelled r.cutter r.channel deed p c) :
    Conserved size capacity source (events ++ [.cutter deed])
      { r with cutter := p, channel := c } := by
  have hdeeds : deeds (events ++ [.cutter deed]) = deeds events ++ [deed] := deeds_snoc ..
  have hgiven : given (events ++ [.cutter deed]) = given events := by simp [fed?]
  have htaken : taken (events ++ [.cutter deed]) = taken events := by simp [took?]
  have hsent : enqueued (events ++ [.cutter deed]) = enqueued events ++ deed.sent?.toList := by
    rw [enqueued, hdeeds, sentBlocks_append, sentBlocks_singleton, enqueued]
  have hplaced : placed (deeds events ++ [deed]) =
      placed (deeds events) ++ deed.placed?.toList := by
    rw [placed_append, placed_singleton]
  obtain rfl := hdoes.channel
  refine ⟨?_, h.capacity_eq, ?_, ?_, ?_, ?_, ?_, ?_⟩
  · rw [hdeeds, hgiven]
    exact h.account.does hsize hdoes
  · intro hdropped
    rw [hdoes.sent_of_dropped hdropped, h.empty hdropped]
    rfl
  · intro hreceiver
    rw [htaken, hsent, ← h.queued hreceiver, List.append_assoc]
  · intro hreceiver
    rw [hsent, hdeeds, hplaced, h.sent_eq hreceiver, hdoes.sent_eq hreceiver]
  · rw [htaken, hsent]
    exact h.taken_isPrefix.trans (List.prefix_append ..)
  · rw [hsent, hdeeds, hplaced]
    by_cases hreceiver : r.channel.receiver = .dropped
    · rw [hdoes.sent_of_dropped hreceiver, Option.toList_none, List.append_nil]
      exact h.enqueued_isPrefix.trans (List.prefix_append ..)
    · have hsame : enqueued events ++ deed.sent?.toList =
          placed (deeds events) ++ deed.placed?.toList := by
        rw [hdoes.sent_eq hreceiver, h.sent_eq hreceiver]
      exact hsame ▸ List.prefix_refl _
  · rw [hdeeds, hplaced, htaken, List.length_append]
    have hahead := h.ahead
    rcases hdoes.places_add with hplaces | ⟨rfl, hplaces, hlisten, hroom⟩
    · show _ + p.places ≤ _
      omega
    · -- while there is room, blocks that are queued leave a place
      have hreceiver : r.channel.receiver ≠ .dropped := by
        rw [hlisten]
        decide
      have hqueued := congrArg List.length
        ((h.queued hreceiver).trans (h.sent_eq hreceiver))
      rw [List.length_append] at hqueued
      simp only [Channel.hasRoom, decide_eq_true_eq, h.capacity_eq] at hroom
      simp only [placed?, Option.toList_none, List.length_nil]
      show _ + p.places ≤ _
      omega

theorem Conserved.keep (h : Conserved size capacity source events r) {e : Event}
    (hdeed : e.deed? = none) (hfed : e.fed? = none) (htook : e.took? = none)
    (hcutter : s.cutter = r.cutter) (hchannel : s.channel = r.channel) :
    Conserved size capacity source (events ++ [e]) s := by
  have hdeeds : deeds (events ++ [e]) = deeds events := by simp [hdeed]
  have hgiven : given (events ++ [e]) = given events := by simp [hfed]
  have htaken : taken (events ++ [e]) = taken events := by simp [htook]
  obtain ⟨haccount, hcapacity, hempty, hqueued, hsent, hfirst, hbegins, hahead⟩ := h
  refine ⟨?_, ?_, ?_, ?_, ?_, ?_, ?_, ?_⟩ <;>
    simpa only [enqueued, hdeeds, hgiven, htaken, hcutter, hchannel]

theorem Conserved.drop (h : Conserved size capacity source events r) {e : Event}
    (hdeed : e.deed? = none) (hfed : e.fed? = none) (htook : e.took? = none)
    (hcutter : s.cutter = r.cutter) (hchannel : s.channel = r.channel.drop) :
    Conserved size capacity source (events ++ [e]) s := by
  have hkept : Conserved size capacity source (events ++ [e]) { s with channel := r.channel } :=
    h.keep hdeed hfed htook hcutter rfl
  have hgone : s.channel.receiver = .dropped := by
    rw [hchannel]
    rfl
  refine ⟨hkept.account, ?_, ?_, ?_, ?_, hkept.taken_isPrefix, hkept.enqueued_isPrefix,
    hkept.ahead⟩
  · rw [hchannel]
    exact h.capacity_eq
  · intro _
    rw [hchannel]
    rfl
  · exact fun hreceiver => absurd hgone hreceiver
  · exact fun hreceiver => absurd hgone hreceiver

theorem Conserved.take (h : Conserved size capacity source events r) {block : Block}
    {rest : List Block} (hqueue : r.channel.queue = block :: rest)
    (hcutter : s.cutter = r.cutter)
    (hchannel : s.channel = ⟨r.channel.capacity, rest, r.channel.receiver⟩) :
    Conserved size capacity source (events ++ [.uploader (.took block)]) s := by
  have hdeeds : deeds (events ++ [.uploader (.took block)]) = deeds events := by simp [deed?]
  have hgiven : given (events ++ [.uploader (.took block)]) = given events := by simp [fed?]
  have htaken : taken (events ++ [.uploader (.took block)]) = taken events ++ [block] :=
    taken_snoc ..
  have hsame : enqueued (events ++ [.uploader (.took block)]) = enqueued events := by
    rw [enqueued, hdeeds, enqueued]
  -- there is a block, so the channel is in place
  have hreceiver : r.channel.receiver ≠ .dropped := by
    intro hdropped
    rw [h.empty hdropped] at hqueue
    cases hqueue
  have hqueued := h.queued hreceiver
  rw [hqueue, ← List.singleton_append, ← List.append_assoc] at hqueued
  refine ⟨?_, ?_, ?_, ?_, ?_, ?_, ?_, ?_⟩
  · rw [hdeeds, hgiven, hcutter]
    exact h.account
  · rw [hchannel]
    exact h.capacity_eq
  · rw [hchannel]
    exact fun hdropped => absurd hdropped hreceiver
  · intro _
    rw [htaken, hchannel, hsame]
    exact hqueued
  · intro _
    rw [hsame, hdeeds]
    exact h.sent_eq hreceiver
  · rw [htaken, hsame, ← hqueued]
    exact List.prefix_append ..
  · rw [hsame, hdeeds]
    exact h.enqueued_isPrefix
  · rw [hdeeds, hcutter, htaken, List.length_append]
    exact Nat.le_trans h.ahead (by omega)

theorem Conserved.uploader (h : Conserved size capacity source events r) {deed : UploaderDeed}
    (hdoes : Does task r deed s) :
    Conserved size capacity source (events ++ [.uploader deed]) s := by
  cases hdoes with
  | took _ hqueue => exact h.take hqueue rfl rfl
  | drop => exact h.drop rfl rfl rfl rfl rfl
  | finish => exact h.keep rfl rfl rfl rfl rfl
  | began => exact h.keep rfl rfl rfl rfl rfl
  | stored => exact h.keep rfl rfl rfl rfl rfl
  | notStored => exact h.keep rfl rfl rfl rfl rfl
  | cancel => exact h.keep rfl rfl rfl rfl rfl
  | fail => exact h.keep rfl rfl rfl rfl rfl
  | join => exact h.keep rfl rfl rfl rfl rfl

theorem Conserved.feed (h : Conserved size capacity source events r) (event : SourceEvent) :
    Conserved size capacity source (events ++ [.fed event]) (r.feed event) := by
  have hdeeds : deeds (events ++ [.fed event]) = deeds events := by simp [deed?]
  have htaken : taken (events ++ [.fed event]) = taken events := by simp [took?]
  have hgiven : source ++ given (events ++ [.fed event]) = source ++ given events ++ [event] := by
    rw [List.append_assoc]
    exact congrArg _ (given_snoc ..)
  obtain ⟨haccount, hcapacity, hempty, hqueued, hsent, hfirst, hbegins, hahead⟩ := h
  refine ⟨?_, hcapacity, hempty, ?_, ?_, ?_, ?_, ?_⟩
  · rw [hdeeds, hgiven]
    exact haccount.feed [event]
  · rw [htaken, enqueued, hdeeds]
    exact hqueued
  · rw [enqueued, hdeeds]
    exact hsent
  · rw [htaken, enqueued, hdeeds]
    exact hfirst
  · rw [enqueued, hdeeds]
    exact hbegins
  · rw [hdeeds, htaken]
    exact hahead

/-! ## Puts -/

theorem Stage.oneByOne {phase : UploadPhase} (h : Stage events phase) : OneByOne events := by
  cases phase with
  | receiving =>
      obtain ⟨htaken, hstored⟩ := h
      exact ⟨htaken ▸ List.prefix_refl _, hstored ▸ List.prefix_refl _, by rw [hstored]; omega⟩
  | sending block =>
      obtain ⟨htaken, hstored⟩ := h
      exact ⟨htaken ▸ List.prefix_append .., hstored ▸ List.prefix_refl _, by rw [hstored]; omega⟩
  | storing block answer =>
      obtain ⟨htaken, hputs⟩ := h
      exact ⟨htaken ▸ List.prefix_refl _, hputs ▸ List.prefix_append ..,
        by rw [hputs, List.length_append]; exact Nat.le_refl _⟩
  | _ => exact h

section Keep

variable {e : Event} (htook : e.took? = none) (hbegan : e.began? = none)
  (hstored : e.stored? = none)

include htook hbegan hstored

theorem keep_blocks (events : List Event) :
    taken (events ++ [e]) = taken events ∧ puts (events ++ [e]) = puts events ∧
      storedBlocks (events ++ [e]) = storedBlocks events := by
  simp [htook, hbegan, hstored]

theorem OneByOne.keep (h : OneByOne events) : OneByOne (events ++ [e]) := by
  obtain ⟨htaken, hputs, hdone⟩ := keep_blocks htook hbegan hstored events
  obtain ⟨hfirst, hsecond, hlength⟩ := h
  exact ⟨by rwa [hputs, htaken], by rwa [hdone, hputs], by rwa [hputs, hdone]⟩

theorem Stage.keep {phase : UploadPhase} (h : Stage events phase) :
    Stage (events ++ [e]) phase := by
  obtain ⟨htaken, hputs, hdone⟩ := keep_blocks htook hbegan hstored events
  cases phase with
  | receiving => simpa only [Stage, htaken, hputs, hdone] using h
  | sending block => simpa only [Stage, htaken, hputs, hdone] using h
  | storing block answer => simpa only [Stage, htaken, hputs, hdone] using h
  | _ => exact OneByOne.keep htook hbegan hstored h

end Keep

theorem Stage.uploader (h : Stage events r.phase) {deed : UploaderDeed}
    (hdoes : Does task r deed s) : Stage (events ++ [.uploader deed]) s.phase := by
  have hone := h.oneByOne
  cases hdoes with
  | took hphase =>
      rw [hphase] at h
      obtain ⟨htaken, hstored⟩ := h
      simp [Stage, htaken, hstored, took?, began?, stored?]
  | began hphase =>
      rw [hphase] at h
      obtain ⟨htaken, hstored⟩ := h
      simp [Stage, store, htaken, hstored, took?, began?, stored?]
  | stored hphase =>
      rw [hphase] at h
      obtain ⟨htaken, hputs⟩ := h
      simp [Stage, htaken, hputs, took?, began?, stored?]
  | finish => exact hone.keep rfl rfl rfl
  | notStored => exact hone.keep rfl rfl rfl
  | cancel => exact hone.keep rfl rfl rfl
  | drop => exact hone.keep rfl rfl rfl
  | fail => exact hone.keep rfl rfl rfl
  | join => exact hone.keep rfl rfl rfl

/-! ## Histories -/

/-- What holds of an upload after its history. -/
structure Accounted (size capacity : Nat) (source : Source) (events : List Event)
    (r : UploadRun σ) : Prop where
  conserved : Conserved size capacity source events r
  stage : Stage events r.phase

theorem accounted_start (hsize : 0 < size) (capacity : Nat) (source : Source) (transport : σ) :
    Accounted size capacity source [] (start size capacity source transport) :=
  ⟨conserved_start hsize capacity source transport, rfl, rfl⟩

/-- Whatever happens to an upload, its blocks are accounted for. -/
theorem Accounted.happens (hsize : 0 < size) (h : Accounted size capacity source events r)
    {e : Event} (hhappens : Happens task r e s) :
    Accounted size capacity source (events ++ [e]) s := by
  obtain ⟨hconserved, hstage⟩ := h
  cases e with
  | cutter deed =>
      obtain ⟨p, c, hdoes, rfl⟩ := hhappens.cutter_does
      exact ⟨hconserved.cutter hsize hdoes, hstage.keep rfl rfl rfl⟩
  | uploader deed =>
      have hdoes := hhappens.uploader_does
      exact ⟨hconserved.uploader hdoes, hstage.uploader hdoes⟩
  | fed event =>
      cases hhappens
      exact ⟨hconserved.feed event, hstage.keep rfl rfl rfl⟩
  | abandoned =>
      cases hhappens
      exact ⟨hconserved.drop rfl rfl rfl rfl rfl,
        hstage.oneByOne.keep rfl rfl rfl⟩

theorem accounted_of_history (hsize : 0 < size) {transport : σ}
    (h : History task (start size capacity source transport) events r) :
    Accounted size capacity source events r := by
  induction h with
  | refl => exact accounted_start hsize capacity source transport
  | tail _ hhappens ih => exact ih.happens hsize hhappens

def Halted (r : UploadRun σ) : Prop :=
  match r.phase with
  | .receiving => False
  | .sending _ => False
  | .storing _ _ => False
  | _ => True

theorem Halted.happens (h : r.Halted) {e : Event} (hhappens : Happens task r e s) :
    s.Halted ∧ e.took? = none ∧ e.began? = none := by
  cases e with
  | cutter deed =>
      obtain ⟨p, c, -, rfl⟩ := hhappens.cutter_does
      exact ⟨h, rfl, rfl⟩
  | uploader deed =>
      cases hhappens.uploader_does with
      | took hphase => simp only [Halted, hphase] at h
      | began hphase => simp only [Halted, hphase] at h
      | stored hphase => simp only [Halted, hphase] at h
      | _ => exact ⟨trivial, rfl, rfl⟩
  | fed event =>
      cases hhappens
      exact ⟨h, rfl, rfl⟩
  | abandoned =>
      cases hhappens
      exact ⟨trivial, rfl, rfl⟩

theorem Halted.history (h : r.Halted) (hlater : History task r events s) :
    taken events = [] ∧ puts events = [] := by
  obtain ⟨-, hnone⟩ := hlater.keeps
    (R := fun e => e.took? = none ∧ e.began? = none) (fun hb hstep => hb.happens hstep) h
  exact ⟨List.filterMap_eq_nil_iff.mpr fun e he => (hnone e he).1,
    List.filterMap_eq_nil_iff.mpr fun e he => (hnone e he).2⟩

/-! ## The flow -/

/-- The flow of blocks through an upload after its history. -/
structure Flow (size capacity : Nat) (source : Source) (events : List Event)
    (r : UploadRun σ) : Prop where
  /-- No more blocks wait than there is room for. -/
  bounded : r.channel.queue.length ≤ capacity
  /-- While the channel is in place, the blocks that were taken and those that
  wait are all that came into it. -/
  noLoss : r.channel.receiver ≠ .dropped → taken events ++ r.channel.queue = enqueued events
  /-- Blocks are taken in the order in which they came. -/
  inOrder : taken events <+: enqueued events
  /-- Those are the first blocks of the source. -/
  firstBlocks : enqueued events <+: (source ++ given events).blocks size
  /-- The next put begins when all others have ended well, and it is the put of
  the next block. -/
  inTurn : ∀ before block after, events = before ++ .uploader (.began block) :: after →
    block.sequence = (puts before).length ∧ storedBlocks before = puts before
  /-- One put at most is under way. -/
  oneByOne : OneByOne events
  /-- The cutter is not more than the channel and one block ahead. -/
  ahead : r.cutter.consumed ≤ ((taken events).length + capacity + 1) * size
  /-- A put that failed is the last one, and no block is taken after it. -/
  halted : ∀ before block cause after,
    events = before ++ .uploader (.notStored block cause) :: after →
      taken after = [] ∧ puts after = []

theorem Conserved.bounded (h : Conserved size capacity source events r) :
    r.channel.queue.length ≤ capacity := by
  by_cases hreceiver : r.channel.receiver = .dropped
  · rw [h.empty hreceiver]
    exact Nat.zero_le _
  · have hqueued := congrArg List.length ((h.queued hreceiver).trans (h.sent_eq hreceiver))
    have hahead := h.ahead
    rw [List.length_append] at hqueued
    omega

theorem Conserved.sequence_eq (h : Conserved size capacity source events r) {i : Nat}
    {block : Block} (hblock : (taken events)[i]? = some block) : block.sequence = i := by
  obtain ⟨hi, hget⟩ := List.getElem?_eq_some_iff.mp hblock
  obtain ⟨rest, hrest⟩ := h.taken_isPrefix.trans h.enqueued_isPrefix
  have hplaced : (placed (deeds events))[i]? = some block := by
    rw [← hrest, List.getElem?_append_left hi, hblock]
  rw [h.account.placed_eq, getElem?_numbered] at hplaced
  obtain ⟨part, -, rfl⟩ := Option.map_eq_some_iff.mp hplaced
  exact Nat.zero_add i

/-- No more is read than the blocks that were placed and one more. -/
theorem Conserved.consumed_le (h : Conserved size capacity source events r) :
    r.cutter.consumed ≤ ((taken events).length + capacity + 1) * size := by
  have hahead := h.ahead
  rw [h.account.consumed_eq]
  refine Nat.le_trans h.account.bounded (Nat.mul_le_mul_right size ?_)
  rw [parts, List.length_map]
  omega

/-- **Blocks flow through every upload in order**, none is lost, and the
cutter does not run ahead. -/
theorem flow_of_history (hsize : 0 < size) {transport : σ}
    (h : History task (start size capacity source transport) events r) :
    Flow size capacity source events r := by
  obtain ⟨hconserved, hstage⟩ := accounted_of_history hsize h
  refine ⟨hconserved.bounded, hconserved.queued, hconserved.taken_isPrefix,
    hconserved.enqueued_isPrefix.trans (hconserved.account.placed_isPrefix hsize), ?_,
    hstage.oneByOne, hconserved.consumed_le, ?_⟩
  · rintro before block after rfl
    obtain ⟨b, d, hbefore, hbegan, -⟩ := h.of_append_cons
    obtain ⟨hthen, hphase⟩ := accounted_of_history hsize hbefore
    cases hbegan.uploader_does with
    | began hsending =>
        -- the block was taken last, and all that were taken before have been put
        rw [hsending] at hphase
        obtain ⟨htaken, hstored⟩ := hphase
        refine ⟨hthen.sequence_eq ?_, hstored⟩
        rw [htaken, List.getElem?_concat_length]
  · rintro before block cause after rfl
    obtain ⟨b, d, -, hnot, hafter⟩ := h.of_append_cons
    -- from there on the uploader is only about to return
    have hhalted : d.Halted := by
      cases hnot.uploader_does with
      | notStored => trivial
    exact hhalted.history hafter

/-- An upload whose second block is not stored, up to its return. -/
theorem flow_of_history_ofTwoBytes :
    0 < 2 ∧ ∃ events r,
      History (Uploader.ofTwoBytes.serving "log" (fun _ => ⟨0⟩) Uploader.takesOne)
          (start 2 1 [.bytes [1, 2, 3], .ended] []) events r ∧ r.result?.isSome ∧
        Flow 2 1 [.bytes [1, 2, 3], .ended] events r := by
  have hsize : 0 < 2 := by decide
  have hrun := run_settle (Uploader.ofTwoBytes.serving "log" (fun _ => ⟨0⟩) Uploader.takesOne)
    (start 2 1 [.bytes [1, 2, 3], .ended] [])
  have hrest := atRest_settle (Uploader.ofTwoBytes.serving "log" (fun _ => ⟨0⟩) Uploader.takesOne)
    (start 2 1 [.bytes [1, 2, 3], .ended] [])
  have hstop : Source.stop? [.bytes [1, 2, 3], .ended] = some .ended := rfl
  obtain ⟨result, hresult⟩ := Uploader.returned_of_atRest (u := Uploader.ofTwoBytes) (by decide)
    (by decide) hstop hrun hrest
  obtain ⟨events, hhistory, -⟩ := history_of_run hrun
  exact ⟨hsize, events, _, hhistory, Option.isSome_iff_exists.mpr ⟨result, hresult⟩,
    flow_of_history hsize hhistory⟩

end UploadRun
end ObjectStore
