import ObjectStore.Proofs.Data.Trace
import ObjectStore.Proofs.Upload.Deeds
import ObjectStore.Upload.Supply

/-!
# Cutters among others

A cutter runs beside someone who receives its blocks, stops it, goes away or
lets its source give more, at any moment and in any order. Whatever the others
do, the blocks that it sends are the first blocks of its source.

A cutter does not look whether it was stopped between being given a place and
filling it. So of all blocks the one whose place was reserved when the cutter was
stopped may still be sent, and if the receiver was dropped this one is lost,
though the cutter counts it.
-/

namespace ObjectStore

open CutterDeed

namespace Supply

/-- Something that happens to a cutter with its channel: a deed of the
cutter, or an action of others. -/
inductive Event where
  | cutter (deed : CutterDeed)
  | outside (action : Action)
  deriving DecidableEq, Repr

namespace Event

def deed? : Event → Option CutterDeed
  | .cutter deed => some deed
  | .outside _ => none

def fed? : Event → Option SourceEvent
  | .outside (.feed event) => some event
  | _ => none

def deeds (events : List Event) : List CutterDeed := events.filterMap deed?

def fed (events : List Event) : Source := events.filterMap fed?

def enqueued (events : List Event) : List Block := sentBlocks (deeds events)

def undelivered (events : List Event) : List Block := lostBlocks (deeds events)

@[simp] theorem fed_cutter (deed : CutterDeed) : fed [.cutter deed] = [] := rfl

@[simp] theorem deeds_cutter (deed : CutterDeed) : deeds [.cutter deed] = [deed] := rfl

@[simp] theorem deeds_outside (action : Action) : deeds [.outside action] = [] := rfl

@[simp] theorem fed_append (events later : List Event) :
    fed (events ++ later) = fed events ++ fed later :=
  List.filterMap_append

@[simp] theorem deeds_append (events later : List Event) :
    deeds (events ++ later) = deeds events ++ deeds later :=
  List.filterMap_append

@[simp] theorem enqueued_append (events later : List Event) :
    enqueued (events ++ later) = enqueued events ++ enqueued later := by
  rw [enqueued, deeds_append, sentBlocks_append, enqueued, enqueued]

@[simp] theorem enqueued_cutter (deed : CutterDeed) :
    enqueued [.cutter deed] = deed.sent?.toList :=
  sentBlocks_singleton deed

@[simp] theorem undelivered_append (events later : List Event) :
    undelivered (events ++ later) = undelivered events ++ undelivered later := by
  rw [undelivered, deeds_append, lostBlocks, List.filterMap_append]
  rfl

@[simp] theorem undelivered_cutter (deed : CutterDeed) :
    undelivered [.cutter deed] = deed.lost?.toList := by
  cases h : deed.lost? <;> simp [undelivered, lostBlocks, h]

end Event

open Event

def Action.stops : Action → Bool
  | .cancel => true
  | .close => true
  | .dropReceiver => true
  | _ => false

/-- A step of a cutter or of the others, who may act at any moment. -/
inductive Step : Supply → Event → Supply → Prop where
  | cutter {s : Supply} {deed : CutterDeed} {p : Cutter} {c : Channel} :
      s.cutter.step s.cancelled s.channel = some (p, c) →
      s.cutter.deed s.cancelled s.channel = deed → Step s (.cutter deed) ⟨p, c, s.cancelled⟩
  | outside {s : Supply} (action : Action) : Step s (.outside action) (s.act action).2

theorem Step.does {s t : Supply} {deed : CutterDeed} (h : Step s (.cutter deed) t) :
    ∃ p c, Cutter.Does s.cancelled s.cutter s.channel deed p c ∧ t = ⟨p, c, s.cancelled⟩ := by
  cases h with
  | cutter hstep hdeed => exact ⟨_, _, hdeed ▸ Cutter.does_of_step hstep, rfl⟩

theorem Step.acts {s t : Supply} {action : Action} (h : Step s (.outside action) t) :
    t = (s.act action).2 := by
  cases h
  rfl

abbrev Run : Supply → List Event → Supply → Prop := Trace Step

theorem Step.unique {s t u : Supply} {e : Event} (h : Step s e t) (h' : Step s e u) : t = u := by
  cases h with
  | cutter hstep =>
      cases h' with
      | cutter hstep' =>
          obtain ⟨rfl, rfl⟩ := Prod.mk.inj (Option.some.inj (hstep.symm.trans hstep'))
          rfl
  | outside => exact h'.acts.symm

theorem Run.unique {s t u : Supply} {events : List Event} (h : Run s events t)
    (h' : Run s events u) : t = u :=
  Trace.unique (fun _ _ _ _ hstep hstep' => hstep.unique hstep') h h'

/-- The block whose place was reserved and is not filled yet. -/
def reserved? (s : Supply) : Option Block :=
  match s.cutter.phase with
  | .placing block _ => some block
  | _ => none

theorem reserved?_eq_some {s : Supply} {block : Block} :
    s.reserved? = some block ↔ ∃ last, s.cutter.phase = .placing block last := by
  unfold reserved?
  split
  · next hphase => simp [hphase]
  · next hother =>
      refine ⟨(by cases ·), ?_⟩
      rintro ⟨last, hphase⟩
      exact absurd hphase (hother block last)

/-- The receiver was dropped when the place of the block was reserved. -/
def LostPlace (first : Supply) (events : List Event) (block : Block) : Prop :=
  ∃ before state after, events = before ++ .outside .dropReceiver :: after ∧
    Run first before state ∧ state.reserved? = some block

/-- A cutter does what it is for, as far as it went. -/
structure Faithful (size capacity : Nat) (source : Source) (events : List Event) (s : Supply) :
    Prop where
  /-- The first blocks of the source come into the channel, and a block that is lost is the
  next one. -/
  inOrder : enqueued events ++ undelivered events <+: (source ++ fed events).blocks size
  sequences : ∀ i (block : Block), (enqueued events)[i]? = some block → block.sequence = i
  /-- A block shorter than the others is the last one, and the end was read
  before. -/
  shortLast : ∀ before block after, events = before ++ .cutter (.sent block) :: after →
    block.length < size → .cutter .foundEnd ∈ before ∧ enqueued after = []
  /-- After the cutter was stopped nothing is enqueued but the block whose place was
  reserved then. -/
  stopped : ∀ before action after state, events = before ++ .outside action :: after →
    action.stops = true → Run (start size capacity source) before state →
      enqueued after <+: state.reserved?.toList
  /-- After the receiver was dropped nothing is enqueued at all. -/
  dropped : ∀ before after, events = before ++ .outside .dropReceiver :: after →
    enqueued after = []
  lostPlace : ∀ block ∈ undelivered events, LostPlace (start size capacity source) events block
  lostOnce : (undelivered events).length ≤ 1
  /-- The cutter completes only when it has read the end and sent all blocks, a lost one
  included. -/
  completed : ∀ blocks, s.cutter.exit? = some (.completed blocks) →
    .cutter .foundEnd ∈ events ∧
      enqueued events ++ undelivered events = (source ++ fed events).blocks size ∧
      blocks = (enqueued events ++ undelivered events).length ∧
      blocks = ((source ++ fed events).content.length + size - 1) / size
  /-- It fails only with the fault that it read, and has then sent the whole blocks before
  it, a lost one included, and dropped the rest. -/
  failed : ∀ e, s.cutter.exit? = some (.failed e) →
    .cutter (.foundFault e) ∈ events ∧
      enqueued events ++ undelivered events =
        numbered 0 ((pieces size (bytesRead (deeds events))).filter (·.length = size))
  /-- It is cancelled only when it was told to stop or the receiver was
  closed or went away. -/
  cancelled : s.cutter.exit? = some .cancelled →
    .outside .cancel ∈ events ∨ .outside .dropReceiver ∈ events ∨ .outside .close ∈ events

/-! ## What every step keeps -/

/-- What holds of a cutter after some events, whatever they were. -/
structure Sound (size : Nat) (source : Source) (events : List Event) (s : Supply) : Prop where
  account : Cutter.Account size (source ++ fed events) (deeds events) s.cutter
  placed_eq : placed (deeds events) = enqueued events ++ undelivered events
  lostOnce : (undelivered events).length ≤ 1
  /-- A block is lost once the receiver is gone, and then no place is given any more. -/
  spent : undelivered events ≠ [] → s.channel.receiver = .dropped ∧ s.reserved? = none
  told : s.cancelled = true → .outside .cancel ∈ events
  gone : s.channel.receiver ≠ .listening →
    .outside .dropReceiver ∈ events ∨ .outside .close ∈ events
  stopped : s.cutter.ending? = some .cancelled →
    s.cancelled = true ∨ s.channel.receiver ≠ .listening

variable {size : Nat} {source : Source} {events : List Event} {s t : Supply}

theorem sound_start (hsize : 0 < size) (capacity : Nat) (source : Source) :
    Sound size source [] (start size capacity source) := by
  refine ⟨?_, rfl, Nat.zero_le _, ?_, ?_, ?_, ?_⟩
  · show Cutter.Account size (source ++ []) [] (.start size source)
    rw [List.append_nil]
    exact Cutter.account_start hsize source
  · intro h
    exact absurd rfl h
  · intro h
    cases h
  · intro h
    exact absurd rfl h
  · intro h
    cases h

theorem receive_frame (s : Supply) :
    s.receive.2.cutter = s.cutter ∧ s.receive.2.cancelled = s.cancelled ∧
      s.receive.2.channel.receiver = s.channel.receiver := by
  unfold receive
  split
  · exact ⟨rfl, rfl, rfl⟩
  · split
    · next htake => exact ⟨rfl, rfl, (Channel.take_eq_some htake).2.2⟩
    · split <;> exact ⟨rfl, rfl, rfl⟩

theorem act_cutter (s : Supply) (action : Action) :
    (s.act action).2.cutter =
      { s.cutter with source := s.cutter.source ++ fed [.outside action] } := by
  have hsame : s.cutter = { s.cutter with source := s.cutter.source ++ [] } := by
    rw [List.append_nil]
  cases action with
  | feed event => rfl
  | receive => exact s.receive_frame.1.trans hsame
  | cancel => exact hsame
  | close => exact hsame
  | dropReceiver => exact hsame

@[simp] theorem act_reserved? (s : Supply) (action : Action) :
    (s.act action).2.reserved? = s.reserved? := by
  rw [reserved?, act_cutter]
  rfl

theorem act_cancelled {action : Action} :
    (s.act action).2.cancelled = true ↔ s.cancelled = true ∨ action = .cancel := by
  cases action with
  | receive =>
      have hsame := s.receive_frame.2.1
      simp only [act, hsame, reduceCtorEq, or_false]
  | _ => simp [act]

theorem act_receiver {action : Action} :
    (s.act action).2.channel.receiver ≠ .listening ↔
      s.channel.receiver ≠ .listening ∨ action = .dropReceiver ∨ action = .close := by
  cases action with
  | receive =>
      have hsame := s.receive_frame.2.2
      simp only [act, hsame, reduceCtorEq, or_false]
  | close =>
      simp only [act, Channel.close]
      split <;> simp
  | _ => simp [act, Channel.drop]

theorem act_dropped {action : Action} :
    (s.act action).2.channel.receiver = .dropped ↔
      s.channel.receiver = .dropped ∨ action = .dropReceiver := by
  cases action with
  | receive =>
      have hsame := s.receive_frame.2.2
      simp only [act, hsame, reduceCtorEq, or_false]
  | close =>
      simp only [act, Channel.close]
      split <;> simp_all
  | _ => simp [act, Channel.drop]

/-- Someone has stopped the cutter. -/
def Stopped (s : Supply) : Prop := s.cancelled = true ∨ s.channel.receiver ≠ .listening

/-- A place is given only to a cutter that nobody has stopped. -/
theorem not_reserved {deed : CutterDeed} {p : Cutter} {c : Channel}
    (hdoes : Cutter.Does s.cancelled s.cutter s.channel deed p c) (hstop : s.Stopped) :
    (⟨p, c, s.cancelled⟩ : Supply).reserved? = none := by
  refine Option.eq_none_iff_forall_ne_some.mpr fun block hreserved => ?_
  obtain ⟨last, hphase⟩ := reserved?_eq_some.mp hreserved
  obtain ⟨-, -, hcancel, hlisten, -⟩ := hdoes.reserved hphase
  rcases hstop with hstop | hstop
  · rw [hcancel] at hstop
    cases hstop
  · exact hstop hlisten

theorem reserved?_of_placed? {deed : CutterDeed} {p : Cutter} {c : Channel}
    (hdoes : Cutter.Does s.cancelled s.cutter s.channel deed p c) {block : Block}
    (hplaced : deed.placed? = some block) : s.reserved? = some block :=
  reserved?_eq_some.mpr (hdoes.placing hplaced)

/-- A block is placed only while none is lost. -/
theorem Sound.placed?_eq_none_or (h : Sound size source events s) {deed : CutterDeed}
    {p : Cutter} {c : Channel} (hdoes : Cutter.Does s.cancelled s.cutter s.channel deed p c) :
    deed.placed? = none ∨ undelivered events = [] := by
  cases hplaced : deed.placed? with
  | none => exact .inl rfl
  | some block =>
      refine .inr (Decidable.not_not.mp fun hlost => ?_)
      have hnone := (h.spent hlost).2
      rw [reserved?_of_placed? hdoes hplaced] at hnone
      cases hnone

theorem Sound.dropped_of_undelivered (h : Sound size source events s) {deed : CutterDeed}
    {p : Cutter} {c : Channel} (hdoes : Cutter.Does s.cancelled s.cutter s.channel deed p c)
    (hlost : undelivered (events ++ [.cutter deed]) ≠ []) : s.channel.receiver = .dropped := by
  rw [undelivered_append, undelivered_cutter] at hlost
  cases hdeed : deed.lost? with
  | some block => exact hdoes.dropped_of_lost hdeed
  | none =>
      rw [hdeed, Option.toList_none, List.append_nil] at hlost
      exact (h.spent hlost).1

theorem Sound.cutter (hsize : 0 < size) (h : Sound size source events s) {deed : CutterDeed}
    {p : Cutter} {c : Channel} (hdoes : Cutter.Does s.cancelled s.cutter s.channel deed p c) :
    Sound size source (events ++ [.cutter deed]) ⟨p, c, s.cancelled⟩ := by
  have hchannel := hdoes.channel
  have hplaced := h.placed?_eq_none_or hdoes
  refine ⟨?_, ?_, ?_, ?_, ?_, ?_, ?_⟩
  · simpa using h.account.does hsize hdoes
  · rw [deeds_append, deeds_cutter, placed_append, placed_singleton, h.placed_eq,
      enqueued_append, enqueued_cutter, undelivered_append, undelivered_cutter]
    rcases hplaced with hnone | hnone
    · obtain ⟨hsent, hlost⟩ := placed?_eq_none.mp hnone
      simp [hnone, hsent, hlost]
    · simp [hnone, deed.toList_placed?]
  · rw [undelivered_append, undelivered_cutter, List.length_append]
    rcases hplaced with hnone | hnone
    · rw [(placed?_eq_none.mp hnone).2]
      exact h.lostOnce
    · rw [hnone, List.length_nil, Nat.zero_add]
      exact Option.length_toList_le
  · intro hlost
    have hdropped := h.dropped_of_undelivered hdoes hlost
    refine ⟨by rw [hchannel]; exact hdropped, not_reserved hdoes (.inr ?_)⟩
    rw [hdropped]
    decide
  · intro hcancel
    exact List.mem_append_left _ (h.told hcancel)
  · intro hgone
    rw [hchannel] at hgone
    exact (h.gone hgone).imp (List.mem_append_left _) (List.mem_append_left _)
  · intro hend
    rw [hchannel]
    rcases hdoes.stopped hend with hend | hstop
    · exact h.stopped hend
    · exact hstop

theorem Sound.outside (h : Sound size source events s) (action : Action) :
    Sound size source (events ++ [.outside action]) (s.act action).2 := by
  have hdeeds : deeds (events ++ [.outside action]) = deeds events := by simp
  have hlost : undelivered (events ++ [.outside action]) = undelivered events :=
    congrArg lostBlocks hdeeds
  have henqueued : enqueued (events ++ [.outside action]) = enqueued events :=
    congrArg sentBlocks hdeeds
  have hlast : Event.outside action ∈ events ++ [.outside action] :=
    List.mem_append_right _ (List.mem_singleton_self _)
  refine ⟨?_, ?_, ?_, ?_, ?_, ?_, ?_⟩
  · rw [hdeeds, fed_append, act_cutter, ← List.append_assoc]
    exact h.account.feed _
  · rw [hdeeds, hlost, henqueued]
    exact h.placed_eq
  · rw [hlost]
    exact h.lostOnce
  · rw [hlost, act_reserved?]
    exact fun hsome => (h.spent hsome).imp (fun hdropped => act_dropped.mpr (.inl hdropped)) id
  · intro hcancel
    rcases act_cancelled.mp hcancel with hcancel | rfl
    · exact List.mem_append_left _ (h.told hcancel)
    · exact hlast
  · intro hgone
    rcases act_receiver.mp hgone with hgone | rfl | rfl
    · exact (h.gone hgone).imp (List.mem_append_left _) (List.mem_append_left _)
    · exact .inl hlast
    · exact .inr hlast
  · intro hend
    rw [act_cutter] at hend
    exact (h.stopped hend).imp (fun hs => act_cancelled.mpr (.inl hs))
      (fun hs => act_receiver.mpr (.inl hs))

theorem Sound.step (hsize : 0 < size) (h : Sound size source events s) {e : Event}
    (hstep : Step s e t) : Sound size source (events ++ [e]) t := by
  cases e with
  | cutter deed =>
      obtain ⟨p, c, hdoes, rfl⟩ := hstep.does
      exact h.cutter hsize hdoes
  | outside action =>
      obtain rfl := hstep.acts
      exact h.outside action

theorem sound_of_run (hsize : 0 < size) {capacity : Nat}
    (hrun : Run (start size capacity source) events s) : Sound size source events s := by
  induction hrun with
  | refl => exact sound_start hsize capacity source
  | tail _ hstep ih => exact ih.step hsize hstep

/-! ## What comes after -/

def SendsNothing (e : Event) : Prop := ∀ deed, e = .cutter deed → deed.sent? = none

theorem enqueued_eq_nil (h : ∀ e ∈ events, SendsNothing e) : enqueued events = [] := by
  refine sentBlocks_eq_nil fun deed hdeed => ?_
  obtain ⟨e, he, hsame⟩ := List.mem_filterMap.mp hdeed
  cases e with
  | cutter other => exact h _ he deed (congrArg Event.cutter (Option.some.inj hsame))
  | outside action => cases hsame

/-- A cutter that goes away sends nothing more. -/
theorem enqueued_of_ending {exit : CutterEnd} (hend : s.cutter.ending? = some exit)
    (hrun : Run s events t) : enqueued events = [] := by
  refine enqueued_eq_nil (hrun.keeps (P := fun s => s.cutter.ending? = some exit)
    (R := SendsNothing) ?_ hend).2
  intro b e c hb hstep
  cases e with
  | cutter deed =>
      obtain ⟨p, d, hdoes, rfl⟩ := hstep.does
      obtain ⟨hc, rfl⟩ := hdoes.ending hb
      refine ⟨hc, ?_⟩
      rintro _ ⟨⟩
      rfl
  | outside action =>
      obtain rfl := hstep.acts
      refine ⟨?_, fun deed he => by cases he⟩
      rw [act_cutter]
      exact hb

theorem enqueued_of_dropped (hdropped : s.channel.receiver = .dropped) (hrun : Run s events t) :
    enqueued events = [] := by
  refine enqueued_eq_nil (hrun.keeps (P := fun s => s.channel.receiver = .dropped)
    (R := SendsNothing) ?_ hdropped).2
  intro b e c hb hstep
  cases e with
  | cutter deed =>
      obtain ⟨p, d, hdoes, rfl⟩ := hstep.does
      refine ⟨by rw [hdoes.channel]; exact hb, ?_⟩
      rintro _ ⟨⟩
      exact hdoes.sent_of_dropped hb
  | outside action =>
      obtain rfl := hstep.acts
      exact ⟨act_dropped.mpr (.inl hb), fun deed he => by cases he⟩

theorem stopped_act {action : Action} (h : s.Stopped ∨ action.stops = true) :
    (s.act action).2.Stopped := by
  rcases h with hstopped | hstops
  · exact hstopped.imp (fun hs => act_cancelled.mpr (.inl hs))
      (fun hs => act_receiver.mpr (.inl hs))
  · cases action with
    | feed => cases hstops
    | receive => cases hstops
    | cancel => exact .inl (act_cancelled.mpr (.inr rfl))
    | close => exact .inr (act_receiver.mpr (.inr (.inr rfl)))
    | dropReceiver => exact .inr (act_receiver.mpr (.inr (.inl rfl)))

/-- A step of a cutter that was stopped fills the place that was reserved, or sends
nothing, and no other place is given. -/
theorem Stopped.step (h : s.Stopped) {e : Event} (hstep : Step s e t) :
    t.Stopped ∧ enqueued [e] ++ t.reserved?.toList <+: s.reserved?.toList := by
  cases e with
  | cutter deed =>
      obtain ⟨p, c, hdoes, rfl⟩ := hstep.does
      refine ⟨h.imp id fun hgone => by rw [hdoes.channel]; exact hgone, ?_⟩
      rw [not_reserved hdoes h, Option.toList_none, List.append_nil, enqueued_cutter]
      cases hsent : deed.sent? with
      | none => exact List.nil_prefix
      | some block =>
          simp only [reserved?_of_placed? hdoes (placed?_of_sent? hsent), Option.toList_some,
            List.prefix_rfl]
  | outside action =>
      obtain rfl := hstep.acts
      refine ⟨stopped_act (.inl h), ?_⟩
      rw [act_reserved?]
      exact List.prefix_refl _

theorem Stopped.run (h : s.Stopped) (hrun : Run s events t) :
    t.Stopped ∧ enqueued events ++ t.reserved?.toList <+: s.reserved?.toList := by
  induction hrun with
  | refl => exact ⟨h, List.prefix_refl _⟩
  | @tail events e b c _ hstep ih =>
      obtain ⟨hb, hsent⟩ := ih
      obtain ⟨hc, hlast⟩ := hb.step hstep
      refine ⟨hc, List.IsPrefix.trans ?_ hsent⟩
      rw [enqueued_append, List.append_assoc]
      exact (List.prefix_append_right_inj _).mpr hlast

/-- A cutter that was stopped sends at most the block whose place was reserved. -/
theorem enqueued_of_stopped (h : s.Stopped) (hrun : Run s events t) :
    enqueued events <+: s.reserved?.toList :=
  (List.prefix_append ..).trans (h.run hrun).2

/-! ## Blocks that are lost -/

theorem LostPlace.append {first : Supply} {block : Block} (h : LostPlace first events block)
    (later : List Event) : LostPlace first (events ++ later) block := by
  obtain ⟨before, state, after, rfl, hbefore, hreserved⟩ := h
  exact ⟨before, state, after ++ later, by rw [List.append_assoc, List.cons_append], hbefore,
    hreserved⟩

/-- A place that is reserved when there is no receiver was reserved when it was dropped. -/
theorem lostPlace_of_reserved {capacity : Nat}
    (hrun : Run (start size capacity source) events s) {block : Block}
    (hdropped : s.channel.receiver = .dropped) (hreserved : s.reserved? = some block) :
    LostPlace (start size capacity source) events block := by
  induction hrun with
  | refl => cases hdropped
  | @tail events e b c hbefore hstep ih =>
      cases e with
      | cutter deed =>
          obtain ⟨p, d, hdoes, rfl⟩ := hstep.does
          rw [hdoes.channel] at hdropped
          have hgone : b.channel.receiver ≠ .listening := by
            rw [show b.channel.receiver = .dropped from hdropped]
            decide
          rw [not_reserved hdoes (.inr hgone)] at hreserved
          cases hreserved
      | outside action =>
          obtain rfl := hstep.acts
          rw [act_reserved?] at hreserved
          rcases act_dropped.mp hdropped with hearlier | rfl
          · exact (ih hearlier hreserved).append _
          · exact ⟨events, b, [], rfl, hbefore, hreserved⟩

/-! ## The whole run -/

theorem mem_of_deed_mem {deed : CutterDeed} (h : deed ∈ deeds events) :
    .cutter deed ∈ events := by
  obtain ⟨e, he, hdeed⟩ := List.mem_filterMap.mp h
  cases e with
  | cutter other => exact Option.some.inj hdeed ▸ he
  | outside action => cases hdeed

theorem lostPlace_of_mem {capacity : Nat} (hrun : Run (start size capacity source) events s)
    {block : Block} (hlost : block ∈ undelivered events) :
    LostPlace (start size capacity source) events block := by
  obtain ⟨deed, hdeed, hblock⟩ := List.mem_filterMap.mp hlost
  obtain ⟨before, after, rfl⟩ := List.append_of_mem (mem_of_deed_mem hdeed)
  obtain ⟨b, c, hbefore, hstep, -⟩ := hrun.of_append_cons
  obtain ⟨p, d, hdoes, rfl⟩ := hstep.does
  have hplaced : deed.placed? = some block := by
    cases deed with
    | lost => exact hblock
    | _ => cases hblock
  exact (lostPlace_of_reserved hbefore (hdoes.dropped_of_lost hblock)
    (reserved?_of_placed? hdoes hplaced)).append _

/-- A cutter that sends a block shorter than the others has read the end and
goes away. -/
theorem Sound.shortLast (h : Sound size source events s) {block : Block}
    (hstep : Step s (.cutter (.sent block)) t) (hshort : block.length < size) :
    .cutter .foundEnd ∈ events ∧ ∃ exit, t.cutter.ending? = some exit := by
  obtain ⟨p, c, hdoes, rfl⟩ := hstep.does
  have hstands := h.account.stands
  cases hdoes with
  | @sent _ last hphase _ =>
      simp only [Cutter.Stands, hphase] at hstands
      obtain ⟨-, hrest⟩ := hstands
      cases last with
      | false =>
          have hwhole : block.length = s.cutter.blockSize := hrest.2
          rw [h.account.blockSize_eq] at hwhole
          exact absurd hshort (by omega)
      | true => exact ⟨mem_of_deed_mem hrest.1.shown, _, rfl⟩

theorem Sound.enqueued_append_undelivered (h : Sound size source events s) :
    enqueued events ++ undelivered events = numbered 0 (parts (deeds events)) := by
  rw [← h.placed_eq, h.account.placed_eq]

theorem Sound.sequence_eq (h : Sound size source events s) {i : Nat} {block : Block}
    (hblock : (enqueued events)[i]? = some block) : block.sequence = i := by
  have hlt := (List.getElem?_eq_some_iff.mp hblock).1
  have hnumbered : (enqueued events ++ undelivered events)[i]? = some block := by
    rw [List.getElem?_append_left hlt, hblock]
  rw [h.enqueued_append_undelivered, getElem?_numbered] at hnumbered
  obtain ⟨part, -, rfl⟩ := Option.map_eq_some_iff.mp hnumbered
  exact Nat.zero_add i

theorem Sound.completed (hsize : 0 < size) (h : Sound size source events s) {blocks : Nat}
    (hexit : s.cutter.exit? = some (.completed blocks)) :
    .cutter .foundEnd ∈ events ∧
      enqueued events ++ undelivered events = (source ++ fed events).blocks size ∧
      blocks = (enqueued events ++ undelivered events).length ∧
      blocks = ((source ++ fed events).content.length + size - 1) / size := by
  have hparts := h.enqueued_append_undelivered
  obtain ⟨hread, hcut, hblocks⟩ := h.account.endsAs (Cutter.ending?_of_exit? hexit)
  rw [h.account.blockSize_eq] at hcut
  refine ⟨mem_of_deed_mem hread.shown, hparts.trans (hread.blocks_eq hcut), ?_, ?_⟩
  · rw [hparts, length_numbered, hblocks]
  · rw [hblocks, hcut, cut, if_pos rfl, length_pieces hsize, hread.content_eq]

theorem Sound.failed (h : Sound size source events s) {e : IoError}
    (hexit : s.cutter.exit? = some (.failed e)) :
    .cutter (.foundFault e) ∈ events ∧
      enqueued events ++ undelivered events =
        numbered 0 ((pieces size (bytesRead (deeds events))).filter (·.length = size)) := by
  obtain ⟨hread, hcut⟩ := h.account.endsAs (Cutter.ending?_of_exit? hexit)
  rw [h.account.blockSize_eq] at hcut
  refine ⟨mem_of_deed_mem hread.shown, ?_⟩
  rw [h.enqueued_append_undelivered, hcut, cut, if_neg (by simp)]

/-- **A cutter does what it is for, whatever others do.** -/
theorem faithful_of_run (hsize : 0 < size) {capacity : Nat}
    (hrun : Run (start size capacity source) events s) :
    Faithful size capacity source events s := by
  have hsound := sound_of_run hsize hrun
  have hfirst : enqueued events ++ undelivered events <+: (source ++ fed events).blocks size := by
    rw [← hsound.placed_eq]
    exact hsound.account.placed_isPrefix hsize
  refine ⟨hfirst, fun _ _ => hsound.sequence_eq, ?_, ?_, ?_, fun _ => lostPlace_of_mem hrun,
    hsound.lostOnce, fun _ => hsound.completed hsize, fun _ => hsound.failed, ?_⟩
  · rintro before block after rfl hshort
    obtain ⟨b, d, hbefore, hstep, hafter⟩ := hrun.of_append_cons
    obtain ⟨hread, exit, hend⟩ := (sound_of_run hsize hbefore).shortLast hstep hshort
    exact ⟨hread, enqueued_of_ending hend hafter⟩
  · rintro before action after state rfl hstops hbefore
    obtain ⟨b, d, hbefore', hstep, hafter⟩ := hrun.of_append_cons
    obtain rfl := Run.unique hbefore hbefore'
    obtain rfl := hstep.acts
    have hsent := enqueued_of_stopped (stopped_act (.inr hstops)) hafter
    rwa [act_reserved?] at hsent
  · rintro before after rfl
    obtain ⟨b, d, -, hstep, hafter⟩ := hrun.of_append_cons
    obtain rfl := hstep.acts
    exact enqueued_of_dropped (act_dropped.mpr (.inr rfl)) hafter
  · intro hexit
    rcases hsound.stopped (Cutter.ending?_of_exit? hexit) with hcancel | hgone
    · exact .inl (hsound.told hcancel)
    · exact .inr (hsound.gone hgone)

/-- Three bytes go through a channel with room for one block of two bytes. The receiver
takes the first block and goes away when the place of the second one is reserved. -/
theorem faithful_of_run_threeBytes :
    0 < 2 ∧ ∃ events s, Run (start 2 1 [.bytes [1, 2, 3]]) events s ∧
      enqueued events = [⟨0, [1, 2]⟩] ∧ undelivered events = [⟨1, [3]⟩] ∧
        s.cutter.exit? = some (.completed 2) ∧ Faithful 2 1 [.bytes [1, 2, 3]] events s := by
  have hsize : 0 < 2 := by decide
  have hfirst : Run (start 2 1 [.bytes [1, 2, 3]])
      [.cutter (.got [1, 2]), .cutter .inner, .cutter (.sent ⟨0, [1, 2]⟩), .cutter (.got [3]),
        .outside (.feed .ended), .cutter .foundEnd]
      ⟨⟨2, [.ended], 3, .offering ⟨1, [3]⟩ true⟩, ⟨1, [⟨0, [1, 2]⟩], .listening⟩, false⟩ :=
    .head (.cutter rfl rfl) <| .head (.cutter rfl rfl) <| .head (.cutter rfl rfl) <|
      .head (.cutter rfl rfl) <| .head (.outside _) <| .head (.cutter rfl rfl) .refl
  have hlast : Run
      ⟨⟨2, [.ended], 3, .offering ⟨1, [3]⟩ true⟩, ⟨1, [⟨0, [1, 2]⟩], .listening⟩, false⟩
      [.outside .receive, .cutter .inner, .outside .dropReceiver, .cutter (.lost ⟨1, [3]⟩),
        .cutter .inner]
      ⟨⟨2, [.ended], 3, .exited (.completed 2)⟩, ⟨1, [], .dropped⟩, false⟩ :=
    .head (.outside _) <| .head (.cutter rfl rfl) <| .head (.outside _) <|
      .head (.cutter rfl rfl) <| .head (.cutter rfl rfl) .refl
  have hrun := hfirst.trans hlast
  exact ⟨hsize, _, _, hrun, rfl, rfl, rfl, faithful_of_run hsize hrun⟩

/-- Blocks are not all sent before a stop, nor all received that are counted: a block is
enqueued behind the cancellation, a cutter completes and another one fails with their whole
blocks lost, and a cutter that nobody cancelled ends as cancelled. -/
theorem reserved_block_outlasts_stop :
    (∃ before after s, Run (start 2 1 [.bytes [1, 2]]) (before ++ .outside .cancel :: after) s ∧
      enqueued after = [⟨0, [1, 2]⟩]) ∧
    (∃ events s, Run (start 2 1 [.bytes [1], .ended]) events s ∧
      s.cutter.exit? = some (.completed 1) ∧ enqueued events = []) ∧
    (∃ events s, Run (start 1 1 [.bytes [1], .fault ⟨"broken"⟩]) events s ∧
      s.cutter.exit? = some (.failed ⟨"broken"⟩) ∧ bytesRead (deeds events) = [1] ∧
        enqueued events = []) ∧
    ∃ events s, Run (start 4 1 [.bytes [1, 2, 3, 4]]) events s ∧
      s.cutter.exit? = some .cancelled ∧ .outside .cancel ∉ events := by
  have hcancelled : Run (start 2 1 [.bytes [1, 2]])
      ([.cutter (.got [1, 2]), .cutter .inner] ++
        .outside .cancel :: [.cutter (.sent ⟨0, [1, 2]⟩)])
      ⟨⟨2, [], 2, .filling 1 []⟩, ⟨1, [⟨0, [1, 2]⟩], .listening⟩, true⟩ :=
    .head (.cutter rfl rfl) <| .head (.cutter rfl rfl) <| .head (.outside _) <|
      .head (.cutter rfl rfl) .refl
  have hcompleted : Run (start 2 1 [.bytes [1], .ended])
      [.cutter (.got [1]), .cutter .foundEnd, .cutter .inner, .outside .dropReceiver,
        .cutter (.lost ⟨0, [1]⟩), .cutter .inner]
      ⟨⟨2, [.ended], 1, .exited (.completed 1)⟩, ⟨1, [], .dropped⟩, false⟩ :=
    .head (.cutter rfl rfl) <| .head (.cutter rfl rfl) <| .head (.cutter rfl rfl) <|
      .head (.outside _) <| .head (.cutter rfl rfl) <| .head (.cutter rfl rfl) .refl
  have hfailed : Run (start 1 1 [.bytes [1], .fault ⟨"broken"⟩])
      [.cutter (.got [1]), .cutter .inner, .outside .dropReceiver, .cutter (.lost ⟨0, [1]⟩),
        .cutter (.foundFault ⟨"broken"⟩), .cutter .inner]
      ⟨⟨1, [], 1, .exited (.failed ⟨"broken"⟩)⟩, ⟨1, [], .dropped⟩, false⟩ :=
    .head (.cutter rfl rfl) <| .head (.cutter rfl rfl) <| .head (.outside _) <|
      .head (.cutter rfl rfl) <| .head (.cutter rfl rfl) <| .head (.cutter rfl rfl) .refl
  have hdropped : Run (start 4 1 [.bytes [1, 2, 3, 4]])
      [.cutter (.got [1, 2, 3, 4]), .outside .dropReceiver, .cutter .inner, .cutter .inner]
      ⟨⟨4, [], 4, .exited .cancelled⟩, ⟨1, [], .dropped⟩, false⟩ :=
    .head (.cutter rfl rfl) <| .head (.outside _) <| .head (.cutter rfl rfl) <|
      .head (.cutter rfl rfl) .refl
  exact ⟨⟨_, _, _, hcancelled, rfl⟩, ⟨_, _, hcompleted, rfl, rfl⟩,
    ⟨_, _, hfailed, rfl, rfl, rfl⟩, _, _, hdropped, rfl, by decide⟩

end Supply
end ObjectStore
