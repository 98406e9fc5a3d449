import ObjectStore.Proofs.Upload.Blocks

/-!
# What a cutter does

Seen from outside a cutter reads bytes, finds the end of its source or a fault
instead, and puts blocks into the channel. Its deeds so far tell where it
stands, whoever stops it and whenever: the bytes that it read are the blocks
that it has put into their places, one after the other, and what it has in
hand.
-/

namespace ObjectStore

/-- What a step of a cutter shows: bytes that it read, the end or a fault
that it found instead, a block that came into the channel, a block that found
no receiver any more, or none of these. -/
inductive CutterDeed where
  | got (bs : Bytes)
  | foundEnd
  | foundFault (e : IoError)
  | sent (block : Block)
  | lost (block : Block)
  | inner
  deriving DecidableEq, Repr

namespace CutterDeed

def bytes : CutterDeed → Bytes
  | .got bs => bs
  | _ => []

def sent? : CutterDeed → Option Block
  | .sent block => some block
  | _ => none

def lost? : CutterDeed → Option Block
  | .lost block => some block
  | _ => none

/-- The block that was put into its place, whether or not someone was left to
receive it. -/
def placed? : CutterDeed → Option Block
  | .sent block => some block
  | .lost block => some block
  | _ => none

def isRead : CutterDeed → Bool
  | .got _ => true
  | .foundEnd => true
  | .foundFault _ => true
  | _ => false

def bytesRead (deeds : List CutterDeed) : Bytes := deeds.flatMap bytes

/-- The blocks that came into the channel. -/
def sentBlocks (deeds : List CutterDeed) : List Block := deeds.filterMap sent?

def lostBlocks (deeds : List CutterDeed) : List Block := deeds.filterMap lost?

/-- The blocks that were put into their places. -/
def placed (deeds : List CutterDeed) : List Block := deeds.filterMap placed?

def parts (deeds : List CutterDeed) : List Bytes := (placed deeds).map Block.payload

@[simp] theorem bytesRead_append (deeds later : List CutterDeed) :
    bytesRead (deeds ++ later) = bytesRead deeds ++ bytesRead later :=
  List.flatMap_append

@[simp] theorem sentBlocks_append (deeds later : List CutterDeed) :
    sentBlocks (deeds ++ later) = sentBlocks deeds ++ sentBlocks later :=
  List.filterMap_append

@[simp] theorem placed_append (deeds later : List CutterDeed) :
    placed (deeds ++ later) = placed deeds ++ placed later :=
  List.filterMap_append

@[simp] theorem parts_append (deeds later : List CutterDeed) :
    parts (deeds ++ later) = parts deeds ++ parts later := by
  rw [parts, placed_append, List.map_append]
  rfl

theorem toList_placed? (d : CutterDeed) :
    d.placed?.toList = d.sent?.toList ++ d.lost?.toList := by
  cases d <;> rfl

theorem placed?_eq_none {d : CutterDeed} :
    d.placed? = none ↔ d.sent? = none ∧ d.lost? = none := by
  cases d <;> simp [placed?, sent?, lost?]

theorem placed?_of_sent? {d : CutterDeed} {block : Block} (h : d.sent? = some block) :
    d.placed? = some block := by
  cases d with
  | sent => exact h
  | _ => cases h

theorem sentBlocks_eq_nil {deeds : List CutterDeed} (h : ∀ deed ∈ deeds, deed.sent? = none) :
    sentBlocks deeds = [] :=
  List.filterMap_eq_nil_iff.mpr h

@[simp] theorem bytesRead_singleton (d : CutterDeed) : bytesRead [d] = d.bytes := by
  rw [bytesRead, List.flatMap_singleton]

@[simp] theorem sentBlocks_singleton (d : CutterDeed) : sentBlocks [d] = d.sent?.toList := by
  cases h : d.sent? <;> simp [sentBlocks, h]

@[simp] theorem placed_singleton (d : CutterDeed) : placed [d] = d.placed?.toList := by
  cases h : d.placed? <;> simp [placed, h]

@[simp] theorem parts_singleton (d : CutterDeed) :
    parts [d] = d.placed?.toList.map Block.payload := by
  rw [parts, placed_singleton]

end CutterDeed

open CutterDeed

def SourceStop.deed : SourceStop → CutterDeed
  | .ended => .foundEnd
  | .fault e => .foundFault e

namespace Cutter

def ending? (p : Cutter) : Option CutterEnd :=
  match p.phase with
  | .leaving exit => some exit
  | .exited exit => some exit
  | _ => none

theorem ending?_of_exit? {p : Cutter} {exit : CutterEnd} (h : p.exit? = some exit) :
    p.ending? = some exit := by
  unfold exit? at h
  split at h
  · next hphase =>
      simp only [ending?, hphase]
      exact h
  · cases h

/-- What the next step of a cutter shows, if it takes one. -/
def deed (cancelled : Bool) (p : Cutter) (c : Channel) : CutterDeed :=
  match p.phase with
  | .filling _ buffer =>
    if cancelled then .inner
    else
      match p.source.read (p.blockSize - buffer.length) with
      | .waiting => .inner
      | .failed e _ => .foundFault e
      | .got bs _ => if bs = [] then .foundEnd else .got bs
  | .placing block _ => if c.receiver = .dropped then .lost block else .sent block
  | _ => .inner

def afterRead (p : Cutter) (bs : Bytes) (rest : Source) : Cutter :=
  { p with source := rest, consumed := p.consumed + bs.length }

/-- What a cutter does, with all that it needs. -/
inductive Does (cancelled : Bool) (p : Cutter) (c : Channel) :
    CutterDeed → Cutter → Channel → Prop where
  | got {sequence : Nat} {buffer bs : Bytes} {rest : Source} :
      p.phase = .filling sequence buffer → cancelled = false →
      p.source.read (p.blockSize - buffer.length) = .got bs rest → bs ≠ [] →
      Does cancelled p c (.got bs) ((p.afterRead bs rest).withBuffer sequence (buffer ++ bs)) c
  | foundEnd {sequence : Nat} {buffer : Bytes} {rest : Source} :
      p.phase = .filling sequence buffer → cancelled = false →
      p.source.read (p.blockSize - buffer.length) = .got [] rest →
      Does cancelled p c .foundEnd ((p.afterRead [] rest).atEnd sequence buffer) c
  | foundFault {sequence : Nat} {buffer : Bytes} {e : IoError} {rest : Source} :
      p.phase = .filling sequence buffer → cancelled = false →
      p.source.read (p.blockSize - buffer.length) = .failed e rest →
      Does cancelled p c (.foundFault e) ((p.afterRead [] rest).leave (.failed e)) c
  | stopReading {sequence : Nat} {buffer : Bytes} : p.phase = .filling sequence buffer →
      cancelled = true → Does cancelled p c .inner (p.leave .cancelled) c
  | stopOffering {block : Block} {last : Bool} : p.phase = .offering block last →
      cancelled = true ∨ c.receiver ≠ .listening →
      Does cancelled p c .inner (p.leave .cancelled) c
  | reserve {block : Block} {last : Bool} : p.phase = .offering block last →
      cancelled = false → c.receiver = .listening → c.hasRoom = true →
      Does cancelled p c .inner { p with phase := .placing block last } c
  | sent {block : Block} {last : Bool} : p.phase = .placing block last →
      c.receiver ≠ .dropped →
      Does cancelled p c (.sent block) (p.afterOffer block.sequence last)
        { c with queue := c.queue ++ [block] }
  | lost {block : Block} {last : Bool} : p.phase = .placing block last →
      c.receiver = .dropped →
      Does cancelled p c (.lost block) (p.afterOffer block.sequence last) c
  | exit {exit : CutterEnd} : p.phase = .leaving exit →
      Does cancelled p c .inner { p with phase := .exited exit } c

theorem does_of_step {cancelled : Bool} {p q : Cutter} {c d : Channel}
    (h : p.step cancelled c = some (q, d)) : Does cancelled p c (p.deed cancelled c) q d := by
  cases move_of_step h with
  | @read sequence buffer q hphase hcancel hfill =>
      simp only [deed, hphase, hcancel, Bool.false_eq_true, if_false]
      unfold fill at hfill
      cases hread : p.source.read (p.blockSize - buffer.length) with
      | waiting =>
          rw [hread] at hfill
          cases hfill
      | failed e rest =>
          rw [hread] at hfill
          obtain rfl := Option.some.inj hfill
          exact .foundFault hphase rfl hread
      | got bs rest =>
          rw [hread] at hfill
          by_cases hnil : bs = []
          · subst hnil
            simp only [if_true] at hfill ⊢
            obtain rfl := Option.some.inj hfill
            exact .foundEnd hphase rfl hread
          · simp only [hnil, if_false] at hfill ⊢
            obtain rfl := Option.some.inj hfill
            exact .got hphase rfl hread hnil
  | stopReading hphase hcancel =>
      simp only [deed, hphase, hcancel, if_true]
      exact .stopReading hphase rfl
  | stopOffering hphase hstop =>
      simp only [deed, hphase]
      exact .stopOffering hphase hstop
  | reserve hphase hcancel hlisten hroom =>
      simp only [deed, hphase]
      exact .reserve hphase hcancel hlisten hroom
  | place hphase =>
      simp only [deed, hphase, Channel.send]
      by_cases hdropped : c.receiver = .dropped
      · rw [if_pos hdropped, if_pos hdropped]
        exact .lost hphase hdropped
      · rw [if_neg hdropped, if_neg hdropped]
        exact .sent hphase hdropped
  | exit hphase =>
      simp only [deed, hphase]
      exact .exit hphase

end Cutter

/-! ## Whole parts -/

def Whole (size : Nat) (parts : List Bytes) : Prop := ∀ part ∈ parts, part.length = size

theorem Whole.append_singleton {size : Nat} {parts : List Bytes} (h : Whole size parts)
    {part : Bytes} (hpart : part.length = size) : Whole size (parts ++ [part]) := by
  intro p hp
  rcases List.mem_append.mp hp with hp | hp
  · exact h p hp
  · rw [List.mem_singleton.mp hp]
    exact hpart

theorem Whole.length_flatten {size : Nat} {parts : List Bytes} (h : Whole size parts) :
    parts.flatten.length = parts.length * size := by
  induction parts with
  | nil => rw [List.flatten_nil, List.length_nil, List.length_nil, Nat.zero_mul]
  | cons part rest ih =>
      rw [List.flatten_cons, List.length_append, h part List.mem_cons_self,
        ih fun p hp => h p (List.mem_cons_of_mem _ hp), List.length_cons, Nat.add_mul,
        Nat.one_mul, Nat.add_comm]

theorem Whole.cut_append {size : Nat} {parts : List Bytes} (h : Whole size parts)
    (hsize : 0 < size) (stop : Option SourceStop) (rest : Bytes) :
    cut size stop (parts.flatten ++ rest) = parts ++ cut size stop rest := by
  induction parts with
  | nil => rfl
  | cons part parts ih =>
      rw [List.flatten_cons, List.append_assoc,
        ObjectStore.cut_append hsize (h part List.mem_cons_self),
        ih fun p hp => h p (List.mem_cons_of_mem _ hp), List.cons_append]

theorem numbered_append (first : Nat) (parts later : List Bytes) :
    numbered first (parts ++ later) =
      numbered first parts ++ numbered (first + parts.length) later := by
  rw [numbered, numbered, numbered, List.zipIdx_append, List.map_append]

theorem Source.numbered_isPrefix_blocks {size : Nat} (hsize : 0 < size) {source : Source}
    {parts : List Bytes} (hwhole : Whole size parts) (h : parts.flatten <+: source.content) :
    numbered 0 parts <+: source.blocks size := by
  obtain ⟨rest, hrest⟩ := h
  rw [blocks, ← hrest, hwhole.cut_append hsize, numbered_append]
  exact List.prefix_append ..

theorem Source.content_append (s more : Source) :
    (s ++ more).content = if s.stop?.isSome then s.content else s.content ++ more.content := by
  induction s with
  | nil => rfl
  | cons event rest ih =>
      cases event with
      | bytes bs =>
          by_cases hnil : bs = []
          · simp only [List.cons_append, content, stop?, hnil, if_true, Option.isSome_some]
          · simp only [List.cons_append, content, stop?, hnil, if_false, ih]
            split
            · rfl
            · rw [List.append_assoc]
      | fault e => rfl
      | ended => rfl

theorem Source.content_isPrefix_append (s more : Source) : s.content <+: (s ++ more).content := by
  rw [content_append]
  split
  · exact List.prefix_refl _
  · exact List.prefix_append ..

theorem Source.stop?_append (s more : Source) : (s ++ more).stop? = s.stop?.or more.stop? := by
  induction s with
  | nil => rfl
  | cons event rest ih =>
      cases event with
      | bytes bs =>
          by_cases hnil : bs = []
          · simp only [List.cons_append, stop?, hnil, if_true, Option.some_or]
          · simp only [List.cons_append, stop?, hnil, if_false, ih]
      | fault e => rfl
      | ended => rfl

/-! ## Where a cutter stands -/

/-- The bytes in hand behind the blocks that were placed. -/
structure InHand (size : Nat) (deeds : List CutterDeed) (sequence : Nat) (bs : Bytes) : Prop where
  sequence_eq : sequence = (parts deeds).length
  whole : Whole size (parts deeds)
  read_eq : bytesRead deeds = (parts deeds).flatten ++ bs

/-- A source was read to where it stops. -/
structure Source.ReadTo (source : Source) (deeds : List CutterDeed) (stop : SourceStop) :
    Prop where
  content_eq : source.content = bytesRead deeds
  stop_eq : source.stop? = some stop
  shown : stop.deed ∈ deeds

namespace Cutter

/-- What a cutter has still to read of a source is what it did not read so
far. -/
def IsReading (p : Cutter) (source : Source) (deeds : List CutterDeed) : Prop :=
  source.content = bytesRead deeds ++ p.source.content ∧ source.stop? = p.source.stop?

/-- A block in hand is a whole one, or the rest of a source that ended. -/
def Offers (p : Cutter) (source : Source) (deeds : List CutterDeed) (block : Block)
    (last : Bool) : Prop :=
  InHand p.blockSize deeds block.sequence block.payload ∧
    if last then source.ReadTo deeds .ended ∧ block.payload ≠ [] ∧ block.length < p.blockSize
    else p.IsReading source deeds ∧ block.length = p.blockSize

def EndsAs (p : Cutter) (source : Source) (deeds : List CutterDeed) : CutterEnd → Prop
  | .completed blocks =>
    source.ReadTo deeds .ended ∧ parts deeds = cut p.blockSize (some .ended) (bytesRead deeds) ∧
      blocks = (parts deeds).length
  | .failed e =>
    source.ReadTo deeds (.fault e) ∧
      parts deeds = cut p.blockSize (some (.fault e)) (bytesRead deeds)
  | .cancelled =>
    Whole p.blockSize (parts deeds) ∧ (parts deeds).flatten <+: bytesRead deeds ∧
      bytesRead deeds <+: source.content

/-- Where a cutter stands after its deeds, by what it is doing. -/
def Stands (p : Cutter) (source : Source) (deeds : List CutterDeed) : Prop :=
  match p.phase with
  | .filling sequence buffer =>
    InHand p.blockSize deeds sequence buffer ∧ p.IsReading source deeds ∧
      buffer.length < p.blockSize
  | .offering block last => p.Offers source deeds block last
  | .placing block last => p.Offers source deeds block last
  | .leaving exit => p.EndsAs source deeds exit
  | .exited exit => p.EndsAs source deeds exit

/-- The account of a cutter: what its deeds so far say about it. -/
structure Account (size : Nat) (source : Source) (deeds : List CutterDeed) (p : Cutter) :
    Prop where
  blockSize_eq : p.blockSize = size
  consumed_eq : p.consumed = (bytesRead deeds).length
  /-- Blocks are numbered in the order of their places. -/
  placed_eq : placed deeds = numbered 0 (parts deeds)
  /-- No more than one block is read ahead of them. -/
  bounded : (bytesRead deeds).length ≤ ((parts deeds).length + 1) * size
  stands : p.Stands source deeds

end Cutter

/-! ## What a deed changes -/

section Deeds

variable {size sequence : Nat} {deeds : List CutterDeed} {bs : Bytes}

theorem InHand.got (h : InHand size deeds sequence bs) (more : Bytes) :
    InHand size (deeds ++ [.got more]) sequence (bs ++ more) := by
  have hparts : parts (deeds ++ [.got more]) = parts deeds := by simp [placed?]
  refine ⟨by rw [hparts, h.sequence_eq], by rw [hparts]; exact h.whole, ?_⟩
  rw [bytesRead_append, bytesRead_singleton, h.read_eq, hparts, List.append_assoc]
  rfl

theorem InHand.keep (h : InHand size deeds sequence bs) {deed : CutterDeed}
    (hread : deed.bytes = []) (hplaced : deed.placed? = none) :
    InHand size (deeds ++ [deed]) sequence bs := by
  have hparts : parts (deeds ++ [deed]) = parts deeds := by simp [hplaced]
  have hbytes : bytesRead (deeds ++ [deed]) = bytesRead deeds := by simp [hread]
  exact ⟨by rw [hparts, h.sequence_eq], by rw [hparts]; exact h.whole,
    by rw [hparts, hbytes, h.read_eq]⟩

theorem InHand.place {block : Block} (h : InHand size deeds block.sequence block.payload)
    (hlength : block.length = size) {deed : CutterDeed} (hread : deed.bytes = [])
    (hplaced : deed.placed? = some block) :
    InHand size (deeds ++ [deed]) (block.sequence + 1) [] := by
  have hparts : parts (deeds ++ [deed]) = parts deeds ++ [block.payload] := by simp [hplaced]
  refine ⟨?_, ?_, ?_⟩
  · rw [hparts, List.length_append, ← h.sequence_eq]
    rfl
  · rw [hparts]
    exact h.whole.append_singleton hlength
  · rw [bytesRead_append, bytesRead_singleton, hread, List.append_nil, h.read_eq, hparts,
      List.flatten_append, List.flatten_singleton, List.append_nil]

theorem InHand.length_read (h : InHand size deeds sequence bs) :
    (bytesRead deeds).length = (parts deeds).length * size + bs.length := by
  rw [h.read_eq, List.length_append, h.whole.length_flatten]

theorem InHand.cut_read (h : InHand size deeds sequence bs) (hsize : 0 < size)
    (stop : Option SourceStop) :
    cut size stop (bytesRead deeds) = parts deeds ++ cut size stop bs := by
  rw [h.read_eq, h.whole.cut_append hsize]

theorem InHand.parts_eq_cut (h : InHand size deeds sequence bs) (hsize : 0 < size)
    {stop : Option SourceStop} (hnone : cut size stop bs = []) :
    parts deeds = cut size stop (bytesRead deeds) := by
  rw [h.cut_read hsize, hnone, List.append_nil]

variable {source : Source}

theorem Source.ReadTo.keep {stop : SourceStop} (h : source.ReadTo deeds stop) {deed : CutterDeed}
    (hread : deed.bytes = []) : source.ReadTo (deeds ++ [deed]) stop := by
  refine ⟨?_, h.stop_eq, List.mem_append_left _ h.shown⟩
  rw [bytesRead_append, bytesRead_singleton, hread, List.append_nil, h.content_eq]

theorem InHand.isPrefix_blocks (h : InHand size deeds sequence bs) (hsize : 0 < size)
    (hbegins : bytesRead deeds <+: source.content) :
    numbered 0 (parts deeds) <+: source.blocks size := by
  refine Source.numbered_isPrefix_blocks hsize h.whole (.trans ?_ hbegins)
  rw [h.read_eq]
  exact List.prefix_append ..

theorem Source.ReadTo.blocks_eq {stop : SourceStop} (h : source.ReadTo deeds stop)
    (hparts : parts deeds = cut size (some stop) (bytesRead deeds)) :
    numbered 0 (parts deeds) = source.blocks size := by
  rw [hparts, Source.blocks, h.content_eq, h.stop_eq]

theorem Source.ReadTo.feed {stop : SourceStop} (h : source.ReadTo deeds stop) (more : Source) :
    (source ++ more).ReadTo deeds stop := by
  refine ⟨?_, ?_, h.shown⟩
  · rw [Source.content_append, h.stop_eq, Option.isSome_some, if_pos rfl, h.content_eq]
  · rw [Source.stop?_append, h.stop_eq, Option.some_or]

end Deeds

namespace Cutter

variable {size : Nat} {source : Source} {deeds : List CutterDeed} {p : Cutter}

theorem IsReading.keep (h : p.IsReading source deeds) {deed : CutterDeed}
    (hread : deed.bytes = []) : p.IsReading source (deeds ++ [deed]) := by
  refine ⟨?_, h.2⟩
  rw [bytesRead_append, bytesRead_singleton, hread, List.append_nil, h.1]

theorem IsReading.got (h : p.IsReading source deeds) {room : Nat} {bs : Bytes} {rest : Source}
    (hread : p.source.read room = .got bs rest) (hne : bs ≠ []) :
    (p.afterRead bs rest).IsReading source (deeds ++ [.got bs]) := by
  obtain ⟨hcontent, hstop⟩ := Source.read_eq_got hread hne
  refine ⟨?_, h.2.trans hstop⟩
  rw [h.1, hcontent, bytesRead_append, bytesRead_singleton, List.append_assoc]
  rfl

theorem IsReading.stopped (h : p.IsReading source deeds) {stop : SourceStop}
    (hcontent : p.source.content = []) (hstop : p.source.stop? = some stop) :
    source.ReadTo (deeds ++ [stop.deed]) stop := by
  refine ⟨?_, h.2.trans hstop, List.mem_append_right _ (List.mem_singleton_self _)⟩
  rw [h.1, hcontent, List.append_nil, bytesRead_append, bytesRead_singleton]
  cases stop <;> exact (List.append_nil _).symm

theorem stands_withBuffer {sequence : Nat} {buffer : Bytes}
    (hhand : InHand p.blockSize deeds sequence buffer) (hreading : p.IsReading source deeds)
    (hlength : buffer.length ≤ p.blockSize) :
    (p.withBuffer sequence buffer).Stands source deeds := by
  unfold withBuffer
  split
  · next hfull => exact ⟨hhand, hreading, Nat.le_antisymm hlength hfull⟩
  · next hopen => exact ⟨hhand, hreading, Nat.lt_of_not_le hopen⟩

theorem stands_atEnd {sequence : Nat} {buffer : Bytes}
    (hhand : InHand p.blockSize deeds sequence buffer) (hend : source.ReadTo deeds .ended)
    (hlength : buffer.length < p.blockSize) :
    (p.atEnd sequence buffer).Stands source deeds := by
  have hpos : 0 < p.blockSize := Nat.lt_of_le_of_lt (Nat.zero_le _) hlength
  unfold atEnd
  split
  · next hnil =>
      subst hnil
      exact ⟨hend, hhand.parts_eq_cut hpos (cut_nil ..), hhand.sequence_eq⟩
  · next hne => exact ⟨hhand, hend, hne, hlength⟩

theorem stands_afterOffer {block : Block} {last : Bool} (hpos : 0 < p.blockSize)
    (h : p.Offers source deeds block last) {deed : CutterDeed} (hread : deed.bytes = [])
    (hplaced : deed.placed? = some block) :
    (p.afterOffer block.sequence last).Stands source (deeds ++ [deed]) := by
  obtain ⟨hhand, hrest⟩ := h
  cases last with
  | false =>
      obtain ⟨hreading, hlength⟩ := hrest
      exact ⟨hhand.place hlength hread hplaced, hreading.keep hread, hpos⟩
  | true =>
      -- the remainder is the last of the pieces
      obtain ⟨hend, hne, hlength⟩ := hrest
      have hparts : parts (deeds ++ [deed]) = parts deeds ++ [block.payload] := by simp [hplaced]
      have hbytes : bytesRead (deeds ++ [deed]) = bytesRead deeds := by simp [hread]
      refine ⟨hend.keep hread, ?_, ?_⟩
      · rw [hparts, hbytes]
        exact ((hhand.cut_read hpos _).trans (by rw [cut_remainder hne hlength])).symm
      · rw [hparts, List.length_append, ← hhand.sequence_eq]
        rfl

/-- What is in hand is dropped by a cutter that is stopped. -/
theorem stands_cancelled {sequence : Nat} {bs : Bytes}
    (hhand : InHand p.blockSize deeds sequence bs) (hbegins : bytesRead deeds <+: source.content) :
    (p.leave .cancelled).Stands source deeds := by
  refine ⟨hhand.whole, ?_, hbegins⟩
  rw [hhand.read_eq]
  exact List.prefix_append ..

/-- What was read up to now is the beginning of the source. -/
theorem Offers.read_isPrefix {block : Block} {last : Bool} (h : p.Offers source deeds block last) :
    bytesRead deeds <+: source.content := by
  obtain ⟨-, hrest⟩ := h
  cases last with
  | false =>
      obtain ⟨⟨hcontent, -⟩, -⟩ := hrest
      exact hcontent ▸ List.prefix_append ..
  | true => exact hrest.1.content_eq ▸ List.prefix_refl _

theorem Offers.keep {block : Block} {last : Bool} (h : p.Offers source deeds block last)
    {deed : CutterDeed} (hread : deed.bytes = []) (hplaced : deed.placed? = none) :
    p.Offers source (deeds ++ [deed]) block last := by
  refine ⟨h.1.keep hread hplaced, ?_⟩
  have hrest := h.2
  cases last with
  | false => exact ⟨hrest.1.keep hread, hrest.2⟩
  | true => exact ⟨hrest.1.keep hread, hrest.2⟩

theorem EndsAs.keep {exit : CutterEnd} (h : p.EndsAs source deeds exit) {deed : CutterDeed}
    (hread : deed.bytes = []) (hplaced : deed.placed? = none) :
    p.EndsAs source (deeds ++ [deed]) exit := by
  have hparts : parts (deeds ++ [deed]) = parts deeds := by simp [hplaced]
  have hbytes : bytesRead (deeds ++ [deed]) = bytesRead deeds := by simp [hread]
  cases exit with
  | completed blocks =>
      obtain ⟨hend, hcut, hblocks⟩ := h
      exact ⟨hend.keep hread, by rw [hparts, hbytes, hcut], by rw [hparts, hblocks]⟩
  | failed e =>
      obtain ⟨hend, hcut⟩ := h
      exact ⟨hend.keep hread, by rw [hparts, hbytes, hcut]⟩
  | cancelled =>
      obtain ⟨hwhole, hflatten, hbegins⟩ := h
      exact ⟨hparts ▸ hwhole, by rw [hparts, hbytes]; exact hflatten,
        by rw [hbytes]; exact hbegins⟩

/-- Every deed keeps a cutter where its deeds say. -/
theorem Stands.does {cancelled : Bool} {q : Cutter} {c d : Channel} {deed : CutterDeed}
    (hpos : 0 < p.blockSize) (h : p.Stands source deeds) (hdoes : Does cancelled p c deed q d) :
    q.Stands source (deeds ++ [deed]) := by
  cases hdoes with
  | got hphase _ hread hne =>
      simp only [Stands, hphase] at h
      obtain ⟨hhand, hreading, hroom⟩ := h
      refine stands_withBuffer (hhand.got _) (hreading.got hread hne) ?_
      rw [List.length_append]
      exact Nat.add_le_of_le_sub' (Nat.le_of_lt hroom) (Source.length_read_le hread)
  | foundEnd hphase _ hread =>
      simp only [Stands, hphase] at h
      obtain ⟨hhand, hreading, hroom⟩ := h
      obtain ⟨hcontent, hstop⟩ := Source.read_eq_end (Nat.sub_pos_of_lt hroom) hread
      exact stands_atEnd (hhand.keep rfl rfl) (hreading.stopped hcontent hstop) hroom
  | @foundFault sequence buffer e rest hphase _ hread =>
      simp only [Stands, hphase] at h
      obtain ⟨hhand, hreading, hroom⟩ := h
      obtain ⟨hcontent, hstop⟩ := Source.read_eq_failed hread
      -- what is in hand is not a whole block, so it is cut off
      have hcut : cut p.blockSize (some (.fault e)) buffer = [] := cut_dropped (by simp) hroom
      have hkept : InHand p.blockSize (deeds ++ [.foundFault e]) sequence buffer :=
        hhand.keep rfl rfl
      exact ⟨hreading.stopped hcontent hstop, hkept.parts_eq_cut hpos hcut⟩
  | stopReading hphase _ =>
      simp only [Stands, hphase] at h
      obtain ⟨hhand, ⟨hcontent, -⟩, -⟩ := h
      refine stands_cancelled (hhand.keep rfl rfl) ?_
      rw [hcontent, bytesRead_append]
      simp [bytes]
  | stopOffering hphase _ =>
      simp only [Stands, hphase] at h
      refine stands_cancelled (h.1.keep rfl rfl) ?_
      rw [bytesRead_append]
      simpa [bytes] using h.read_isPrefix
  | reserve hphase _ _ _ =>
      simp only [Stands, hphase] at h
      exact h.keep rfl rfl
  | sent hphase _ =>
      simp only [Stands, hphase] at h
      exact stands_afterOffer hpos h rfl rfl
  | lost hphase _ =>
      simp only [Stands, hphase] at h
      exact stands_afterOffer hpos h rfl rfl
  | exit hphase =>
      simp only [Stands, hphase] at h
      exact h.keep rfl rfl

section Steps

variable {cancelled : Bool} {q : Cutter} {c d : Channel} {deed : CutterDeed}

theorem Does.frame (h : Does cancelled p c deed q d) :
    q.blockSize = p.blockSize ∧ q.consumed = p.consumed + deed.bytes.length := by
  cases h with
  | got =>
      unfold withBuffer
      split <;> exact ⟨rfl, rfl⟩
  | foundEnd =>
      unfold atEnd
      split <;> exact ⟨rfl, rfl⟩
  | foundFault => exact ⟨rfl, rfl⟩
  | stopReading => exact ⟨rfl, rfl⟩
  | stopOffering => exact ⟨rfl, rfl⟩
  | reserve => exact ⟨rfl, rfl⟩
  | sent =>
      unfold afterOffer
      split <;> exact ⟨rfl, rfl⟩
  | lost =>
      unfold afterOffer
      split <;> exact ⟨rfl, rfl⟩
  | exit => exact ⟨rfl, rfl⟩

theorem Does.channel (h : Does cancelled p c deed q d) :
    d = { c with queue := c.queue ++ deed.sent?.toList } := by
  cases h with
  | sent => rfl
  | _ => exact congrArg (Channel.mk _ · _) (List.append_nil _).symm

/-- A block is put into its place by a cutter that was given one. -/
theorem Does.placing (h : Does cancelled p c deed q d) {block : Block}
    (hplaced : deed.placed? = some block) : ∃ last, p.phase = .placing block last := by
  cases h with
  | sent hphase _ =>
      obtain rfl := Option.some.inj hplaced
      exact ⟨_, hphase⟩
  | lost hphase _ =>
      obtain rfl := Option.some.inj hplaced
      exact ⟨_, hphase⟩
  | _ => cases hplaced

/-- A block that is put into its place is sent while there is a receiver. -/
theorem Does.sent_eq (h : Does cancelled p c deed q d) (hreceiver : c.receiver ≠ .dropped) :
    deed.sent? = deed.placed? := by
  cases h with
  | lost _ hdropped => exact absurd hdropped hreceiver
  | _ => rfl

theorem Does.dropped_of_lost (h : Does cancelled p c deed q d) {block : Block}
    (hlost : deed.lost? = some block) : c.receiver = .dropped := by
  cases h with
  | lost _ hdropped => exact hdropped
  | _ => cases hlost

theorem Does.sent_of_dropped (h : Does cancelled p c deed q d) (hdropped : c.receiver = .dropped) :
    deed.sent? = none := by
  cases h with
  | sent _ hreceiver => exact absurd hdropped hreceiver
  | _ => rfl

/-- A place is given to a cutter that nobody stopped, if there is room. -/
theorem Does.reserved (h : Does cancelled p c deed q d) {block : Block} {last : Bool}
    (hphase : q.phase = .placing block last) :
    p.phase = .offering block last ∧ deed = .inner ∧ cancelled = false ∧
      c.receiver = .listening ∧ c.hasRoom = true := by
  cases h with
  | got =>
      unfold withBuffer at hphase
      split at hphase <;> cases hphase
  | foundEnd =>
      unfold atEnd at hphase
      split at hphase <;> cases hphase
  | reserve hoffering hcancel hlisten hroom =>
      obtain ⟨rfl, rfl⟩ := CutterPhase.placing.inj hphase
      exact ⟨hoffering, rfl, hcancel, hlisten, hroom⟩
  | sent =>
      unfold afterOffer at hphase
      split at hphase <;> cases hphase
  | lost =>
      unfold afterOffer at hphase
      split at hphase <;> cases hphase
  | _ => cases hphase

theorem Does.stopped (h : Does cancelled p c deed q d) (hend : q.ending? = some .cancelled) :
    p.ending? = some .cancelled ∨ cancelled = true ∨ c.receiver ≠ .listening := by
  cases h with
  | got =>
      unfold withBuffer at hend
      split at hend <;> cases hend
  | foundEnd =>
      unfold atEnd at hend
      split at hend <;> cases hend
  | foundFault => cases hend
  | stopReading _ hcancel => exact .inr (.inl hcancel)
  | stopOffering _ hstop => exact .inr hstop
  | reserve => cases hend
  | sent =>
      unfold afterOffer at hend
      split at hend <;> cases hend
  | lost =>
      unfold afterOffer at hend
      split at hend <;> cases hend
  | exit hphase =>
      left
      simp only [ending?, hphase]
      exact hend

theorem Does.ending (h : Does cancelled p c deed q d) {exit : CutterEnd}
    (hend : p.ending? = some exit) : q.ending? = some exit ∧ deed = .inner := by
  cases h with
  | exit hphase =>
      simp only [ending?, hphase] at hend
      exact ⟨hend, rfl⟩
  | _ hphase => simp [ending?, hphase] at hend

end Steps

theorem Does.length_bytes_le {cancelled : Bool} {q : Cutter} {c d : Channel} {deed : CutterDeed}
    (hstands : p.Stands source deeds) (h : Does cancelled p c deed q d) (hne : deed.bytes ≠ []) :
    (bytesRead deeds).length + deed.bytes.length ≤
      ((parts deeds).length + 1) * p.blockSize := by
  cases h with
  | got hphase _ hread _ =>
      simp only [Stands, hphase] at hstands
      obtain ⟨hhand, -, hroom⟩ := hstands
      have hfits := Source.length_read_le hread
      rw [hhand.length_read, Nat.add_mul, Nat.one_mul, bytes]
      omega
  | _ => exact absurd rfl hne

theorem account_start {size : Nat} (hpos : 0 < size) (source : Source) :
    Account size source [] (start size source) :=
  ⟨rfl, rfl, rfl, Nat.zero_le _,
    ⟨rfl, fun _ hpart => absurd hpart List.not_mem_nil, rfl⟩, ⟨rfl, rfl⟩, hpos⟩

theorem Account.does (hpos : 0 < size) (h : Account size source deeds p) {cancelled : Bool}
    {q : Cutter} {c d : Channel} {deed : CutterDeed} (hdoes : Does cancelled p c deed q d) :
    Account size source (deeds ++ [deed]) q := by
  obtain ⟨hblockSize, hconsumed⟩ := hdoes.frame
  have hsize : p.blockSize = size := h.blockSize_eq
  refine ⟨hblockSize.trans hsize, ?_, ?_, ?_, h.stands.does (hsize ▸ hpos) hdoes⟩
  · rw [hconsumed, h.consumed_eq, bytesRead_append, bytesRead_singleton, List.length_append]
  · cases hplaced : deed.placed? with
    | none => simp [hplaced, h.placed_eq]
    | some block =>
        -- the block has the number of the parts before it
        obtain ⟨last, hphase⟩ := hdoes.placing hplaced
        have hstands := h.stands
        simp only [Stands, hphase] at hstands
        have hsequence := hstands.1.sequence_eq
        simp only [placed_append, placed_singleton, parts_append, parts_singleton, hplaced,
          Option.toList_some, List.map_cons, List.map_nil, numbered_append, h.placed_eq,
          Nat.zero_add, ← hsequence, numbered_cons, numbered_nil]
  · have hgrows : (parts deeds).length ≤ (parts (deeds ++ [deed])).length := by
      rw [parts_append, List.length_append]
      exact Nat.le_add_right ..
    refine Nat.le_trans ?_ (Nat.mul_le_mul_right size (Nat.add_le_add_right hgrows 1))
    rw [bytesRead_append, bytesRead_singleton, List.length_append]
    by_cases hbytes : deed.bytes = []
    · rw [hbytes]
      exact h.bounded
    · rw [← hsize]
      exact hdoes.length_bytes_le h.stands hbytes

/-! ## A source that gives more -/

theorem IsReading.feed (h : p.IsReading source deeds) (more : Source) :
    ({ p with source := p.source ++ more } : Cutter).IsReading (source ++ more) deeds := by
  obtain ⟨hcontent, hstop⟩ := h
  refine ⟨?_, ?_⟩
  · show (source ++ more).content = bytesRead deeds ++ (p.source ++ more).content
    rw [Source.content_append, Source.content_append, hstop, hcontent]
    split
    · rfl
    · rw [List.append_assoc]
  · show (source ++ more).stop? = (p.source ++ more).stop?
    rw [Source.stop?_append, Source.stop?_append, hstop]

theorem Offers.feed {block : Block} {last : Bool} (h : p.Offers source deeds block last)
    (more : Source) :
    ({ p with source := p.source ++ more } : Cutter).Offers (source ++ more) deeds block last := by
  refine ⟨h.1, ?_⟩
  have hrest := h.2
  cases last with
  | false => exact ⟨hrest.1.feed more, hrest.2⟩
  | true => exact ⟨hrest.1.feed more, hrest.2⟩

theorem EndsAs.feed {exit : CutterEnd} (h : p.EndsAs source deeds exit) (more : Source) :
    ({ p with source := p.source ++ more } : Cutter).EndsAs (source ++ more) deeds exit := by
  cases exit with
  | completed blocks => exact ⟨h.1.feed more, h.2⟩
  | failed e => exact ⟨h.1.feed more, h.2⟩
  | cancelled =>
      obtain ⟨hwhole, hflatten, hbegins⟩ := h
      exact ⟨hwhole, hflatten, hbegins.trans (source.content_isPrefix_append more)⟩

theorem Stands.feed (h : p.Stands source deeds) (more : Source) :
    ({ p with source := p.source ++ more } : Cutter).Stands (source ++ more) deeds := by
  unfold Stands at h ⊢
  cases hphase : p.phase with
  | filling =>
      rw [hphase] at h
      exact ⟨h.1, h.2.1.feed more, h.2.2⟩
  | offering =>
      rw [hphase] at h
      exact h.feed more
  | placing =>
      rw [hphase] at h
      exact h.feed more
  | leaving =>
      rw [hphase] at h
      exact h.feed more
  | exited =>
      rw [hphase] at h
      exact h.feed more

/-- A source that gives more than was known keeps the account. -/
theorem Account.feed (h : Account size source deeds p) (more : Source) :
    Account size (source ++ more) deeds { p with source := p.source ++ more } :=
  ⟨h.blockSize_eq, h.consumed_eq, h.placed_eq, h.bounded, h.stands.feed more⟩

/-! ## What follows from the account -/

theorem Account.endsAs (h : Account size source deeds p) {exit : CutterEnd}
    (hexit : p.ending? = some exit) : p.EndsAs source deeds exit := by
  have hstands := h.stands
  unfold ending? at hexit
  split at hexit
  · next hphase =>
      obtain rfl := Option.some.inj hexit
      simpa only [Stands, hphase] using hstands
  · next hphase =>
      obtain rfl := Option.some.inj hexit
      simpa only [Stands, hphase] using hstands
  · cases hexit

/-- **The blocks that were placed are the first blocks of the source.** -/
theorem Account.placed_isPrefix (hpos : 0 < size) (h : Account size source deeds p) :
    placed deeds <+: source.blocks size := by
  have hend : ∀ {exit : CutterEnd}, p.EndsAs source deeds exit →
      numbered 0 (parts deeds) <+: source.blocks size := by
    intro exit hexit
    cases exit with
    | completed blocks => exact h.blockSize_eq ▸ hexit.1.blocks_eq hexit.2.1 ▸ List.prefix_refl _
    | failed e => exact h.blockSize_eq ▸ hexit.1.blocks_eq hexit.2 ▸ List.prefix_refl _
    | cancelled =>
        obtain ⟨hwhole, hflatten, hbegins⟩ := hexit
        exact Source.numbered_isPrefix_blocks hpos (h.blockSize_eq ▸ hwhole)
          (hflatten.trans hbegins)
  have hstands := h.stands
  rw [h.placed_eq]
  unfold Stands at hstands
  split at hstands
  · obtain ⟨hhand, ⟨hcontent, -⟩, -⟩ := hstands
    exact (h.blockSize_eq ▸ hhand).isPrefix_blocks hpos (hcontent ▸ List.prefix_append ..)
  · exact (h.blockSize_eq ▸ hstands.1).isPrefix_blocks hpos hstands.read_isPrefix
  · exact (h.blockSize_eq ▸ hstands.1).isPrefix_blocks hpos hstands.read_isPrefix
  · exact hend hstands
  · exact hend hstands

end Cutter
end ObjectStore
