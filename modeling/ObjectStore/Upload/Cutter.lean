import ObjectStore.Upload.Channel
import ObjectStore.Upload.Source

/-!
# Cutters

A cutter cuts a source into blocks of one size and offers them to a channel,
one after the other. It waits where there is nothing to read and where there
is no room in the channel. When there is room it first takes a place and then
puts the block there. A block shorter than the others is offered only when the
source has ended. Before each read and each place it looks whether it was told
to stop.
-/

namespace ObjectStore

inductive CutterEnd where
  | completed (blocks : Nat)
  | cancelled
  | failed (e : IoError)
  deriving DecidableEq, Repr

/-- What a cutter is doing: filling the block of a number, offering a block,
which may be the last one, putting it into the place it was given, going away,
or nothing any more. -/
inductive CutterPhase where
  | filling (sequence : Nat) (buffer : Bytes)
  | offering (block : Block) (last : Bool)
  | placing (block : Block) (last : Bool)
  | leaving (exit : CutterEnd)
  | exited (exit : CutterEnd)
  deriving DecidableEq, Repr

/-- A cutter: the size of its blocks, what is left of its source, how
many bytes it took from it, and what it is doing. -/
structure Cutter where
  blockSize : Nat
  source : Source
  consumed : Nat
  phase : CutterPhase
  deriving DecidableEq, Repr

namespace Cutter

def start (blockSize : Nat) (source : Source) : Cutter :=
  ⟨blockSize, source, 0, .filling 0 []⟩

def exit? (p : Cutter) : Option CutterEnd :=
  match p.phase with
  | .exited exit => some exit
  | _ => none

def leave (p : Cutter) (exit : CutterEnd) : Cutter := { p with phase := .leaving exit }

/-- Goes on after the source ended with so much in the buffer. -/
def atEnd (p : Cutter) (sequence : Nat) (buffer : Bytes) : Cutter :=
  if buffer = [] then p.leave (.completed sequence)
  else { p with phase := .offering ⟨sequence, buffer⟩ true }

/-- Goes on with more in the buffer than before. -/
def withBuffer (p : Cutter) (sequence : Nat) (buffer : Bytes) : Cutter :=
  if p.blockSize ≤ buffer.length then
    { p with phase := .offering ⟨sequence, buffer⟩ false }
  else { p with phase := .filling sequence buffer }

def fill (p : Cutter) (sequence : Nat) (buffer : Bytes) : Option Cutter :=
  match p.source.read (p.blockSize - buffer.length) with
  | .waiting => none
  | .failed e rest => some ({ p with source := rest }.leave (.failed e))
  | .got bs rest =>
    let read := { p with source := rest, consumed := p.consumed + bs.length }
    if bs = [] then some (read.atEnd sequence buffer)
    else some (read.withBuffer sequence (buffer ++ bs))

def afterOffer (p : Cutter) (sequence : Nat) (last : Bool) : Cutter :=
  if last then p.leave (.completed (sequence + 1))
  else { p with phase := .filling (sequence + 1) [] }

/-- One step of a cutter, if it does not have to wait. -/
def step (cancelled : Bool) (p : Cutter) (c : Channel) : Option (Cutter × Channel) :=
  match p.phase with
  | .exited _ => none
  | .filling sequence buffer =>
    if cancelled then some (p.leave .cancelled, c)
    else (p.fill sequence buffer).map (·, c)
  | .offering block last =>
    if cancelled then some (p.leave .cancelled, c)
    else if c.receiver ≠ .listening then some (p.leave .cancelled, c)
    else if c.hasRoom then some ({ p with phase := .placing block last }, c)
    else none
  | .placing block last => some (p.afterOffer block.sequence last, c.send block)
  | .leaving exit => some ({ p with phase := .exited exit }, c)

/-- What a step can be, with all that it needs. -/
inductive Move (cancelled : Bool) (p : Cutter) (c : Channel) : Cutter → Channel → Prop where
  | read {sequence : Nat} {buffer : Bytes} {q : Cutter} : p.phase = .filling sequence buffer →
      cancelled = false → p.fill sequence buffer = some q → Move cancelled p c q c
  | stopReading {sequence : Nat} {buffer : Bytes} : p.phase = .filling sequence buffer →
      cancelled = true → Move cancelled p c (p.leave .cancelled) c
  | stopOffering {block : Block} {last : Bool} : p.phase = .offering block last →
      cancelled = true ∨ c.receiver ≠ .listening → Move cancelled p c (p.leave .cancelled) c
  | reserve {block : Block} {last : Bool} : p.phase = .offering block last →
      cancelled = false → c.receiver = .listening → c.hasRoom = true →
      Move cancelled p c { p with phase := .placing block last } c
  | place {block : Block} {last : Bool} : p.phase = .placing block last →
      Move cancelled p c (p.afterOffer block.sequence last) (c.send block)
  | exit {exit : CutterEnd} : p.phase = .leaving exit →
      Move cancelled p c { p with phase := .exited exit } c

theorem move_of_step {cancelled : Bool} {p q : Cutter} {c d : Channel}
    (h : p.step cancelled c = some (q, d)) : Move cancelled p c q d := by
  unfold step at h
  split at h
  · cases h
  · next sequence buffer hphase =>
      split at h
      · next hcancel =>
          obtain ⟨rfl, rfl⟩ := Prod.mk.inj (Option.some.inj h)
          exact .stopReading hphase hcancel
      · next hcancel =>
          obtain ⟨r, hr, heq⟩ := Option.map_eq_some_iff.mp h
          obtain ⟨rfl, rfl⟩ := Prod.mk.inj heq
          exact .read hphase (Bool.not_eq_true _ ▸ hcancel) hr
  · next block last hphase =>
      split at h
      · next hcancel =>
          obtain ⟨rfl, rfl⟩ := Prod.mk.inj (Option.some.inj h)
          exact .stopOffering hphase (.inl hcancel)
      · next hcancel =>
          split at h
          · next hgone =>
              obtain ⟨rfl, rfl⟩ := Prod.mk.inj (Option.some.inj h)
              exact .stopOffering hphase (.inr hgone)
          · next hlisten =>
              split at h
              · next hroom =>
                  obtain ⟨rfl, rfl⟩ := Prod.mk.inj (Option.some.inj h)
                  exact .reserve hphase (Bool.not_eq_true _ ▸ hcancel)
                    (Decidable.not_not.mp hlisten) hroom
              · cases h
  · next block last hphase =>
      obtain ⟨rfl, rfl⟩ := Prod.mk.inj (Option.some.inj h)
      exact .place hphase
  · next exit hphase =>
      obtain ⟨rfl, rfl⟩ := Prod.mk.inj (Option.some.inj h)
      exact .exit hphase

/-! ## Steps come to an end -/

/-- How much a cutter still has to do, whatever it is doing. -/
def phaseWork : CutterPhase → Nat
  | .filling _ _ => 7
  | .offering _ last => if last then 6 else 12
  | .placing _ last => if last then 5 else 11
  | .leaving _ => 1
  | .exited _ => 0

def work (p : Cutter) : Nat := 6 * p.source.weight + phaseWork p.phase

theorem work_fill_lt {p q : Cutter} {sequence : Nat} {buffer : Bytes}
    (h : p.fill sequence buffer = some q) : q.work < 6 * p.source.weight + 7 := by
  unfold fill at h
  split at h
  · simp at h
  · next e rest heq =>
      obtain rfl := Option.some.inj h
      have := Source.weight_read_failed heq
      simp only [leave, work, phaseWork]
      omega
  · next bs rest heq =>
      have hle := Source.weight_read heq
      split at h
      · obtain rfl := Option.some.inj h
        unfold atEnd
        split <;> simp only [leave, work, phaseWork, if_true] <;> omega
      · next hne =>
          obtain rfl := Option.some.inj h
          have := hle.2 hne
          unfold withBuffer
          split <;> simp only [work, phaseWork, Bool.false_eq_true, if_false] <;> omega

/-- A cutter that has not begun to go away has more to do than one that has. -/
theorem work_leave_lt {p : Cutter} (exit : CutterEnd) (h : 1 < phaseWork p.phase) :
    (p.leave exit).work < p.work :=
  Nat.add_lt_add_left (show phaseWork (.leaving exit) < phaseWork p.phase from h) _

/-- Every step leaves less to do, a waiting block counting three. -/
theorem work_step_lt {cancelled : Bool} {p q : Cutter} {c d : Channel}
    (h : p.step cancelled c = some (q, d)) :
    q.work + 3 * d.queue.length < p.work + 3 * c.queue.length := by
  cases move_of_step h with
  | read hphase hcancel hfill =>
      have := work_fill_lt hfill
      have hw : p.work = 6 * p.source.weight + 7 := by simp [work, phaseWork, hphase]
      omega
  | stopReading hphase _ =>
      exact Nat.add_lt_add_right (work_leave_lt _ (by simp [hphase, phaseWork])) _
  | @stopOffering block last hphase _ =>
      exact Nat.add_lt_add_right
        (work_leave_lt _ (by rw [hphase]; cases last <;> simp [phaseWork])) _
  | @reserve block last hphase _ _ _ =>
      cases last <;> simp [work, phaseWork, hphase]
  | @place block last hphase =>
      have := Channel.length_send_le c block
      cases last <;> simp only [afterOffer, leave, work, phaseWork, hphase] <;> simp <;> omega
  | exit hphase => simp [work, phaseWork, hphase]

def settle (cancelled : Bool) (p : Cutter) (c : Channel) : Cutter × Channel :=
  match h : p.step cancelled c with
  | none => (p, c)
  | some (q, d) =>
    have := work_step_lt h
    settle cancelled q d
termination_by p.work + 3 * c.queue.length

end Cutter
end ObjectStore
