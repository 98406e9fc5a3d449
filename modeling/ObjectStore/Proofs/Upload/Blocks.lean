import ObjectStore.Data.Pieces
import ObjectStore.Upload.Cutter

/-!
# The blocks of a source

What a source gives in the end does not depend on how its reads go: bytes, and
a way to stop. Cut into pieces of one size and numbered from zero, the bytes
are the blocks of the source. The remainder is a block only if the source
ended; a failed read drops it.

A cutter that nobody stops offers these blocks and no others, in order. What
it has sent followed by what it has still to send never changes.
-/

namespace ObjectStore

inductive SourceStop where
  | ended
  | fault (e : IoError)
  deriving DecidableEq, Repr

namespace Source

/-- The bytes of a source up to where it stops. -/
def content : Source → Bytes
  | .bytes bs :: rest => if bs = [] then [] else bs ++ content rest
  | _ => []

def stop? : Source → Option SourceStop
  | [] => none
  | .bytes bs :: rest => if bs = [] then some .ended else stop? rest
  | .fault e :: _ => some (.fault e)
  | .ended :: _ => some .ended

theorem read_eq_waiting {room : Nat} {s : Source} (h : s.read room = .waiting) : s = [] := by
  unfold read at h
  split at h
  · rfl
  · split at h <;> cases h
  · cases h
  · cases h

theorem read_eq_got {room : Nat} {s rest : Source} {bs : Bytes}
    (h : s.read room = .got bs rest) (hne : bs ≠ []) :
    s.content = bs ++ rest.content ∧ s.stop? = rest.stop? := by
  unfold read at h
  split at h
  · cases h
  · next cs tail =>
      split at h
      · obtain ⟨rfl, rfl⟩ := SourceRead.got.inj h
        simp [content, stop?, hne]
      · next hlong =>
          obtain ⟨rfl, rfl⟩ := SourceRead.got.inj h
          -- the read took a part of these bytes, so neither part is empty
          have hcs : cs ≠ [] := by rintro rfl; simp at hlong
          have hdrop : cs.drop room ≠ [] := by
            rw [Ne, List.drop_eq_nil_iff]
            exact hlong
          simp only [content, stop?, hcs, hdrop, if_false]
          rw [← List.append_assoc, List.take_append_drop]
          exact ⟨rfl, trivial⟩
  · cases h
  · obtain ⟨rfl, -⟩ := SourceRead.got.inj h
    exact absurd rfl hne

theorem read_eq_end {room : Nat} {s rest : Source} (hroom : 0 < room)
    (h : s.read room = .got [] rest) : s.content = [] ∧ s.stop? = some .ended := by
  unfold read at h
  split at h
  · cases h
  · next cs tail =>
      split at h
      · obtain ⟨rfl, -⟩ := SourceRead.got.inj h
        exact ⟨rfl, rfl⟩
      · next hlong =>
          have htake : cs.take room = [] := (SourceRead.got.inj h).1
          rw [List.take_eq_nil_iff] at htake
          rcases htake with rfl | rfl
          · exact absurd hroom (Nat.lt_irrefl 0)
          · simp at hlong
  · cases h
  · exact ⟨rfl, rfl⟩

theorem read_eq_failed {room : Nat} {s rest : Source} {e : IoError}
    (h : s.read room = .failed e rest) : s.content = [] ∧ s.stop? = some (.fault e) := by
  unfold read at h
  split at h
  · cases h
  · split at h <;> cases h
  · obtain ⟨rfl, -⟩ := SourceRead.failed.inj h
    exact ⟨rfl, rfl⟩
  · cases h

end Source

/-! ## Cutting and numbering -/

/-- Bytes in pieces of one size. The shorter remainder counts only where
the source ended. -/
def cut (size : Nat) (stop : Option SourceStop) (bs : Bytes) : List Bytes :=
  if stop = some .ended then pieces size bs
  else (pieces size bs).filter fun p => p.length = size

def numbered (first : Nat) (parts : List Bytes) : List Block :=
  (parts.zipIdx first).map fun p => ⟨p.2, p.1⟩

/-- The blocks of a source. -/
def Source.blocks (size : Nat) (s : Source) : List Block :=
  numbered 0 (cut size s.stop? s.content)

theorem cut_append {size : Nat} {full : Bytes} (hsize : 0 < size)
    (hfull : full.length = size) (stop : Option SourceStop) (rest : Bytes) :
    cut size stop (full ++ rest) = full :: cut size stop rest := by
  unfold cut
  rw [pieces_append hsize hfull]
  split
  · rfl
  · rw [List.filter_cons_of_pos (by simpa using hfull)]

@[simp] theorem cut_nil (size : Nat) (stop : Option SourceStop) : cut size stop [] = [] := by
  unfold cut
  split <;> simp

theorem cut_remainder {size : Nat} {bs : Bytes} (hne : bs ≠ []) (hshort : bs.length < size) :
    cut size (some .ended) bs = [bs] := by
  rw [cut, if_pos rfl, pieces_short hne (Nat.le_of_lt hshort)]

theorem cut_dropped {size : Nat} {stop : Option SourceStop} {bs : Bytes}
    (hstop : stop ≠ some .ended) (hshort : bs.length < size) : cut size stop bs = [] := by
  by_cases hne : bs = []
  · rw [hne, cut_nil]
  · rw [cut, if_neg hstop, pieces_short hne (Nat.le_of_lt hshort)]
    simp [Nat.ne_of_lt hshort]

@[simp] theorem numbered_nil (first : Nat) : numbered first [] = [] := rfl

@[simp] theorem numbered_cons (first : Nat) (p : Bytes) (parts : List Bytes) :
    numbered first (p :: parts) = ⟨first, p⟩ :: numbered (first + 1) parts := rfl

@[simp] theorem length_numbered (first : Nat) (parts : List Bytes) :
    (numbered first parts).length = parts.length := by
  simp [numbered]

theorem getElem?_numbered (first : Nat) (parts : List Bytes) (i : Nat) :
    (numbered first parts)[i]? = parts[i]?.map fun p => ⟨first + i, p⟩ := by
  simp only [numbered, List.getElem?_map, List.getElem?_zipIdx, Option.map_map]
  rfl

/-! ## What a cutter has still to do -/

/-- What the cutter will do if nobody stops it, told by how its source stops. -/
def CutterEnd.ofStop (blocks : Nat) : SourceStop → CutterEnd
  | .ended => .completed blocks
  | .fault e => .failed e

namespace Cutter

def behind (p : Cutter) (sequence : Nat) (last : Bool) : List Block :=
  if last then []
  else numbered (sequence + 1) (cut p.blockSize p.source.stop? p.source.content)

/-- The blocks that a cutter has still to send if nobody stops it. -/
def pending (p : Cutter) : List Block :=
  match p.phase with
  | .filling sequence buffer =>
    numbered sequence (cut p.blockSize p.source.stop? (buffer ++ p.source.content))
  | .offering block last => block :: p.behind block.sequence last
  | .placing block last => block :: p.behind block.sequence last
  | .leaving _ => []
  | .exited _ => []

def endBehind (p : Cutter) (sequence : Nat) (last : Bool) : Option CutterEnd :=
  if last then some (.completed (sequence + 1))
  else p.source.stop?.map (.ofStop (sequence + 1 + (p.behind sequence last).length))

/-- How a cutter ends if nobody stops it. There is no end where the source
does not stop. -/
def final (p : Cutter) : Option CutterEnd :=
  match p.phase with
  | .filling sequence _ => p.source.stop?.map (.ofStop (sequence + p.pending.length))
  | .offering block last => p.endBehind block.sequence last
  | .placing block last => p.endBehind block.sequence last
  | .leaving exit => some exit
  | .exited exit => some exit

def NotFull (p : Cutter) : Prop :=
  match p.phase with
  | .filling _ buffer => buffer.length < p.blockSize
  | _ => 0 < p.blockSize

theorem NotFull.pos {p : Cutter} (h : p.NotFull) : 0 < p.blockSize := by
  unfold NotFull at h
  split at h
  · exact Nat.lt_of_le_of_lt (Nat.zero_le _) h
  · exact h

@[simp] theorem final_start (size : Nat) (source : Source) :
    (start size source).final =
      source.stop?.map (.ofStop (source.blocks size).length) := by
  simp [final, start, pending, Source.blocks]

theorem notFull_start {size : Nat} (h : 0 < size) (source : Source) :
    (start size source).NotFull := h

theorem atEnd_facts {p : Cutter} {sequence : Nat} {buffer : Bytes}
    (hroom : buffer.length < p.blockSize) :
    (p.atEnd sequence buffer).NotFull ∧
      (p.atEnd sequence buffer).pending =
        numbered sequence (cut p.blockSize (some .ended) buffer) ∧
      (p.atEnd sequence buffer).final =
        some (.completed (sequence + (cut p.blockSize (some .ended) buffer).length)) := by
  have hpos : 0 < p.blockSize := Nat.lt_of_le_of_lt (Nat.zero_le _) hroom
  unfold atEnd
  split
  · next hnil =>
      subst hnil
      rw [cut_nil]
      exact ⟨hpos, rfl, rfl⟩
  · next hne =>
      rw [cut_remainder hne hroom]
      exact ⟨hpos, rfl, rfl⟩

/-- More in the buffer is a block when the block is full. -/
theorem withBuffer_facts {p : Cutter} {sequence : Nat} {buffer : Bytes}
    (hpos : 0 < p.blockSize) (hroom : buffer.length ≤ p.blockSize) :
    (p.withBuffer sequence buffer).NotFull ∧
      (p.withBuffer sequence buffer).pending =
        numbered sequence (cut p.blockSize p.source.stop? (buffer ++ p.source.content)) ∧
      (p.withBuffer sequence buffer).final =
        p.source.stop?.map (.ofStop (sequence +
          (cut p.blockSize p.source.stop? (buffer ++ p.source.content)).length)) := by
  unfold withBuffer
  split
  · next hfull =>
      -- a full buffer is the first piece of all that is left
      have hlen : buffer.length = p.blockSize := Nat.le_antisymm hroom hfull
      rw [cut_append hpos hlen]
      refine ⟨hpos, rfl, ?_⟩
      simp only [final, endBehind, behind, Bool.false_eq_true, if_false, length_numbered,
        List.length_cons]
      rw [Nat.add_right_comm, Nat.add_assoc]
  · next hopen =>
      refine ⟨Nat.lt_of_not_le hopen, rfl, ?_⟩
      simp only [final, pending, length_numbered]

/-- A read changes nothing of what is still to come. -/
theorem fill_facts {p q : Cutter} {sequence : Nat} {buffer : Bytes}
    (hphase : p.phase = .filling sequence buffer) (hroom : buffer.length < p.blockSize)
    (h : p.fill sequence buffer = some q) :
    q.NotFull ∧ q.pending = p.pending ∧ q.final = p.final := by
  have hpending : p.pending =
      numbered sequence (cut p.blockSize p.source.stop? (buffer ++ p.source.content)) := by
    simp only [pending, hphase]
  have hfinal : p.final = p.source.stop?.map (.ofStop (sequence + p.pending.length)) := by
    simp only [final, hphase]
  rw [hfinal, hpending, length_numbered]
  unfold fill at h
  split at h
  · cases h
  · next e rest hread =>
      obtain rfl := Option.some.inj h
      obtain ⟨hcontent, hstop⟩ := Source.read_eq_failed hread
      -- what is in the buffer is lost, and it would have been no block
      rw [hcontent, hstop, List.append_nil, cut_dropped (by simp) hroom]
      exact ⟨Nat.lt_of_le_of_lt (Nat.zero_le _) hroom, rfl, rfl⟩
  · next bs rest hread =>
      split at h
      · next hnil =>
          subst hnil
          obtain rfl := Option.some.inj h
          obtain ⟨hcontent, hstop⟩ := Source.read_eq_end (Nat.sub_pos_of_lt hroom) hread
          rw [hcontent, hstop, List.append_nil]
          exact atEnd_facts hroom
      · next hne =>
          obtain rfl := Option.some.inj h
          obtain ⟨hcontent, hstop⟩ := Source.read_eq_got hread hne
          have hlen := Source.length_read_le hread
          rw [hcontent, hstop, ← List.append_assoc]
          refine withBuffer_facts (Nat.lt_of_le_of_lt (Nat.zero_le _) hroom) ?_
          rw [List.length_append]
          exact Nat.add_le_of_le_sub' (Nat.le_of_lt hroom) hlen

/-- **A step of a cutter that nobody stops** keeps what was sent together with
what is still to be sent, and the way it ends. -/
theorem step_listening {p q : Cutter} {c d : Channel} (hroom : p.NotFull)
    (hlisten : c.receiver = .listening) (h : p.step false c = some (q, d)) :
    q.NotFull ∧ d.receiver = .listening ∧ d.capacity = c.capacity ∧
      d.queue ++ q.pending = c.queue ++ p.pending ∧ q.final = p.final := by
  have hpos := hroom.pos
  cases move_of_step h with
  | read hphase _ hfill =>
      simp only [NotFull, hphase] at hroom
      obtain ⟨hfull, hpending, hfinal⟩ := fill_facts hphase hroom hfill
      exact ⟨hfull, hlisten, rfl, by rw [hpending], hfinal⟩
  | stopReading _ hcancel => cases hcancel
  | stopOffering _ hstop =>
      rcases hstop with hcancel | hgone
      · cases hcancel
      · exact absurd hlisten hgone
  | reserve hphase =>
      refine ⟨hpos, hlisten, rfl, ?_, ?_⟩
      · simp only [pending, hphase]
        rfl
      · simp only [final, hphase]
        rfl
  | @place block last hphase =>
      -- the block moves from the front of what is pending to the end of the queue
      rw [Channel.send, if_neg (by rw [hlisten]; decide)]
      refine ⟨?_, hlisten, rfl, ?_, ?_⟩
      · cases last <;> exact hpos
      · simp only [pending, hphase, List.append_assoc]
        cases last <;> rfl
      · simp only [final, hphase]
        cases last
        · simp only [afterOffer, endBehind, behind, pending, Bool.false_eq_true, if_false]
          rfl
        · rfl
  | exit hphase =>
      refine ⟨hpos, hlisten, rfl, ?_, ?_⟩
      · simp only [pending, hphase]
      · simp only [final, hphase]

end Cutter
end ObjectStore
