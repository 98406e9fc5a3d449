import ObjectStore.Http.Chunk

/-!
# Sources

Where the bytes of an upload come from. A source is what will happen on it: it
gives bytes, a read fails, or it ends. While nothing is known about what
happens next, a read waits.
-/

namespace ObjectStore

/-- Something that happens on a source. Bytes that are none are an end. -/
inductive SourceEvent where
  | bytes (bs : Bytes)
  | fault (e : IoError)
  | ended
  deriving DecidableEq, Repr

/-- A source: what will happen on it. -/
abbrev Source := List SourceEvent

inductive SourceRead where
  | waiting
  | got (bs : Bytes) (rest : Source)
  | failed (e : IoError) (rest : Source)
  deriving DecidableEq, Repr

namespace Source

/-- Reads at most `room` bytes. What does not fit is read next time. No
bytes are the end, which stays where it is. -/
def read (room : Nat) : Source → SourceRead
  | [] => .waiting
  | .bytes bs :: rest =>
    if bs.length ≤ room then .got bs rest
    else .got (bs.take room) (.bytes (bs.drop room) :: rest)
  | .fault e :: rest => .failed e rest
  | .ended :: rest => .got [] (.ended :: rest)

/-- How much there is to read: each event counts, and each byte. -/
def weight : Source → Nat
  | [] => 0
  | .bytes bs :: rest => bs.length + 1 + weight rest
  | _ :: rest => 1 + weight rest

/-- A read leaves no more to read, and less if it gives bytes. -/
theorem weight_read {room : Nat} {s rest : Source} {bs : Bytes}
    (h : s.read room = .got bs rest) :
    weight rest ≤ weight s ∧ (bs ≠ [] → weight rest < weight s) := by
  unfold read at h
  split at h
  · simp at h
  · split at h
    · simp only [SourceRead.got.injEq] at h
      obtain ⟨rfl, rfl⟩ := h
      simp [weight]
    · next hlt =>
        simp only [SourceRead.got.injEq] at h
        obtain ⟨rfl, rfl⟩ := h
        simp only [weight, List.length_drop]
        refine ⟨by omega, fun hne => ?_⟩
        have : room ≠ 0 := by rintro rfl; simp at hne
        omega
  · simp at h
  · simp only [SourceRead.got.injEq] at h
    obtain ⟨rfl, rfl⟩ := h
    simp

theorem weight_read_failed {room : Nat} {s rest : Source} {e : IoError}
    (h : s.read room = .failed e rest) : weight rest < weight s := by
  unfold read at h
  split at h
  · simp at h
  · split at h <;> simp at h
  · simp only [SourceRead.failed.injEq] at h
    simp [weight, ← h.2]
  · simp at h

theorem length_read_le {room : Nat} {s rest : Source} {bs : Bytes}
    (h : s.read room = .got bs rest) : bs.length ≤ room := by
  unfold read at h
  split at h
  · simp at h
  · split at h
    · next hle =>
        simp only [SourceRead.got.injEq] at h
        exact h.1 ▸ hle
    · simp only [SourceRead.got.injEq] at h
      rw [← h.1, List.length_take]
      exact Nat.min_le_left ..
  · simp at h
  · simp only [SourceRead.got.injEq] at h
    simp [← h.1]

end Source
end ObjectStore
