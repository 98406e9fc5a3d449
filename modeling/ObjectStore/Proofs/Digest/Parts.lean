import ObjectStore.Digest.Md5

/-!
# Digests of messages in parts

A digest under way stands for the message that was taken in so far. Whatever
comes behind it is cut into blocks as if the whole message stood in front, so a
message has the same digest in whatever parts it arrives.
-/

namespace ObjectStore.Md5

/-- Absorbing blocks early changes nothing: what is left over, with any rest
behind it, leads to the same chaining words. -/
theorem foldl_compress_absorb (s : State) (bs rest : Bytes) :
    (pieces 64 ((absorb s bs).2 ++ rest)).foldl compress (absorb s bs).1 =
      (pieces 64 (bs ++ rest)).foldl compress s := by
  fun_induction absorb s bs with
  | case1 s bs _ => rfl
  | case2 s bs hlong ih =>
      have hfull : (bs.take 64).length = 64 := by
        rw [List.drop_eq_nil_iff, Nat.not_le] at hlong
        exact List.length_take_of_le (by omega)
      calc (pieces 64 ((absorb (compress s (bs.take 64)) (bs.drop 64)).2 ++ rest)).foldl compress
            (absorb (compress s (bs.take 64)) (bs.drop 64)).1
        _ = (pieces 64 (bs.drop 64 ++ rest)).foldl compress (compress s (bs.take 64)) := ih
        _ = (pieces 64 (bs.take 64 ++ (bs.drop 64 ++ rest))).foldl compress s := by
          rw [pieces_append (by decide) hfull, List.foldl_cons]
        _ = (pieces 64 (bs ++ rest)).foldl compress s := by
          rw [← List.append_assoc, List.take_append_drop]

/-- A digest under way has taken in a message. It knows the length, and goes
on as if the message stood in front of what comes next. -/
structure Context.HasTaken (c : Context) (message : Bytes) : Prop where
  length : c.length = message.length
  goesOn : ∀ rest, (pieces 64 (c.pending ++ rest)).foldl compress c.state =
    (pieces 64 (message ++ rest)).foldl compress initial

namespace Context.HasTaken

theorem start : Context.start.HasTaken [] := ⟨rfl, fun _ => rfl⟩

theorem update {c : Context} {message : Bytes} (h : c.HasTaken message) (part : Bytes) :
    (c.update part).HasTaken (message ++ part) := by
  constructor
  · show c.length + part.length = _
    rw [h.length, List.length_append]
  · intro rest
    show (pieces 64 ((absorb c.state (c.pending ++ part)).2 ++ rest)).foldl compress
      (absorb c.state (c.pending ++ part)).1 = _
    rw [foldl_compress_absorb, List.append_assoc, h.goesOn, List.append_assoc]

theorem foldl_update {c : Context} {message : Bytes} (h : c.HasTaken message)
    (parts : List Bytes) :
    (parts.foldl Context.update c).HasTaken (message ++ parts.flatten) := by
  induction parts generalizing c message with
  | nil =>
      rw [List.flatten_nil, List.append_nil]
      exact h
  | cons part parts ih =>
      rw [List.foldl_cons, List.flatten_cons, ← List.append_assoc]
      exact ih (h.update part)

theorem finish {c : Context} {message : Bytes} (h : c.HasTaken message) :
    c.finish = digest message := by
  unfold Context.finish digest
  rw [h.goesOn, h.length]

end Context.HasTaken

/-- **A message has one digest**, however it is cut into parts. -/
theorem digestParts_eq (parts : List Bytes) : digestParts parts = digest parts.flatten :=
  (Context.HasTaken.start.foldl_update parts).finish

end ObjectStore.Md5
