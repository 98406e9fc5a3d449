import Mathlib.Data.List.DropRight
import ObjectStore.Proofs.Text.Utf8
import ObjectStore.Text.Blank

/-!
# What trimming leaves

A class is taken off the ends of a list. What is left is bare at both, and only
such a list is left as it is. In UTF-8 it makes no difference whether bytes are
trimmed or the characters that they stand for.
-/

namespace ObjectStore

/-! ## Ends that are bare -/

def BareEnds {α : Type} (p : α → Bool) (l : List α) : Prop :=
  (∀ x ∈ l.head?, p x = false) ∧ ∀ x ∈ l.getLast?, p x = false

instance {α : Type} (p : α → Bool) (l : List α) : Decidable (BareEnds p l) := by
  unfold BareEnds
  infer_instance

theorem bareEnds_trimBy {α : Type} (p : α → Bool) (l : List α) : BareEnds p (trimBy p l) := by
  have htrim : trimBy p l = (l.dropWhile p).rdropWhile p := rfl
  constructor
  · intro x hx
    obtain ⟨back, hback⟩ := List.rdropWhile_prefix p (l.dropWhile p)
    have hhead : (l.dropWhile p).head? = some x := by
      rw [← hback, List.head?_append, ← htrim, Option.mem_def.mp hx, Option.some_or]
    have hnot := List.head?_dropWhile_not p l
    rw [hhead] at hnot
    exact eq_false_of_ne_true (by simpa using hnot)
  · intro x hx
    have hne : trimBy p l ≠ [] := by
      intro hnil
      rw [hnil] at hx
      cases hx
    rw [List.getLast?_eq_some_getLast hne] at hx
    obtain rfl := Option.some.inj hx
    exact eq_false_of_ne_true (List.rdropWhile_last_not p (l.dropWhile p) hne)

/-- Trimming takes nothing off just if the ends are bare. -/
theorem trimBy_eq_self_iff {α : Type} {p : α → Bool} {l : List α} :
    trimBy p l = l ↔ BareEnds p l :=
  ⟨fun h => h ▸ bareEnds_trimBy p l, fun h => trimBy_of_ends h.1 h.2⟩

/-- What does not begin with one of a class is trimmed at its end alone. -/
theorem trimBy_isPrefix {α : Type} {p : α → Bool} {l : List α}
    (h : ∀ x ∈ l.head?, p x = false) : trimBy p l <+: l := by
  have hfront : l.dropWhile p = l := dropWhile_run (fun x hx => absurd hx List.not_mem_nil) h
  have htrim : trimBy p l = (l.dropWhile p).rdropWhile p := rfl
  rw [htrim, hfront]
  exact List.rdropWhile_prefix p l

theorem exists_eq_append_trimBy {α : Type} (p : α → Bool) (l : List α) :
    ∃ front back, (∀ x ∈ front, p x = true) ∧ (∀ x ∈ back, p x = true) ∧
      l = front ++ trimBy p l ++ back := by
  refine ⟨l.takeWhile p, ((l.dropWhile p).reverse.takeWhile p).reverse,
    fun x hx => List.mem_takeWhile_imp hx,
    fun x hx => List.mem_takeWhile_imp (List.mem_reverse.mp hx), ?_⟩
  rw [trimBy, List.append_assoc, ← List.reverse_append, List.takeWhile_append_dropWhile,
    List.reverse_reverse, List.takeWhile_append_dropWhile]

theorem length_trimBy_le {α : Type} (p : α → Bool) (l : List α) :
    (trimBy p l).length ≤ l.length := by
  obtain ⟨front, back, -, -, hl⟩ := exists_eq_append_trimBy p l
  have hlength := congrArg List.length hl
  rw [List.length_append, List.length_append] at hlength
  omega

/-- What stands between elements of another class is not taken off. -/
theorem mem_trimBy_of_between {α : Type} {p : α → Bool} {front back : List α} {x : α}
    (hfront : ∃ y ∈ front, p y = false) (hback : ∃ y ∈ back, p y = false) :
    x ∈ trimBy p (front ++ x :: back) := by
  have hstop {l : List α} (h : ∃ y ∈ l, p y = false) (rest : List α) :
      (l ++ rest).dropWhile p = l.dropWhile p ++ rest := by
    rw [List.dropWhile_append, if_neg]
    rw [List.isEmpty_iff, List.dropWhile_eq_nil_iff]
    obtain ⟨y, hy, hpy⟩ := h
    exact fun hall => Bool.false_ne_true (hpy.symm.trans (hall y hy))
  obtain ⟨y, hy, hpy⟩ := hback
  rw [trimBy, hstop hfront, List.reverse_append, List.reverse_cons, List.append_assoc,
    hstop ⟨y, List.mem_reverse.mpr hy, hpy⟩, List.mem_reverse]
  simp

/-- To trim more is to trim again: a class may be taken off before a wider one. -/
theorem trimBy_trimBy {α : Type} {p p' : α → Bool} (hle : ∀ x, p x = true → p' x = true)
    (l : List α) : trimBy p' (trimBy p l) = trimBy p' l := by
  obtain ⟨front, back, hfront, hback, hl⟩ := exists_eq_append_trimBy p l
  conv_rhs => rw [hl]
  exact (trimBy_surrounded (fun x hx => hle x (hfront x hx)) fun x hx => hle x (hback x hx)).symm

/-- **Bytes are trimmed as characters are** where the classes agree. -/
theorem Utf8.Agree.trimBy_flatMap {p : Char → Bool} {q : UInt8 → Bool} (h : Agree p q)
    (cs : List Char) :
    trimBy q (cs.flatMap String.utf8EncodeChar) =
      (trimBy p cs).flatMap String.utf8EncodeChar := by
  have hclass {cs : List Char} (hcs : ∀ c ∈ cs, p c = true) :
      ∀ b ∈ cs.flatMap String.utf8EncodeChar, q b = true := by
    intro b hb
    obtain ⟨c, hc, hb⟩ := List.mem_flatMap.mp hb
    exact (h c b hb).trans (hcs c hc)
  obtain ⟨front, back, hfront, hback, hcs⟩ := exists_eq_append_trimBy p cs
  have hbare := bareEnds_trimBy p cs
  conv_lhs => rw [hcs]
  generalize trimBy p cs = middle at hbare
  rw [List.flatMap_append, List.flatMap_append,
    trimBy_surrounded (hclass hfront) (hclass hback)]
  -- the first byte is one of the first character, the last one of the last
  refine trimBy_of_ends (fun b hb => ?_) fun b hb => ?_
  · cases middle with
    | nil => cases hb
    | cons c rest =>
        obtain ⟨b', bs, hbytes, -⟩ := next_encodeChar c
        rw [List.flatMap_cons, hbytes] at hb
        obtain rfl := Option.some.inj hb
        exact (h c b' (hbytes ▸ List.mem_cons_self)).trans (hbare.1 c rfl)
  · rcases List.eq_nil_or_concat middle with rfl | ⟨front, c, rfl⟩
    · cases hb
    · obtain ⟨b', bs, hbytes, -⟩ := next_encodeChar c
      have hne : String.utf8EncodeChar c ≠ [] := hbytes ▸ List.cons_ne_nil b' bs
      rw [List.concat_eq_append] at hb hbare
      rw [List.flatMap_append, List.flatMap_singleton, List.getLast?_append_of_ne_nil _ hne] at hb
      exact (h c b (List.mem_of_getLast? hb)).trans (hbare.2 c List.getLast?_concat)

end ObjectStore
