/-!
# Splitting

A list is split at every element of a class. Between two separators there is
always a part, perhaps an empty one, so there is one part more than there are
separators, and joining the parts gives the list back.
-/

namespace ObjectStore

variable {α : Type}

def splitWhere (p : α → Bool) : List α → List (List α)
  | [] => [[]]
  | x :: xs =>
    if p x then [] :: splitWhere p xs
    else
      match splitWhere p xs with
      | [] => [[x]]
      | part :: parts => (x :: part) :: parts

theorem splitWhere_ne_nil (p : α → Bool) (xs : List α) : splitWhere p xs ≠ [] := by
  fun_cases splitWhere p xs <;> simp_all

theorem not_of_mem_splitWhere {p : α → Bool} {xs part : List α}
    (h : part ∈ splitWhere p xs) : ∀ x ∈ part, p x = false := by
  induction xs generalizing part with
  | nil => simp_all [splitWhere]
  | cons x xs ih =>
      unfold splitWhere at h
      split at h
      · rcases List.mem_cons.mp h with rfl | h
        · simp
        · exact ih h
      · split at h
        · simp_all
        · next first parts heq =>
            rcases List.mem_cons.mp h with rfl | h
            · intro y hy
              rcases List.mem_cons.mp hy with rfl | hy
              · simp_all
              · exact ih (by simp [heq]) y hy
            · exact ih (by simp [heq, h])

theorem intercalate_splitWhere [DecidableEq α] (s : α) (xs : List α) :
    [s].intercalate (splitWhere (· == s) xs) = xs := by
  induction xs with
  | nil => simp [splitWhere]
  | cons x xs ih =>
      unfold splitWhere
      split
      · next hx =>
          obtain rfl : x = s := by simpa using hx
          obtain ⟨first, parts, heq⟩ := List.exists_cons_of_ne_nil
            (splitWhere_ne_nil (· == x) xs)
          rw [heq] at ih ⊢
          simpa using ih
      · split
        · next heq => exact absurd heq (splitWhere_ne_nil _ _)
        · next first parts heq =>
            rw [heq] at ih
            cases parts <;> simp_all

theorem splitWhere_of_none {p : α → Bool} {xs : List α} (h : ∀ x ∈ xs, p x = false) :
    splitWhere p xs = [xs] := by
  induction xs with
  | nil => rfl
  | cons x xs ih =>
      rw [splitWhere, h x List.mem_cons_self, ih fun y hy => h y (List.mem_cons_of_mem x hy)]
      rfl

theorem splitWhere_append_cons {p : α → Bool} {s : α} (hs : p s = true) (xs ys : List α) :
    splitWhere p (xs ++ s :: ys) = splitWhere p xs ++ splitWhere p ys := by
  induction xs with
  | nil =>
      rw [List.nil_append, splitWhere.eq_def]
      exact if_pos hs
  | cons x xs ih =>
      show splitWhere p (x :: (xs ++ s :: ys)) = splitWhere p (x :: xs) ++ splitWhere p ys
      rw [splitWhere.eq_def p (x :: _), splitWhere.eq_def p (x :: xs)]
      dsimp only
      rw [ih]
      cases hx : p x with
      | true => rfl
      | false =>
          obtain ⟨part, parts, heq⟩ := List.exists_cons_of_ne_nil (splitWhere_ne_nil p xs)
          rw [heq]
          rfl

theorem splitWhere_append_of_none {p : α → Bool} {xs : List α} (h : ∀ x ∈ xs, p x = false)
    (ys : List α) :
    splitWhere p (xs ++ ys) = (splitWhere p ys).modifyHead (xs ++ ·) := by
  induction xs with
  | nil =>
      rw [List.nil_append]
      cases splitWhere p ys <;> rfl
  | cons x xs ih =>
      have hrest := ih fun y hy => h y (List.mem_cons_of_mem x hy)
      rw [List.cons_append, splitWhere, h x List.mem_cons_self, hrest]
      cases hparts : splitWhere p ys with
      | nil => exact absurd hparts (splitWhere_ne_nil p ys)
      | cons part parts => rfl

theorem splitWhere_append_none {p : α → Bool} {ys : List α} (h : ∀ y ∈ ys, p y = false)
    (xs : List α) :
    ∃ front last, splitWhere p xs = front ++ [last] ∧
      splitWhere p (xs ++ ys) = front ++ [last ++ ys] := by
  induction xs with
  | nil => exact ⟨[], [], rfl, splitWhere_of_none h⟩
  | cons x xs ih =>
      obtain ⟨front, last, hparts, hmore⟩ := ih
      rw [List.cons_append, splitWhere, splitWhere, hparts, hmore]
      cases p x with
      | true => exact ⟨[] :: front, last, rfl, rfl⟩
      | false =>
          cases front with
          | nil => exact ⟨[], x :: last, rfl, rfl⟩
          | cons first front => exact ⟨(x :: first) :: front, last, rfl, rfl⟩

/-- Splitting a text that was written element by element splits what was
written, if separators are written as separators and nothing else is. -/
theorem splitWhere_flatMap {β : Type} {p : α → Bool} {q : β → Bool} {f : α → List β}
    (hsep : ∀ x, p x = true → ∃ y, f x = [y] ∧ q y = true)
    (hother : ∀ x, p x = false → ∀ y ∈ f x, q y = false) (xs : List α) :
    splitWhere q (xs.flatMap f) = (splitWhere p xs).map (·.flatMap f) := by
  induction xs with
  | nil => rfl
  | cons x xs ih =>
      rw [List.flatMap_cons, splitWhere]
      cases hx : p x with
      | true =>
          obtain ⟨y, hfx, hy⟩ := hsep x hx
          rw [hfx, List.singleton_append, splitWhere, hy, ih]
          rfl
      | false =>
          rw [splitWhere_append_of_none (hother x hx), ih]
          cases hparts : splitWhere p xs with
          | nil => exact absurd hparts (splitWhere_ne_nil p xs)
          | cons part parts => rfl

theorem intercalate_cons {s : α} (first : List α) (rest : List (List α)) :
    [s].intercalate (first :: rest) = first ++ rest.flatMap (s :: ·) := by
  induction rest generalizing first with
  | nil => rw [List.intercalate_singleton, List.flatMap_nil, List.append_nil]
  | cons second rest ih =>
      rw [List.intercalate_cons_cons, ih second, List.flatMap_cons, List.append_assoc]
      rfl

theorem flatMap_cons_intercalate {s : α} {parts : List (List α)} (h : parts ≠ []) :
    parts.flatMap (s :: ·) = s :: [s].intercalate parts := by
  obtain ⟨first, rest, rfl⟩ := List.exists_cons_of_ne_nil h
  rw [intercalate_cons, List.flatMap_cons]
  rfl

theorem splitWhere_intercalate {p : α → Bool} {s : α} (hs : p s = true) {parts : List (List α)}
    (hne : parts ≠ []) (h : ∀ part ∈ parts, ∀ x ∈ part, p x = false) :
    splitWhere p ([s].intercalate parts) = parts := by
  obtain ⟨first, rest, rfl⟩ := List.exists_cons_of_ne_nil hne
  induction rest generalizing first with
  | nil => rw [List.intercalate_singleton, splitWhere_of_none (h first List.mem_cons_self)]
  | cons second rest ih =>
      have hrest := ih second (List.cons_ne_nil _ _) fun part hpart =>
        h part (List.mem_cons_of_mem first hpart)
      rw [List.intercalate_cons_cons, List.append_assoc, List.singleton_append,
        splitWhere_append_cons hs, hrest, splitWhere_of_none (h first List.mem_cons_self)]
      rfl

/-- The first separator divides a list in one way. -/
theorem append_cons_inj {s : α} {xs xs' ys ys' : List α} (h : s ∉ xs) (h' : s ∉ xs') :
    xs ++ s :: ys = xs' ++ s :: ys' ↔ xs = xs' ∧ ys = ys' := by
  induction xs generalizing xs' with
  | nil =>
      cases xs' with
      | nil => simp only [List.nil_append, List.cons.injEq, true_and]
      | cons x xs' =>
          have hne : s ≠ x := fun heq => h' (heq ▸ List.mem_cons_self)
          simp only [List.nil_append, List.cons_append, List.cons.injEq, hne, false_and,
            List.nil_eq, reduceCtorEq]
  | cons x xs ih =>
      rw [List.mem_cons, not_or] at h
      cases xs' with
      | nil =>
          simp only [List.nil_append, List.cons_append, List.cons.injEq, Ne.symm h.1, false_and,
            reduceCtorEq]
      | cons x' xs' =>
          rw [List.mem_cons, not_or] at h'
          simp only [List.cons_append, List.cons.injEq, ih h.2 h'.2, and_assoc]

end ObjectStore
