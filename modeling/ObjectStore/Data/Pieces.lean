/-!
# Cutting a list into pieces

A list is cut into consecutive pieces of one length; only the last piece may
be shorter. Hash functions cut their message this way, and an upload cuts its
source this way. Joining the pieces gives the list back.
-/

namespace ObjectStore

variable {α : Type}

/-- The pieces of a list, `n` elements each, the last one possibly
shorter. A piece is never empty: `n = 0` cuts like `n = 1`. -/
def pieces (n : Nat) : List α → List (List α)
  | [] => []
  | x :: rest => (x :: rest.take (n - 1)) :: pieces n (rest.drop (n - 1))
termination_by xs => xs.length
decreasing_by simp only [List.length_drop, List.length_cons]; omega

@[simp] theorem pieces_nil (n : Nat) : pieces n ([] : List α) = [] := by
  simp [pieces]

theorem flatten_pieces (n : Nat) (xs : List α) : (pieces n xs).flatten = xs := by
  fun_induction pieces n xs with
  | case1 => rfl
  | case2 x rest ih => simp [ih]

theorem length_pieces {n : Nat} (hn : 0 < n) (xs : List α) :
    (pieces n xs).length = (xs.length + n - 1) / n := by
  fun_induction pieces n xs with
  | case1 =>
      rw [List.length_nil, List.length_nil, Nat.zero_add]
      exact (Nat.div_eq_of_lt (Nat.sub_lt hn Nat.one_pos)).symm
  | case2 x rest ih =>
      have hall : (rest.length + 1 + n - 1) / n = rest.length / n + 1 := by
        rw [← Nat.add_div_right _ hn]
        congr 1
        omega
      rw [List.length_cons, List.length_cons, ih, List.length_drop, hall]
      rcases Nat.lt_or_ge rest.length (n - 1) with hshort | hlong
      · rw [Nat.div_eq_of_lt (by omega), Nat.div_eq_of_lt (by omega)]
      · congr 2
        omega

theorem pieces_append {size : Nat} {full : List α} (hsize : 0 < size)
    (hfull : full.length = size) (rest : List α) :
    pieces size (full ++ rest) = full :: pieces size rest := by
  cases full with
  | nil =>
      rw [List.length_nil] at hfull
      exact absurd hsize (by omega)
  | cons x xs =>
      rw [List.length_cons] at hfull
      have hlen : size - 1 = xs.length := by omega
      rw [List.cons_append, pieces, hlen, List.take_left, List.drop_left]

theorem pieces_short {size : Nat} {bs : List α} (hne : bs ≠ [])
    (hshort : bs.length ≤ size) : pieces size bs = [bs] := by
  cases bs with
  | nil => exact absurd rfl hne
  | cons x xs =>
      rw [List.length_cons] at hshort
      have hlen : xs.length ≤ size - 1 := by omega
      rw [pieces, List.take_of_length_le hlen, List.drop_of_length_le hlen, pieces_nil]

end ObjectStore
