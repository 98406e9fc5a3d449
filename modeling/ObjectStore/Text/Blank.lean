/-!
# Blanks

Which characters count as blank, and how blanks are taken off the ends of a
text. There are two classes: the Unicode property White_Space, and the four
blanks of XML, which are also the ones of a number in an XML document.
-/

namespace ObjectStore

/-- The Unicode property White_Space. -/
def isBlank (c : Char) : Bool :=
  let n := c.toNat
  (0x9 ≤ n ∧ n ≤ 0xD) || n == 0x20 || n == 0x85 || n == 0xA0 || n == 0x1680 ||
  (0x2000 ≤ n ∧ n ≤ 0x200A) || n == 0x2028 || n == 0x2029 || n == 0x202F ||
  n == 0x205F || n == 0x3000

/-- The blanks of XML: space, tab, carriage return and line feed. -/
def isXmlBlank (c : Char) : Bool :=
  c == ' ' || c == '\t' || c == '\r' || c == '\n'

def trimBy {α : Type} (p : α → Bool) (l : List α) : List α :=
  ((l.dropWhile p).reverse.dropWhile p).reverse

def trimBlank (s : String) : String := String.ofList (trimBy isBlank s.toList)

theorem mem_of_mem_trimBy {α : Type} {p : α → Bool} {l : List α} {x : α} (h : x ∈ trimBy p l) :
    x ∈ l := by
  have hfront := (List.dropWhile_sublist p).subset (List.mem_reverse.mp h)
  exact (List.dropWhile_sublist p).subset (List.mem_reverse.mp hfront)

theorem trimBy_of_ends {α : Type} {p : α → Bool} {l : List α}
    (hhead : ∀ x ∈ l.head?, p x = false) (hlast : ∀ x ∈ l.getLast?, p x = false) :
    trimBy p l = l := by
  unfold trimBy
  have h₁ : l.dropWhile p = l := by
    cases l with
    | nil => rfl
    | cons x l => simp [hhead x (by simp)]
  have h₂ : l.reverse.dropWhile p = l.reverse := by
    cases h : l.reverse with
    | nil => rfl
    | cons x r =>
        have : p x = false := hlast x (by
          rw [← List.head?_reverse, h]; rfl)
        simp [this]
  rw [h₁, h₂, List.reverse_reverse]

theorem trimBy_surrounded {α : Type} {p : α → Bool} {front l back : List α}
    (hfront : ∀ x ∈ front, p x = true) (hback : ∀ x ∈ back, p x = true) :
    trimBy p (front ++ l ++ back) = trimBy p l := by
  unfold trimBy
  rw [List.append_assoc, List.dropWhile_append_of_pos hfront, List.dropWhile_append]
  split
  · next hempty =>
      have hnone : (back ++ []).dropWhile p = [] := List.dropWhile_append_of_pos hback
      rw [List.append_nil] at hnone
      rw [List.isEmpty_iff.mp hempty, hnone]
  · rw [List.reverse_append,
      List.dropWhile_append_of_pos fun x hx => hback x (List.mem_reverse.mp hx)]

/-! ## Runs -/

/-- A run in front of what is not of its kind is taken whole. -/
theorem takeWhile_run {α : Type} {p : α → Bool} {run rest : List α} (hrun : ∀ x ∈ run, p x = true)
    (hrest : ∀ x ∈ rest.head?, p x = false) : (run ++ rest).takeWhile p = run := by
  rw [List.takeWhile_append_of_pos hrun]
  cases rest with
  | nil => exact List.append_nil run
  | cons x rest => rw [List.takeWhile_cons_of_neg (by simp [hrest x rfl]), List.append_nil]

theorem dropWhile_run {α : Type} {p : α → Bool} {run rest : List α} (hrun : ∀ x ∈ run, p x = true)
    (hrest : ∀ x ∈ rest.head?, p x = false) : (run ++ rest).dropWhile p = rest := by
  rw [List.dropWhile_append_of_pos hrun]
  cases rest with
  | nil => rfl
  | cons x rest => exact List.dropWhile_cons_of_neg (by simp [hrest x rfl])

end ObjectStore
