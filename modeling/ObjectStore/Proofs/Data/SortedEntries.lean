import Mathlib.Data.List.Forall2
import ObjectStore.Data.SortedMap

/-!
# Entries of sorted maps

What a map says about its entries and what writing one key does to them: the
keys are different and in order, and the entries of all other keys stay as
they are.
-/

namespace ObjectStore.SortedMap

variable {α : Type}

theorem nodup_keys (m : SortedMap α) : (m.entries.map Prod.fst).Nodup := by
  rw [List.Nodup, List.pairwise_map]
  refine m.ascending.imp ?_
  intro p q hlt heq
  rw [heq] at hlt
  exact String.lt_irrefl q.1 hlt

theorem mem_insert {m : SortedMap α} {k : String} {v : α} {p : String × α}
    (h : p ∈ (m.insert k v).entries) : p = (k, v) ∨ p ∈ m.entries :=
  key_of_mem_insertEntry h

theorem forall₂_insertEntry {R : String × α → String × α → Prop}
    (hkey : ∀ p q, R p q → p.1 = q.1) {k : String} {v w : α} (hnew : R (k, v) (k, w))
    {l l' : List (String × α)} (h : List.Forall₂ R l l') :
    List.Forall₂ R (insertEntry k v l) (insertEntry k w l') := by
  induction h with
  | nil => exact .cons hnew .nil
  | @cons p q rest rest' hpq hrest ih =>
      obtain ⟨pk, pv⟩ := p
      obtain ⟨qk, qv⟩ := q
      obtain rfl : pk = qk := hkey _ _ hpq
      unfold insertEntry
      split
      · exact .cons hnew (.cons hpq hrest)
      · split
        · exact .cons hnew hrest
        · exact .cons hpq ih

theorem filter_insert {wanted : String → Bool} (m : SortedMap α) {k : String}
    (hk : wanted k = false) (v : α) :
    (m.insert k v).entries.filter (fun p => wanted p.1) =
      m.entries.filter fun p => wanted p.1 := by
  show (insertEntry k v m.entries).filter (fun p => wanted p.1) = _
  induction m.entries with
  | nil => exact List.filter_cons_of_neg (by rw [hk]; decide)
  | cons p rest ih =>
      obtain ⟨k', v'⟩ := p
      unfold insertEntry
      split
      · rw [List.filter_cons_of_neg (by rw [hk]; decide)]
      · split
        · next heq =>
            subst heq
            rw [List.filter_cons_of_neg (by rw [hk]; decide),
              List.filter_cons_of_neg (by rw [hk]; decide)]
        · rw [List.filter_cons, List.filter_cons, ih]

theorem pairwise_filter (m : SortedMap α) (wanted : String → Bool) :
    (m.entries.filter fun p => wanted p.1).Pairwise fun p q => decide (p.1 ≤ q.1) = true := by
  refine (m.ascending.imp ?_).filter _
  intro p q hlt
  rw [decide_eq_true_eq]
  exact Std.le_of_lt hlt

/-! ## Entries and what is read -/

section Read

variable {l l' : List (String × α)} (h : l.Pairwise fun p q => p.1 < q.1)
  (h' : l'.Pairwise fun p q => p.1 < q.1)
include h

theorem mem_iff_lookup {k : String} {v : α} : (k, v) ∈ l ↔ l.lookup k = some v := by
  induction h with
  | nil => simp only [List.not_mem_nil, List.lookup_nil, reduceCtorEq]
  | @cons p rest hless _ ih =>
      obtain ⟨k', v'⟩ := p
      rw [lookup_cons_eq, List.mem_cons, ih, Prod.mk.injEq]
      by_cases hk : k = k'
      · -- the key does not come again behind its entry
        have hnone : rest.lookup k ≠ some v := by
          intro hlookup
          have hlt := hless (k, v) (ih.mpr hlookup)
          rw [hk] at hlt
          exact String.lt_irrefl k' hlt
        rw [hk] at hnone ⊢
        simp only [true_and, if_true, Option.some.injEq, hnone, or_false]
        exact eq_comm
      · simp only [hk, false_and, false_or, if_false]

include h' in
/-- Sorted entries are known by what is read from them. -/
theorem eq_of_lookup (hread : ∀ k, l.lookup k = l'.lookup k) : l = l' := by
  have hnodup {l : List (String × α)} (h : l.Pairwise fun p q => p.1 < q.1) : l.Nodup := by
    rw [List.Nodup]
    refine h.imp ?_
    rintro p _ hlt rfl
    exact String.lt_irrefl p.1 hlt
  have hperm : l.Perm l' := by
    rw [List.perm_ext_iff_of_nodup (hnodup h) (hnodup h')]
    rintro ⟨k, v⟩
    rw [mem_iff_lookup h, mem_iff_lookup h', hread]
  refine hperm.eq_of_pairwise ?_ h h'
  intro p q _ _ hlt hgt
  exact absurd (String.lt_trans hlt hgt) (String.lt_irrefl _)

end Read

theorem mem_entries_iff {m : SortedMap α} {k : String} {v : α} :
    (k, v) ∈ m.entries ↔ m.get? k = some v :=
  mem_iff_lookup m.ascending

theorem lookup_filter_map {β : Type} (wanted : String → Bool) (f : α → β)
    (l : List (String × α)) (k : String) :
    ((l.filter fun p => wanted p.1).map fun p => (p.1, f p.2)).lookup k =
      if wanted k then (l.lookup k).map f else none := by
  induction l with
  | nil =>
      show none = if wanted k then none else none
      rw [ite_self]
  | cons p rest ih =>
      obtain ⟨k', v⟩ := p
      rw [List.filter_cons, lookup_cons_eq]
      dsimp only
      by_cases hk : k = k'
      · subst hk
        cases hwanted : wanted k with
        | true =>
            rw [if_pos rfl, List.map_cons, lookup_cons_eq, if_pos rfl, if_pos rfl, if_pos rfl]
            rfl
        | false =>
            rw [hwanted] at ih
            exact ih
      · rw [if_neg hk, ← ih]
        cases wanted k' with
        | true => rw [if_pos rfl, List.map_cons, lookup_cons_eq, if_neg hk]
        | false => rfl

/-- Maps agree on the entries that are looked for if they agree on each of
their keys. -/
theorem filter_map_eq_iff {β : Type} {wanted : String → Bool} {f : α → β} {m m' : SortedMap α} :
    ((m.entries.filter fun p => wanted p.1).map fun p => (p.1, f p.2)) =
        ((m'.entries.filter fun p => wanted p.1).map fun p => (p.1, f p.2)) ↔
      ∀ k, wanted k = true → (m.get? k).map f = (m'.get? k).map f := by
  have hsorted (m : SortedMap α) : ((m.entries.filter fun p => wanted p.1).map
      fun p => (p.1, f p.2)).Pairwise fun p q => p.1 < q.1 :=
    List.pairwise_map.mpr (m.ascending.filter _)
  constructor
  · intro heq k hk
    have hlookup := congrArg (List.lookup k) heq
    rw [lookup_filter_map, lookup_filter_map, if_pos hk, if_pos hk] at hlookup
    exact hlookup
  · intro hread
    refine eq_of_lookup (hsorted m) (hsorted m') ?_
    intro k
    rw [lookup_filter_map, lookup_filter_map]
    cases hk : wanted k with
    | true => exact hread k hk
    | false => rfl

theorem ext_get? {m m' : SortedMap α} (h : ∀ k, m.get? k = m'.get? k) : m = m' :=
  ext_entries (eq_of_lookup m.ascending m'.ascending h)

/-! ## Entries written one after the other -/

/-- The value of the last entry for a key. -/
def last? (l : List (String × α)) (k : String) : Option α :=
  ((l.filter fun e => e.1 == k).getLast?).map Prod.snd

theorem last?_cons (e : String × α) (l : List (String × α)) (k : String) :
    last? (e :: l) k = (last? l k).or (if e.1 = k then some e.2 else none) := by
  unfold last?
  by_cases hk : e.1 = k
  · rw [List.filter_cons, if_pos (beq_iff_eq.mpr hk), List.getLast?_cons, if_pos hk]
    cases (l.filter fun e => e.1 == k).getLast? <;> rfl
  · rw [List.filter_cons, if_neg (mt beq_iff_eq.mp hk), if_neg hk, Option.or_none]

theorem last?_append (l l' : List (String × α)) (k : String) :
    last? (l ++ l') k = (last? l' k).or (last? l k) := by
  induction l with
  | nil => exact (Option.or_none).symm
  | cons e l ih => rw [List.cons_append, last?_cons, ih, last?_cons, Option.or_assoc]

theorem mem_of_last? {l : List (String × α)} {k : String} {v : α} (h : last? l k = some v) :
    (k, v) ∈ l := by
  obtain ⟨e, he, rfl⟩ := Option.map_eq_some_iff.mp h
  obtain ⟨hmem, hk⟩ := List.mem_filter.mp (List.mem_of_getLast? he)
  rw [← beq_iff_eq.mp hk]
  exact hmem

theorem last?_of_ne {l : List (String × α)} {k : String} (h : ∀ e ∈ l, e.1 ≠ k) :
    last? l k = none := by
  induction l with
  | nil => rfl
  | cons e l ih =>
      rw [last?_cons, if_neg (h e List.mem_cons_self), Option.or_none,
        ih fun e' he' => h e' (List.mem_cons_of_mem e he')]

/-- Keys may be changed in any way that keeps apart what is looked for. -/
theorem last?_map_congr {f g : String → String} {k k' : String} (h : ∀ x, f x = k ↔ g x = k')
    (l : List (String × α)) :
    last? (l.map fun e => (f e.1, e.2)) k = last? (l.map fun e => (g e.1, e.2)) k' := by
  induction l with
  | nil => rfl
  | cons e l ih => simp only [List.map_cons, last?_cons, ih, h]

/-- If no key comes twice, the last entry for a key is the only one. -/
theorem last?_eq_some_iff {l : List (String × α)} (h : (l.map Prod.fst).Nodup) {k : String}
    {v : α} : last? l k = some v ↔ (k, v) ∈ l := by
  induction l with
  | nil => simp only [last?, List.filter_nil, List.getLast?_nil, Option.map_none, reduceCtorEq,
      List.not_mem_nil]
  | cons e l ih =>
      obtain ⟨k', v'⟩ := e
      rw [List.map_cons, List.nodup_cons] at h
      rw [last?_cons, List.mem_cons, Prod.mk.injEq]
      by_cases hk : k' = k
      · subst hk
        have hfresh : ∀ e ∈ l, e.1 ≠ k' := by
          rintro e he rfl
          exact h.1 (List.mem_map.mpr ⟨e, he, rfl⟩)
        have hnone : last? l k' = none := last?_of_ne hfresh
        have hnot : (k', v) ∉ l := fun hmem => hfresh _ hmem rfl
        rw [hnone, if_pos rfl, Option.none_or, Option.some.injEq]
        simp only [true_and, hnot, or_false, eq_comm]
      · rw [if_neg hk, Option.or_none, ih h.2]
        simp only [Ne.symm hk, false_and, false_or]

/-- **Of several values written for a key the last one stays.** The keys are
changed by `f` before they are written. -/
theorem get?_foldl_insert (f : String → String) (l : List (String × α)) (m : SortedMap α)
    (k : String) :
    (l.foldl (fun m e => m.insert (f e.1) e.2) m).get? k =
      (last? (l.map fun e => (f e.1, e.2)) k).or (m.get? k) := by
  induction l generalizing m with
  | nil => rfl
  | cons e l ih =>
      rw [List.foldl_cons, ih, get?_insert, List.map_cons, last?_cons, Option.or_assoc]
      by_cases hk : k = f e.1
      · rw [if_pos hk, if_pos hk.symm, Option.some_or]
      · rw [if_neg hk, if_neg (Ne.symm hk), Option.none_or]

theorem get?_ofList (l : List (String × α)) (k : String) : (ofList l).get? k = last? l k := by
  have hfold := get?_foldl_insert id l empty k
  simp only [id_eq, List.map_id', get?_empty, Option.or_none] at hfold
  exact hfold

theorem get?_eq_last? (m : SortedMap α) (k : String) : m.get? k = last? m.entries k := by
  ext v
  rw [last?_eq_some_iff m.nodup_keys, mem_entries_iff]

end ObjectStore.SortedMap
