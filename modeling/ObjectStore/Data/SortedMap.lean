/-!
# Maps sorted by key

A finite map from texts, kept as its entries in strictly ascending order of
keys. The order of texts is the order of their code points, which is also the
order of their UTF-8 bytes. Writing a key replaces what the map had for it.
-/

namespace ObjectStore

/-- A map from texts, its entries in strictly ascending order of keys. -/
structure SortedMap (α : Type) where
  entries : List (String × α)
  ascending : entries.Pairwise (fun p q => p.1 < q.1)

namespace SortedMap

variable {α : Type}

def empty : SortedMap α := ⟨[], .nil⟩

instance : EmptyCollection (SortedMap α) := ⟨empty⟩
instance : Inhabited (SortedMap α) := ⟨empty⟩

theorem ext_entries {m n : SortedMap α} (h : m.entries = n.entries) : m = n := by
  cases m; cases n; simp_all

/-- Puts an entry at its place, over an entry of the same key. -/
def insertEntry (k : String) (v : α) : List (String × α) → List (String × α)
  | [] => [(k, v)]
  | (k', v') :: rest =>
    if k < k' then (k, v) :: (k', v') :: rest
    else if k = k' then (k, v) :: rest
    else (k', v') :: insertEntry k v rest

theorem key_of_mem_insertEntry {k : String} {v : α} {p : String × α} :
    ∀ {l : List (String × α)}, p ∈ insertEntry k v l → p = (k, v) ∨ p ∈ l
  | [], h => by simpa [insertEntry] using h
  | (k', v') :: rest, h => by
      unfold insertEntry at h
      split at h
      · simpa using h
      · split at h
        · rcases List.mem_cons.mp h with h | h
          · exact .inl h
          · exact .inr (List.mem_cons_of_mem _ h)
        · rcases List.mem_cons.mp h with h | h
          · exact .inr (by simp [h])
          · rcases key_of_mem_insertEntry h with h | h
            · exact .inl h
            · exact .inr (List.mem_cons_of_mem _ h)

theorem pairwise_insertEntry (k : String) (v : α) :
    ∀ {l : List (String × α)}, l.Pairwise (fun p q => p.1 < q.1) →
      (insertEntry k v l).Pairwise (fun p q => p.1 < q.1)
  | [], _ => by simp [insertEntry]
  | (k', v') :: rest, h => by
      obtain ⟨hhead, htail⟩ := List.pairwise_cons.mp h
      unfold insertEntry
      split
      · next hlt =>
          refine List.pairwise_cons.mpr ⟨?_, h⟩
          intro p hp
          rcases List.mem_cons.mp hp with rfl | hp
          · exact hlt
          · exact String.lt_trans hlt (hhead p hp)
      · split
        · next heq =>
            subst heq
            exact List.pairwise_cons.mpr ⟨hhead, htail⟩
        · next hlt hne =>
            refine List.pairwise_cons.mpr ⟨?_, pairwise_insertEntry k v htail⟩
            intro p hp
            rcases key_of_mem_insertEntry hp with rfl | hp
            · rcases Std.lt_trichotomy k k' with h | h | h
              · exact absurd h hlt
              · exact absurd h hne
              · exact h
            · exact hhead p hp

def insert (m : SortedMap α) (k : String) (v : α) : SortedMap α :=
  ⟨insertEntry k v m.entries, pairwise_insertEntry k v m.ascending⟩

def get? (m : SortedMap α) (k : String) : Option α := m.entries.lookup k

def keys (m : SortedMap α) : List String := m.entries.map Prod.fst

/-- Writes the entries of a list one after the other, so that the last one
with a key stays. -/
def insertAll (m : SortedMap α) (l : List (String × α)) : SortedMap α :=
  l.foldl (fun m p => m.insert p.1 p.2) m

def ofList (l : List (String × α)) : SortedMap α := empty.insertAll l

theorem lookup_cons_eq (k' k : String) (v : α) (l : List (String × α)) :
    ((k, v) :: l).lookup k' = if k' = k then some v else l.lookup k' := by
  by_cases h : k' = k
  · simp [h]
  · have : (k' == k) = false := by simpa using h
    simp [List.lookup_cons, h, this]

theorem lookup_insertEntry (k : String) (v : α) (k' : String) :
    ∀ l : List (String × α),
      (insertEntry k v l).lookup k' = if k' = k then some v else l.lookup k'
  | [] => by simp [insertEntry, lookup_cons_eq]
  | (k₁, v₁) :: rest => by
      unfold insertEntry
      split
      · rw [lookup_cons_eq]
      · split
        · next heq =>
            subst heq
            rw [lookup_cons_eq, lookup_cons_eq]
            by_cases hk : k' = k <;> simp [hk]
        · next hne =>
            rw [lookup_cons_eq, lookup_cons_eq, lookup_insertEntry k v k' rest]
            by_cases hk : k' = k
            · subst hk
              simp [hne]
            · simp [hk]

theorem get?_insert (m : SortedMap α) (k : String) (v : α) (k' : String) :
    (m.insert k v).get? k' = if k' = k then some v else m.get? k' :=
  lookup_insertEntry k v k' m.entries

@[simp] theorem get?_empty (k : String) : (empty : SortedMap α).get? k = none := rfl

end SortedMap

abbrev SortedSet := SortedMap Unit

def SortedSet.ofList (l : List String) : SortedSet :=
  SortedMap.ofList (l.map fun s => (s, ()))

end ObjectStore
