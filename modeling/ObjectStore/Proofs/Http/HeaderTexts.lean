import ObjectStore.Http.Header
import ObjectStore.Proofs.Data.SortedEntries

/-!
# Headers given as text

Reading a list of texts into a header map stops at the first text that is no
header. Otherwise every pair writes its name. Where the names are different and
in lower case already, as the keys of a sorted map of headers are, the header
map is the list again, each name with one value.
-/

namespace ObjectStore

namespace Header

/-- What is wrong with a header given as text. The name is judged first. -/
def fault? (h : String × String) : Option HeaderError :=
  if ValidName h.1 then
    if (Utf8.encode h.2).all isValueByte then none else some (.invalidValue h.1)
  else some (.invalidName h.1)

theorem fault?_eq_none {h : String × String} (hfault : fault? h = none) :
    ValidName h.1 ∧ (Utf8.encode h.2).all isValueByte = true := by
  unfold fault? at hfault
  split_ifs at hfault with hname hvalue
  exact ⟨hname, hvalue⟩

end Header

namespace HeaderMap

theorem insertText_eq (m : HeaderMap) (h : String × String) :
    m.insertText h =
      match Header.fault? h with
      | some e => .error e
      | none => .ok (m.insert (Header.lowerCase h.1) (Utf8.encode h.2)) := by
  unfold insertText Header.fault? Header.name? Header.value?
  by_cases hname : Header.ValidName h.1
  · by_cases hvalue : (Utf8.encode h.2).all Header.isValueByte = true
    · simp [hname, hvalue]
    · simp [hname, hvalue]
  · simp [hname]

def written (m : HeaderMap) (headers : List (String × String)) : HeaderMap :=
  headers.foldl (fun m h => m.insert (Header.lowerCase h.1) (Utf8.encode h.2)) m

theorem foldlM_insertText (m : HeaderMap) (headers : List (String × String)) :
    headers.foldlM insertText m =
      match headers.findSome? Header.fault? with
      | some e => .error e
      | none => .ok (m.written headers) := by
  induction headers generalizing m with
  | nil => rfl
  | cons h rest ih =>
      rw [List.foldlM_cons, insertText_eq, List.findSome?_cons]
      cases Header.fault? h with
      | some e => rfl
      | none => exact ih (m.insert (Header.lowerCase h.1) (Utf8.encode h.2))

/-- **The headers of a list of texts**, or its first fault. -/
theorem ofTexts_eq (headers : List (String × String)) :
    ofTexts headers =
      match headers.findSome? Header.fault? with
      | some e => .error e
      | none => .ok (empty.written headers) :=
  foldlM_insertText empty headers

theorem alterEntry_of_fresh {name : String} (f : List Bytes → List Bytes)
    {l : List (String × List Bytes)} (h : name ∉ l.map Prod.fst) :
    alterEntry name f l = l ++ [(name, f [])] := by
  induction l with
  | nil => rfl
  | cons e rest ih =>
      obtain ⟨n, vs⟩ := e
      rw [List.map_cons, List.mem_cons, not_or] at h
      rw [alterEntry, if_neg (fun heq => h.1 heq.symm), ih h.2]
      rfl

/-- Different names in lower case, none of which is there yet, are put behind
the others. -/
theorem entries_written {headers : List (String × String)} (m : HeaderMap)
    (hlower : ∀ h ∈ headers, Header.lowerCase h.1 = h.1)
    (hnodup : (headers.map Prod.fst).Nodup)
    (hfresh : ∀ h ∈ headers, h.1 ∉ m.entries.map Prod.fst) :
    (m.written headers).entries =
      m.entries ++ headers.map fun h => (h.1, [Utf8.encode h.2]) := by
  induction headers generalizing m with
  | nil => simp [written]
  | cons h rest ih =>
      rw [List.map_cons, List.nodup_cons] at hnodup
      have hinsert : (m.insert (Header.lowerCase h.1) (Utf8.encode h.2)).entries =
          m.entries ++ [(h.1, [Utf8.encode h.2])] := by
        rw [hlower h List.mem_cons_self]
        exact alterEntry_of_fresh _ (hfresh h List.mem_cons_self)
      have hrest := ih (m.insert (Header.lowerCase h.1) (Utf8.encode h.2))
        (fun k hk => hlower k (List.mem_cons_of_mem _ hk)) hnodup.2 (by
          intro k hk
          rw [hinsert, List.map_append, List.mem_append, not_or]
          refine ⟨hfresh k (List.mem_cons_of_mem _ hk), ?_⟩
          -- a later header of the same name would come twice in the list
          intro hmem
          rw [List.map_singleton, List.mem_singleton] at hmem
          exact hnodup.1 (hmem ▸ List.mem_map_of_mem hk))
      rw [hinsert, List.append_assoc] at hrest
      exact hrest

end HeaderMap

/-! ## Maps of headers -/

def LowerCase (headers : SortedMap String) : Prop :=
  ∀ h ∈ headers.entries, Header.lowerCase h.1 = h.1

theorem LowerCase.empty : LowerCase ∅ := by
  intro h hmem
  cases hmem

theorem LowerCase.insert {headers : SortedMap String} (h : LowerCase headers) {name : String}
    (hname : Header.lowerCase name = name) (value : String) :
    LowerCase (headers.insert name value) := by
  intro p hp
  rcases SortedMap.mem_insert hp with rfl | hp
  · exact hname
  · exact h p hp

theorem LowerCase.foldl_insert {headers : SortedMap String} (h : LowerCase headers)
    {f : String → String} (hf : ∀ name, Header.lowerCase (f name) = f name)
    (l : List (String × String)) :
    LowerCase (l.foldl (fun m e => m.insert (f e.1) e.2) headers) := by
  induction l generalizing headers with
  | nil => exact h
  | cons e rest ih => exact ih (h.insert (hf e.1) e.2)

theorem Header.toLower_toLower (c : Char) : c.toLower.toLower = c.toLower := by
  by_cases h : c.val ≥ 'A'.val ∧ c.val ≤ 'Z'.val
  · have hval : c.toLower.val = c.val + 32 := congrArg Char.val (dif_pos h)
    have hsmall : ¬(c.toLower.val ≥ 'A'.val ∧ c.toLower.val ≤ 'Z'.val) := by
      have hA : 'A'.val.toNat = 65 := rfl
      have hZ : 'Z'.val.toNat = 90 := rfl
      simp only [hval, ge_iff_le, UInt32.le_iff_toNat_le, UInt32.toNat_add, UInt32.reduceToNat,
        hA, hZ] at h ⊢
      omega
    exact dif_neg hsmall
  · have hsame : c.toLower = c := dif_neg h
    rw [hsame, hsame]

theorem Header.lowerCase_lowerCase (name : String) :
    Header.lowerCase (Header.lowerCase name) = Header.lowerCase name := by
  simp only [Header.lowerCase, String.toList_ofList, List.map_map]
  congr 1
  apply List.map_congr_left
  intro c _
  exact toLower_toLower c

theorem Header.lowerCase_append (s t : String) :
    Header.lowerCase (s ++ t) = Header.lowerCase s ++ Header.lowerCase t := by
  rw [← String.toList_inj]
  simp only [Header.lowerCase, String.toList_append, String.toList_ofList, List.map_append]

namespace HeaderMap

/-- The headers of a sorted map, in its order, each with one value. -/
def ofSorted (headers : SortedMap String) : HeaderMap :=
  ⟨headers.entries.map fun p => (p.1, [Utf8.encode p.2])⟩

theorem toList_ofSorted (headers : SortedMap String) :
    (ofSorted headers).toList = headers.entries.map fun p => (p.1, Utf8.encode p.2) := by
  rw [toList, ofSorted, List.flatMap_map, List.map_eq_flatMap]
  rfl

theorem getAll_ofSorted (headers : SortedMap String) (name : String) :
    (ofSorted headers).getAll name = (headers.get? name).toList.map Utf8.encode := by
  rw [getAll, ofSorted, SortedMap.get?]
  induction headers.entries with
  | nil => rfl
  | cons p rest ih =>
      obtain ⟨k, v⟩ := p
      rw [List.map_cons, SortedMap.lookup_cons_eq, SortedMap.lookup_cons_eq]
      by_cases h : name = k
      · rw [if_pos h, if_pos h]
        rfl
      · rw [if_neg h, if_neg h]
        exact ih

theorem get?_ofSorted (headers : SortedMap String) (name : String) :
    (ofSorted headers).get? name = (headers.get? name).map Utf8.encode := by
  rw [get?, getAll_ofSorted]
  cases headers.get? name <;> rfl

/-- A sorted map of headers in lower case is read as it stands, or has a first
fault. -/
theorem ofTexts_of_lowerCase {headers : SortedMap String} (h : LowerCase headers) :
    ofTexts headers.entries =
      match headers.entries.findSome? Header.fault? with
      | some e => .error e
      | none => .ok (ofSorted headers) := by
  have hentries := entries_written empty h headers.nodup_keys (fun p _ hmem => by cases hmem)
  have hwritten : empty.written headers.entries = ofSorted headers :=
    congrArg HeaderMap.mk hentries
  rw [ofTexts_eq, hwritten]

end HeaderMap

end ObjectStore
