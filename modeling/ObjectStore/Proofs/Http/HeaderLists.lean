import Mathlib.Data.List.Induction
import Mathlib.Data.List.Nodup
import ObjectStore.Proofs.Http.HeaderTexts
import ObjectStore.Proofs.Text.Utf8

/-!
# Lists of headers, all or nothing

A list of texts is read as headers if each name is a token and no value holds a
control byte other than the tab. Then each name, in whatever case it was given, has
one value, the last one that the list has for it. Otherwise nothing is read, and
the error tells the first name or value that is no good.
-/

namespace ObjectStore

namespace Header

/-! ## What a request can carry -/

def delimiters : Bytes := Utf8.encode "\"(),/:;<=>?@[\\]\x7b\x7d"

def isTokenByte (b : UInt8) : Bool := 0x21 ≤ b && b ≤ 0x7E && !delimiters.contains b

/-- A name that a header can have: a token of at most 65535 bytes. -/
structure IsName (name : String) : Prop where
  ne_empty : name ≠ ""
  token : ∀ b ∈ Utf8.encode name, isTokenByte b = true
  length_le : (Utf8.encode name).length ≤ 65535

def IsControl (b : UInt8) : Prop := b < 0x20 ∨ b = 0x7F

def IsValue (value : String) : Prop := ∀ b ∈ Utf8.encode value, IsControl b → b = 0x09

def Fits (h : String × String) : Prop := IsName h.1 ∧ IsValue h.2

theorem agree_isTokenByte : Utf8.Agree isTokenChar isTokenByte := by
  have htable : ∀ n < 0x80, isTokenByte (UInt8.ofNat n) = isTokenChar (Char.ofNat n) := by
    decide +kernel
  intro c b hb
  by_cases hascii : c.toNat < 0x80
  · rw [Utf8.encodeChar_ascii hascii, List.mem_singleton] at hb
    rw [hb, htable _ hascii, Char.ofNat_toNat]
  · -- no byte of another character is one of ASCII
    have hb' : ¬b.toNat ≤ 0x7E := by
      intro hle
      have hchar := Utf8.eq_of_mem_encodeChar hb (Nat.lt_of_le_of_lt hle (by decide))
      rw [hchar, Utf8.toNat_ofNat_byte] at hascii
      omega
    have hsigns : ∀ a ∈ "!#$%&'*+-.^_|~\x60".toList, a.toNat < 0x80 :=
      List.forall_iff_forall_mem.mp (by decide)
    have hsmall (a : Char) (ha : a.toNat < 0x80) : ¬c ≤ a := by
      rw [Char.le_def, UInt32.le_iff_toNat_le]
      exact fun hle => hascii (Nat.lt_of_le_of_lt hle ha)
    have hbyte : isTokenByte b = false := by
      simp only [isTokenByte, UInt8.le_iff_toNat_le, UInt8.reduceToNat, hb', decide_false,
        Bool.and_false, Bool.false_and]
    have hchar : isTokenChar c = false := by
      simp only [isTokenChar, hsmall '9' (by decide), hsmall 'Z' (by decide),
        hsmall 'z' (by decide), decide_false, Bool.and_false, Bool.false_or,
        List.contains_eq_mem, decide_eq_false_iff_not]
      exact fun hmem => hascii (hsigns c hmem)
    rw [hbyte, hchar]

theorem validName_iff {name : String} : ValidName name ↔ IsName name := by
  have htoken : name.toList.all isTokenChar = true ↔
      ∀ b ∈ Utf8.encode name, isTokenByte b = true := by
    rw [← agree_isTokenByte.all, List.all_eq_true]
    rfl
  have hlength (h : ∀ b ∈ Utf8.encode name, isTokenByte b = true) :
      (Utf8.encode name).length = name.length := by
    have hascii : ∀ c ∈ name.toList, c.toNat < 0x80 := by
      rw [← Utf8.forall_mem_encode_lt]
      intro b hb
      have htoken := h b hb
      simp only [isTokenByte, Bool.and_eq_true, decide_eq_true_eq,
        UInt8.le_iff_toNat_le, UInt8.reduceToNat] at htoken
      omega
    rw [Utf8.encode, Utf8.encodeChars_ascii hascii, List.length_map, String.length_toList]
  constructor
  · rintro ⟨hne, hall, hle⟩
    have hbytes := htoken.mp hall
    exact ⟨hne, hbytes, (hlength hbytes).symm ▸ hle⟩
  · rintro ⟨hne, hbytes, hle⟩
    exact ⟨hne, htoken.mpr hbytes, hlength hbytes ▸ hle⟩

theorem isValue_iff {value : String} :
    (Utf8.encode value).all isValueByte = true ↔ IsValue value := by
  have hbyte (b : UInt8) : isValueByte b = true ↔ (IsControl b → b = 0x09) := by
    simp only [isValueByte, IsControl, Bool.or_eq_true, Bool.and_eq_true, beq_iff_eq,
      bne_iff_ne, decide_eq_true_eq, UInt8.le_iff_toNat_le, UInt8.lt_iff_toNat_lt,
      ← UInt8.toNat_inj, ne_eq, UInt8.reduceToNat]
    omega
  rw [List.all_eq_true]
  exact forall₂_congr fun b _ => hbyte b

instance (name : String) : Decidable (IsName name) := decidable_of_iff _ validName_iff

instance (value : String) : Decidable (IsValue value) := decidable_of_iff _ isValue_iff

instance (h : String × String) : Decidable (Fits h) := by
  unfold Fits
  infer_instance

theorem fault?_eq_none_iff {h : String × String} : fault? h = none ↔ Fits h := by
  rw [Fits, ← validName_iff, ← isValue_iff]
  refine ⟨fault?_eq_none, fun hfits => ?_⟩
  rw [fault?, if_pos hfits.1, if_pos hfits.2]

/-- The first fault of a list: all that stands in front can be carried, and of one
header the name is judged first. -/
inductive FirstFault (headers : List (String × String)) : HeaderError → Prop where
  | name {front back : List (String × String)} {name value : String}
    (hlist : headers = front ++ (name, value) :: back) (hfront : ∀ h ∈ front, Fits h)
    (hname : ¬IsName name) : FirstFault headers (.invalidName name)
  | value {front back : List (String × String)} {name value : String}
    (hlist : headers = front ++ (name, value) :: back) (hfront : ∀ h ∈ front, Fits h)
    (hname : IsName name) (hvalue : ¬IsValue value) : FirstFault headers (.invalidValue name)

theorem fault?_eq_some_iff {h : String × String} {e : HeaderError} :
    fault? h = some e ↔ (¬IsName h.1 ∧ e = .invalidName h.1) ∨
      (IsName h.1 ∧ ¬IsValue h.2 ∧ e = .invalidValue h.1) := by
  rw [← validName_iff, ← isValue_iff, fault?]
  split_ifs with hname hvalue
  · refine ⟨fun heq => (by cases heq), ?_⟩
    rintro (⟨hnot, -⟩ | ⟨-, hnot, -⟩)
    · exact absurd hname hnot
    · exact absurd hvalue hnot
  · refine ⟨fun heq => .inr ⟨hname, hvalue, (Option.some.inj heq).symm⟩, ?_⟩
    rintro (⟨hnot, -⟩ | ⟨-, -, rfl⟩)
    · exact absurd hname hnot
    · rfl
  · refine ⟨fun heq => .inl ⟨hname, (Option.some.inj heq).symm⟩, ?_⟩
    rintro (⟨-, rfl⟩ | ⟨hvalid, -⟩)
    · rfl
    · exact absurd hvalid hname

theorem findSome?_fault?_eq_some_iff {headers : List (String × String)} {e : HeaderError} :
    headers.findSome? fault? = some e ↔ FirstFault headers e := by
  simp only [List.findSome?_eq_some_iff, fault?_eq_some_iff, fault?_eq_none_iff]
  constructor
  · rintro ⟨front, ⟨name, value⟩, back, hlist, ⟨hname, rfl⟩ | ⟨hname, hvalue, rfl⟩, hfront⟩
    · exact .name hlist hfront hname
    · exact .value hlist hfront hname hvalue
  · rintro (⟨hlist, hfront, hname⟩ | ⟨hlist, hfront, hname, hvalue⟩)
    · exact ⟨_, _, _, hlist, .inl ⟨hname, rfl⟩, hfront⟩
    · exact ⟨_, _, _, hlist, .inr ⟨hname, hvalue, rfl⟩, hfront⟩

/-! ## The last value of a name -/

/-- The last value that a list has for a name, given in whatever case. -/
def LastFor (headers : List (String × String)) (name value : String) : Prop :=
  ∃ front given back, headers = front ++ (given, value) :: back ∧ lowerCase given = name ∧
    ∀ h ∈ back, lowerCase h.1 ≠ name

theorem lastFor_append_singleton {headers : List (String × String)} {h : String × String}
    {name value : String} :
    LastFor (headers ++ [h]) name value ↔
      if lowerCase h.1 = name then h.2 = value else LastFor headers name value := by
  constructor
  · rintro ⟨front, given, back, hlist, hname, hback⟩
    rcases List.eq_nil_or_concat' back with rfl | ⟨back, last, rfl⟩
    · obtain ⟨-, rfl⟩ := List.append_singleton_inj.mp hlist
      rw [if_pos hname]
    · rw [← List.cons_append, ← List.append_assoc, List.append_singleton_inj] at hlist
      obtain ⟨rfl, rfl⟩ := hlist
      rw [if_neg (hback h List.mem_concat_self)]
      exact ⟨front, given, back, rfl, hname, fun k hk => hback k (List.mem_append_left _ hk)⟩
  · intro hlast
    split at hlast
    · next hname => exact ⟨headers, h.1, [], by rw [← hlast], hname, fun _ hk => by cases hk⟩
    · next hname =>
      obtain ⟨front, given, back, rfl, hgiven, hback⟩ := hlast
      refine ⟨front, given, back ++ [h], by rw [List.append_assoc, List.cons_append], hgiven, ?_⟩
      intro k hk
      rcases List.mem_append.mp hk with hk | hk
      · exact hback k hk
      · rwa [List.mem_singleton.mp hk]

end Header

namespace HeaderMap

open Header

/-- A header map holds what a list says last: each name once, in lower case, with the last
value for it. -/
structure Holds (m : HeaderMap) (headers : List (String × String)) : Prop where
  nodup : (m.entries.map Prod.fst).Nodup
  mem_iff : ∀ name values, (name, values) ∈ m.entries ↔
    ∃ value, LastFor headers name value ∧ values = [Utf8.encode value]

theorem map_fst_alterEntry (name : String) (f : List Bytes → List Bytes)
    (l : List (String × List Bytes)) :
    (alterEntry name f l).map Prod.fst =
      if name ∈ l.map Prod.fst then l.map Prod.fst else l.map Prod.fst ++ [name] := by
  split
  · next hmem =>
      induction l with
      | nil => cases hmem
      | cons e rest ih =>
          obtain ⟨n, vs⟩ := e
          unfold alterEntry
          split
          · rfl
          · next hne =>
              rw [List.map_cons, List.mem_cons] at hmem
              rw [List.map_cons, List.map_cons, ih (hmem.resolve_left (Ne.symm hne))]
  · next hfresh => rw [alterEntry_of_fresh f hfresh, List.map_append, List.map_singleton]

theorem mem_alterEntry {name : String} {values : List Bytes} {l : List (String × List Bytes)}
    (h : (l.map Prod.fst).Nodup) {e : String × List Bytes} :
    e ∈ alterEntry name (fun _ => values) l ↔ if e.1 = name then e.2 = values else e ∈ l := by
  obtain ⟨k, vs⟩ := e
  induction l with
  | nil =>
      rw [alterEntry, List.mem_singleton, Prod.mk.injEq]
      split
      · next hk => rw [and_iff_right hk]
      · next hk => simp only [hk, false_and, List.not_mem_nil]
  | cons e rest ih =>
      obtain ⟨n, ws⟩ := e
      rw [List.map_cons, List.nodup_cons] at h
      unfold alterEntry
      by_cases hn : n = name
      · subst hn
        have hfresh : (n, vs) ∉ rest := fun hmem => h.1 (List.mem_map.mpr ⟨_, hmem, rfl⟩)
        rw [if_pos rfl, List.mem_cons, List.mem_cons, Prod.mk.injEq, Prod.mk.injEq]
        by_cases hk : k = n
        · subst hk
          simp only [true_and, if_true, hfresh, or_false]
        · simp only [hk, false_and, false_or, if_false]
      · rw [if_neg hn, List.mem_cons, List.mem_cons, ih h.2, Prod.mk.injEq]
        by_cases hk : k = name
        · have hne : k ≠ n := fun heq => hn (heq.symm.trans hk)
          simp only [hk, if_true, hk ▸ hne, false_and, false_or]
        · simp only [hk, if_false]

theorem Holds.insert {m : HeaderMap} {headers : List (String × String)} (hm : m.Holds headers)
    (h : String × String) :
    (m.insert (lowerCase h.1) (Utf8.encode h.2)).Holds (headers ++ [h]) := by
  refine ⟨?_, fun name values => ?_⟩
  · rw [HeaderMap.insert, map_fst_alterEntry]
    split
    · exact hm.nodup
    · next hfresh =>
        rw [← List.concat_eq_append]
        exact hm.nodup.concat hfresh
  · rw [HeaderMap.insert, mem_alterEntry hm.nodup]
    simp only [lastFor_append_singleton, eq_comm (a := name)]
    split
    · simp only [exists_eq_left']
    · exact hm.mem_iff name values

theorem holds_written (headers : List (String × String)) :
    (empty.written headers).Holds headers := by
  induction headers using List.reverseRecOn with
  | nil =>
      refine ⟨List.nodup_nil, fun name values => ⟨fun hmem => (by cases hmem), ?_⟩⟩
      rintro ⟨value, ⟨front, given, back, hlist, -, -⟩, -⟩
      exact absurd hlist.symm (List.append_ne_nil_of_right_ne_nil _ (List.cons_ne_nil _ _))
  | append_singleton headers h ih =>
      have hstep : empty.written (headers ++ [h]) =
          (empty.written headers).insert (lowerCase h.1) (Utf8.encode h.2) := by
        rw [written, List.foldl_append]
        rfl
      rw [hstep]
      exact ih.insert h

/-- **Headers are read all or not at all.** A list of texts gives a header map just if
each of them can be carried, and the map then has each name once, in whatever case
it was given, with the last value for it and no other name. Otherwise the error tells
the name of the first header that cannot be carried, and of this header the name was
judged before the value. -/
theorem headers_all_or_nothing (headers : List (String × String)) :
    ((∃ m, ofTexts headers = .ok m) ↔ ∀ h ∈ headers, Fits h) ∧
      (∀ m, ofTexts headers = .ok m → m.Holds headers) ∧
      ∀ e, ofTexts headers = .error e ↔ FirstFault headers e := by
  rw [ofTexts_eq]
  simp only [← findSome?_fault?_eq_some_iff, ← fault?_eq_none_iff, ← List.findSome?_eq_none_iff]
  cases headers.findSome? fault? with
  | none =>
      refine ⟨⟨fun _ => rfl, fun _ => ⟨_, rfl⟩⟩, ?_, fun e => ⟨fun h => ?_, fun h => ?_⟩⟩
      · intro m hm
        obtain rfl := Except.ok.inj hm
        exact holds_written headers
      · cases h
      · cases h
  | some fault =>
      refine ⟨⟨fun h => ?_, fun h => ?_⟩, fun m hm => ?_, fun e => ⟨fun h => ?_, fun h => ?_⟩⟩
      · obtain ⟨m, hm⟩ := h
        cases hm
      · cases h
      · cases hm
      · rw [Except.error.inj h]
      · rw [Option.some.inj h]

def repeatedTag : List (String × String) := [("ETag", "a"), ("x", "文\té"), ("etag", "é")]

def blankName : List (String × String) := [("ETag", "a"), ("a b", "\n"), ("", "a")]

theorem headers_all_or_nothing_repeatedTag :
    (∃ m, ofTexts repeatedTag = .ok m ∧ ("etag", [Utf8.encode "é"]) ∈ m.entries ∧
      ("ETag", [Utf8.encode "a"]) ∉ m.entries) ∧
      ofTexts blankName = .error (.invalidName "a b") := by
  obtain ⟨hread, hholds, -⟩ := headers_all_or_nothing repeatedTag
  obtain ⟨-, -, hfault⟩ := headers_all_or_nothing blankName
  obtain ⟨m, hm⟩ := hread.mpr (by decide +kernel)
  have hlast : LastFor repeatedTag "etag" "é" := by
    refine ⟨[("ETag", "a"), ("x", "文\té")], "etag", [], rfl, by decide, ?_⟩
    intro h hmem
    cases hmem
  have hfirst : FirstFault blankName (.invalidName "a b") := by
    have hlist : blankName = [("ETag", "a")] ++ ("a b", "\n") :: [("", "a")] := rfl
    exact .name hlist (by decide +kernel) (by decide +kernel)
  refine ⟨⟨m, hm, ((hholds m hm).mem_iff _ _).mpr ⟨"é", hlast, rfl⟩, ?_⟩, (hfault _).mpr hfirst⟩
  rw [(hholds m hm).mem_iff]
  rintro ⟨value, ⟨front, given, back, -, hname, -⟩, -⟩
  have hlower := lowerCase_lowerCase given
  rw [hname] at hlower
  exact absurd hlower (by decide)

end HeaderMap
end ObjectStore
