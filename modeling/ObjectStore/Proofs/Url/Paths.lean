import ObjectStore.Proofs.Encoding.Percent
import ObjectStore.Url.Basic

/-!
# Paths under the schemes of the web

A path that is put into a URL of `http` or `https` is read segment by segment.
What is left in the end has no dot segments and holds no character that must be
escaped, and a path without either is kept as it is. So a path stays what it is
only if a URL has nothing to resolve in it.
-/

namespace ObjectStore

def Url.IsWeb (u : Url) : Prop := u.scheme = "http" ∨ u.scheme = "https"

theorem Url.IsWeb.form {u : Url} (h : u.IsWeb) : ∃ port, u.form = .special port := by
  unfold Url.form
  rcases h with h | h
  · exact ⟨80, by rw [h]; rfl⟩
  · exact ⟨443, by rw [h]; rfl⟩

/-! ## What an escape leaves -/

theorem Percent.ne_upperDigit {c : Char} (h : c.isAlphanum = false) :
    ∀ n < 16, c ≠ Hex.upperDigit n := by
  have hdigits : ∀ n < 16, (Hex.upperDigit n).isAlphanum = true := by decide
  rintro n hn rfl
  rw [hdigits n hn] at h
  cases h

namespace UrlPath

/-- A character of ASCII that is no letter, digit or percent sign stands in an
escaped text only if it stood there before. -/
theorem mem_of_mem_escape {cs : List Char} {c : Char} (hpercent : c ≠ '%')
    (hother : c.isAlphanum = false) (hascii : c.toNat < 0x80) (h : c ∈ (escape cs).toList) :
    keptInPath (UInt8.ofNat c.toNat) = true ∧ c ∈ cs := by
  obtain ⟨hkept, hmem⟩ :=
    Percent.mem_of_mem_encode hpercent (Percent.ne_upperDigit hother) hascii h
  rw [String.toList_ofList] at hmem
  exact ⟨hkept, (List.mem_filter.mp hmem).1⟩

/-- A character that stands for itself in a key, or opens an escape. -/
def isKeyChar (c : Char) : Bool :=
  c.toNat < 0x80 && (c == '%' || Percent.keptInKey (UInt8.ofNat c.toNat))

theorem of_isKeyChar {c : Char} (h : isKeyChar c = true) :
    c.toNat < 0x80 ∧ keptInPath (UInt8.ofNat c.toNat) = true ∧ isPassedOver c = false ∧
      c ≠ '\\' := by
  have htable : ∀ n < 0x80, isKeyChar (Char.ofNat n) = true →
      keptInPath (UInt8.ofNat (Char.ofNat n).toNat) = true ∧
        isPassedOver (Char.ofNat n) = false ∧ Char.ofNat n ≠ '\\' := by
    decide +kernel
  have hascii : c.toNat < 0x80 := by
    simp only [isKeyChar, Bool.and_eq_true, decide_eq_true_eq] at h
    exact h.1
  have hback : Char.ofNat c.toNat = c := Char.ofNat_toNat c
  have hc := htable c.toNat hascii
  rw [hback] at hc
  exact ⟨hascii, hc h⟩

theorem isSlash_of_isKeyChar {c : Char} (h : isKeyChar c = true) (port : Nat) :
    (SchemeForm.special port).isSlash c = (c == '/') := by
  rw [SchemeForm.isSlash, SchemeForm.isSpecial, Bool.true_and,
    beq_eq_false_iff_ne.mpr (of_isKeyChar h).2.2.2, Bool.or_false]

theorem escape_of_keyChars {cs : List Char} (h : ∀ c ∈ cs, isKeyChar c = true) :
    escape cs = String.ofList cs := by
  have hcounted : counted cs = cs := by
    apply List.filter_eq_self.mpr
    intro c hc
    rw [(of_isKeyChar (h c hc)).2.2.1]
    rfl
  unfold escape
  rw [hcounted]
  apply Percent.encode_of_kept
  intro c hc
  rw [String.toList_ofList] at hc
  obtain ⟨hascii, hkept, -⟩ := of_isKeyChar (h c hc)
  exact ⟨hascii, hkept⟩

/-! ## What is kept of a path -/

def isResolved (segment : String) : Bool := isDoubleDot segment || isDot segment

section Walk

variable {port : Nat}

/-- Every step of the walk: a segment is resolved, or kept as it is escaped. -/
theorem walk_cons (port : Nat) (kept : Kept) (raw : List Char) (rest : List (List Char)) :
    (isResolved (escape raw) = false ∧
      walk (.special port) kept (raw :: rest) =
        walk (.special port) ⟨escape raw :: kept.segments, kept.drive⟩ rest) ∨
    (∃ before, (before = kept.segments ∨ before = shorten kept.segments) ∧
      isResolved (escape raw) = true ∧
      walk (.special port) kept (raw :: rest) =
        walk (.special port) ⟨if rest = [] then "" :: before else before, kept.drive⟩ rest) := by
  rw [walk, if_neg (fun h => SchemeForm.noConfusion h.1)]
  dsimp only
  cases hdouble : isDoubleDot (escape raw) with
  | true => exact Or.inr ⟨_, Or.inr rfl, by rw [isResolved, hdouble, Bool.true_or], if_pos rfl⟩
  | false =>
      rw [if_neg Bool.false_ne_true]
      cases hdot : isDot (escape raw) with
      | true => exact Or.inr ⟨_, Or.inl rfl, by rw [isResolved, hdot, Bool.or_true], if_pos rfl⟩
      | false => exact Or.inl ⟨by rw [isResolved, hdouble, hdot, Bool.or_false], rfl⟩

theorem mem_of_mem_shorten {segments : List String} {s : String} (h : s ∈ shorten segments) :
    s ∈ segments := by
  cases segments with
  | nil => exact h
  | cons segment before =>
      rw [shorten] at h
      split at h
      · exact h
      · exact List.mem_cons_of_mem segment h

/-- What every segment that is kept has, if what is put behind them has it. -/
theorem walk_forall {P : String → Prop} (hempty : P "") {parts : List (List Char)}
    (hparts : ∀ raw ∈ parts, isResolved (escape raw) = false → P (escape raw)) {kept : Kept}
    (hkept : ∀ s ∈ kept.segments, P s) :
    ∀ s ∈ (walk (.special port) kept parts).segments, P s := by
  induction parts generalizing kept with
  | nil => exact hkept
  | cons raw rest ih =>
      have hrest := fun raw' hraw' => hparts raw' (List.mem_cons_of_mem raw hraw')
      rcases walk_cons port kept raw rest with
        ⟨hplain, heq⟩ | ⟨before, hbefore, -, heq⟩
      · rw [heq]
        apply ih hrest
        intro s hs
        rcases List.mem_cons.mp hs with rfl | hs
        · exact hparts raw List.mem_cons_self hplain
        · exact hkept s hs
      · -- nothing but an empty segment is new
        have hold : ∀ s ∈ before, P s := by
          intro s hs
          rcases hbefore with rfl | rfl
          · exact hkept s hs
          · exact hkept s (mem_of_mem_shorten hs)
        rw [heq]
        apply ih hrest
        intro s hs
        dsimp only at hs
        split at hs
        · rcases List.mem_cons.mp hs with rfl | hs
          · exact hempty
          · exact hold s hs
        · exact hold s hs

/-- Segments that a URL does not resolve are all kept. -/
theorem walk_of_plain {parts : List (List Char)} {kept : Kept}
    (h : ∀ raw ∈ parts, isResolved (escape raw) = false) :
    (walk (.special port) kept parts).segments = (parts.map escape).reverse ++ kept.segments := by
  induction parts generalizing kept with
  | nil => rfl
  | cons raw rest ih =>
      rcases walk_cons port kept raw rest with ⟨-, heq⟩ | ⟨before, -, hresolved, -⟩
      · rw [heq, ih fun raw' hraw' => h raw' (List.mem_cons_of_mem raw hraw'), List.map_cons,
          List.reverse_cons, List.append_assoc]
        rfl
      · rw [h raw List.mem_cons_self] at hresolved
        cases hresolved

theorem segments_of_plain {cs : List Char}
    (h : ∀ raw ∈ splitWhere (SchemeForm.special port).isSlash cs,
      isResolved (escape raw) = false) :
    segments (.special port) cs =
      (splitWhere (SchemeForm.special port).isSlash cs).map escape := by
  rw [segments, keptOf, walk_of_plain h, List.append_nil, List.reverse_reverse]

theorem forall_mem_segments {P : String → Prop} {cs : List Char} (hempty : P "")
    (hparts : ∀ raw ∈ splitWhere (SchemeForm.special port).isSlash cs,
      isResolved (escape raw) = false → P (escape raw)) :
    ∀ s ∈ segments (.special port) cs, P s := by
  intro s hs
  rw [segments, List.mem_reverse] at hs
  have hnone : ∀ s ∈ (Kept.mk [] false).segments, P s := by
    intro s hs
    cases hs
  exact walk_forall hempty hparts hnone s hs

theorem not_isResolved_of_mem_segments {cs : List Char} :
    ∀ s ∈ segments (.special port) cs, isResolved s = false :=
  forall_mem_segments (by decide) fun _ _ h => h

theorem not_mem_of_mem_segments {cs : List Char} :
    ∀ s ∈ segments (.special port) cs,
      (∀ c ∈ s.toList, (SchemeForm.special port).isSlash c = false) ∧ '?' ∉ s.toList := by
  apply forall_mem_segments
  · simp only [String.toList_empty, List.not_mem_nil, false_implies, implies_true,
      not_false_eq_true, and_self]
  intro raw hraw _
  constructor
  · intro c hc
    cases hslash : (SchemeForm.special port).isSlash c with
    | false => rfl
    | true =>
        -- a slash would have been there before the path was split
        have hcases : c = '/' ∨ c = '\\' := by
          simpa only [SchemeForm.isSlash, SchemeForm.isSpecial, Bool.true_and, Bool.or_eq_true,
            beq_iff_eq] using hslash
        have hmem : c ∈ raw := by
          rcases hcases with rfl | rfl
          · exact (mem_of_mem_escape (by decide) (by decide) (by decide) hc).2
          · exact (mem_of_mem_escape (by decide) (by decide) (by decide) hc).2
        rw [not_of_mem_splitWhere hraw c hmem] at hslash
        cases hslash
  · intro hc
    have hkept := (mem_of_mem_escape (by decide) (by decide) (by decide) hc).1
    exact absurd hkept (by decide)

/-! ## The text of a path -/

theorem toList_join (segments : List String) :
    (join segments).toList = segments.flatMap fun s => '/' :: s.toList := by
  have hslash (s : String) : ("/" ++ s).toList = '/' :: s.toList := String.toList_append
  rw [join, String.toList_join, List.flatMap_map]
  simp only [hslash]

theorem isSlash_slash : (SchemeForm.special port).isSlash '/' = true := rfl

theorem splitWhere_join {segments : List String}
    (h : ∀ s ∈ segments, ∀ c ∈ s.toList, (SchemeForm.special port).isSlash c = false) :
    splitWhere (SchemeForm.special port).isSlash (join segments).toList =
      [] :: segments.map String.toList := by
  rw [toList_join]
  induction segments with
  | nil => rfl
  | cons s segments ih =>
      have hrest := ih fun s' hs' => h s' (List.mem_cons_of_mem s hs')
      rw [List.flatMap_cons, List.cons_append, splitWhere, if_pos isSlash_slash,
        splitWhere_append_of_none (h s List.mem_cons_self), hrest]
      simp only [List.modifyHead_cons, List.append_nil, List.map_cons]

theorem afterSlash_slash (cs : List Char) : afterSlash (.special port) ('/' :: cs) = cs := rfl

end Walk
end UrlPath

namespace Url

variable {u : Url}

theorem path_withPath (h : u.IsWeb) {path : String} {cs : List Char}
    (hpath : path.toList = '/' :: cs) :
    ∃ port, (u.withPath path).path = UrlPath.join (UrlPath.segments (.special port) cs) := by
  obtain ⟨port, hform⟩ := h.form
  refine ⟨port, ?_⟩
  unfold withPath
  dsimp only
  rw [hform, if_neg (fun h => Bool.noConfusion h.2), hpath, UrlPath.afterSlash_slash]
  rfl

/-- **When a path stays what it is.** It is made of segments in which all
characters stand for themselves, and none of them would be resolved. -/
theorem path_withPath_eq_iff (h : u.IsWeb) {segments : List String}
    (hne : segments ≠ [])
    (hchars : ∀ s ∈ segments, ∀ c ∈ s.toList, UrlPath.isKeyChar c = true ∧ c ≠ '/') :
    (u.withPath (UrlPath.join segments)).path = UrlPath.join segments ↔
      ∀ s ∈ segments, UrlPath.isResolved s = false := by
  have hslash (port : Nat) : ∀ s ∈ segments, ∀ c ∈ s.toList,
      (SchemeForm.special port).isSlash c = false := by
    intro s hs c hc
    obtain ⟨hkey, hne⟩ := hchars s hs c hc
    rw [UrlPath.isSlash_of_isKeyChar hkey port]
    exact beq_eq_false_iff_ne.mpr hne
  obtain ⟨first, rest, rfl⟩ := List.exists_cons_of_ne_nil hne
  obtain ⟨cs, hcs⟩ : ∃ cs, (UrlPath.join (first :: rest)).toList = '/' :: cs := by
    rw [UrlPath.toList_join]
    exact ⟨_, rfl⟩
  obtain ⟨port, hpath⟩ := path_withPath h hcs
  have hread := UrlPath.splitWhere_join (hslash port)
  -- behind the first slash are the segments
  have hparts : splitWhere (SchemeForm.special port).isSlash cs =
      (first :: rest).map String.toList := by
    rw [hcs, splitWhere, if_pos UrlPath.isSlash_slash] at hread
    exact (List.cons.inj hread).2
  rw [hpath]
  constructor
  · intro heq
    have hkept : UrlPath.segments (.special port) cs = first :: rest := by
      have hfree : ∀ s ∈ UrlPath.segments (.special port) cs, ∀ c ∈ s.toList,
          (SchemeForm.special port).isSlash c = false :=
        fun s hs => (UrlPath.not_mem_of_mem_segments s hs).1
      have hread' := UrlPath.splitWhere_join hfree
      rw [heq, hread, List.cons.injEq] at hread'
      exact List.map_inj_right (fun _ _ => String.toList_inj.mp) |>.mp hread'.2.symm
    rw [← hkept]
    exact UrlPath.not_isResolved_of_mem_segments
  · intro hplain
    have hescape : ∀ s ∈ first :: rest, UrlPath.escape s.toList = s := by
      intro s hs
      rw [UrlPath.escape_of_keyChars fun c hc => (hchars s hs c hc).1, String.ofList_toList]
    have hsegments : UrlPath.segments (.special port) cs = first :: rest := by
      rw [UrlPath.segments_of_plain, hparts, List.map_map]
      · exact (List.map_congr_left hescape).trans (List.map_id _)
      · rw [hparts]
        intro raw hraw
        obtain ⟨s, hs, rfl⟩ := List.mem_map.mp hraw
        rw [hescape s hs]
        exact hplain s hs
    rw [hsegments]

theorem not_mem_path_withPath (h : u.IsWeb) {path : String} {cs : List Char}
    (hpath : path.toList = '/' :: cs) : '?' ∉ (u.withPath path).path.toList := by
  obtain ⟨port, heq⟩ := path_withPath h hpath
  rw [heq, UrlPath.toList_join]
  intro hmem
  obtain ⟨s, hs, hmem⟩ := List.mem_flatMap.mp hmem
  rcases List.mem_cons.mp hmem with hmem | hmem
  · exact absurd hmem (by decide)
  · exact (UrlPath.not_mem_of_mem_segments s hs).2 hmem

end Url
end ObjectStore
