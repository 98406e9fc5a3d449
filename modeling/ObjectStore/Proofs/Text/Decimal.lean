import Mathlib.Algebra.GroupWithZero.Nat
import ObjectStore.Text.Blank
import ObjectStore.Text.Decimal

/-!
# Numbers read back

A row of digits denotes a number below the power of ten with as many zeros. A
number that is written in digits is read again, if it is below the bound.
-/

namespace ObjectStore.Decimal

theorem isDigit_of_mem_toDigits {c : Char} {n : Nat} (h : c ∈ Nat.toDigits 10 n) :
    isDigit c = true := by
  have hdigit := Nat.isDigit_of_mem_toDigits (by decide) (by decide) h
  simpa [isDigit, Char.isDigit, Char.le_def] using hdigit

theorem isBlank_of_isDigit {c : Char} (h : isDigit c = true) : isBlank c = false := by
  simp only [isDigit, Bool.and_eq_true, decide_eq_true_eq, Char.le_def,
    UInt32.le_iff_toNat_le] at h
  have hle : 48 ≤ c.toNat ∧ c.toNat ≤ 57 := h
  simp only [isBlank, Bool.decide_and, Bool.or_eq_false_iff, Bool.and_eq_false_imp,
    decide_eq_true_eq, decide_eq_false_iff_not, Nat.not_le, beq_eq_false_iff_ne, ne_eq]
  omega

/-! ## What digits denote -/

theorem foldl_digits (n : Nat) (cs : List Char) :
    cs.foldl (fun n c => n * 10 + (c.toNat - '0'.toNat)) n = n * 10 ^ cs.length + value cs := by
  induction cs generalizing n with
  | nil => simp [value]
  | cons c cs ih =>
      have hcons : value (c :: cs) =
          (0 * 10 + (c.toNat - '0'.toNat)) * 10 ^ cs.length + value cs := ih _
      rw [List.foldl_cons, ih, hcons, List.length_cons, Nat.pow_succ']
      simp only [Nat.add_mul, Nat.mul_assoc, Nat.zero_mul, Nat.zero_add, Nat.add_assoc]

/-- The digits in front count as many times as those behind can tell apart. -/
theorem value_append (cs ds : List Char) :
    value (cs ++ ds) = value cs * 10 ^ ds.length + value ds := by
  rw [value, List.foldl_append, foldl_digits]
  rfl

theorem value_cons (c : Char) (cs : List Char) :
    value (c :: cs) = (c.toNat - '0'.toNat) * 10 ^ cs.length + value cs := by
  rw [← List.singleton_append, value_append]
  simp [value]

theorem digit_le {c : Char} (h : isDigit c = true) : c.toNat - '0'.toNat ≤ 9 := by
  simp only [isDigit, Bool.and_eq_true, decide_eq_true_eq, Char.le_def,
    UInt32.le_iff_toNat_le] at h
  have hle : c.toNat ≤ 57 := h.2
  have hzero : '0'.toNat = 48 := rfl
  omega

theorem digit_add_lt {d n v : Nat} (hd : d ≤ 9) (hv : v < 10 ^ n) :
    d * 10 ^ n + v < 10 ^ (n + 1) :=
  calc d * 10 ^ n + v
    _ < 9 * 10 ^ n + 10 ^ n := Nat.add_lt_add_of_le_of_lt (Nat.mul_le_mul_right _ hd) hv
    _ = 10 ^ (n + 1) := by rw [Nat.pow_succ]; omega

theorem value_lt {cs : List Char} (h : ∀ c ∈ cs, isDigit c = true) :
    value cs < 10 ^ cs.length := by
  induction cs with
  | nil => decide
  | cons c cs ih =>
      obtain ⟨hc, hcs⟩ := List.forall_mem_cons.mp h
      rw [value_cons]
      exact digit_add_lt (digit_le hc) (ih hcs)

theorem value_toDigits (n : Nat) : value (Nat.toDigits 10 n) = n := by
  conv => rhs; rw [← @Nat.ofDigitChars_ten_toDigits n, Nat.ofDigitChars_eq_foldl]
  simp only [value, Nat.mul_comm 10]

theorem value_replicate_zero (n : Nat) : value (List.replicate n '0') = 0 := by
  induction n with
  | zero => rfl
  | succ n ih => rw [List.replicate_succ, value_cons, ih]; simp

theorem value_padded (width n : Nat) : value (padded width n).toList = n := by
  rw [padded, String.toList_ofList, value_append, value_replicate_zero, value_toDigits,
    Nat.zero_mul, Nat.zero_add]

theorem isDigit_of_mem_padded {c : Char} {width n : Nat} (h : c ∈ (padded width n).toList) :
    isDigit c = true := by
  rw [padded, String.toList_ofList, List.mem_append] at h
  rcases h with hzero | hdigit
  · rw [List.eq_of_mem_replicate hzero]
    rfl
  · exact isDigit_of_mem_toDigits hdigit

theorem length_padded {width n : Nat} (hwidth : 0 < width) (h : n < 10 ^ width) :
    (padded width n).toList.length = width := by
  have hle := (Nat.length_toDigits_le_iff (b := 10) (by decide) hwidth).mpr h
  rw [padded, String.toList_ofList, List.length_append, List.length_replicate]
  omega

/-! ## Reading back -/

/-- Digits that denote a number: one or more, leading zeros allowed. -/
structure Denotes (digits : List Char) (n : Nat) : Prop where
  ne_nil : digits ≠ []
  digit : ∀ c ∈ digits, isDigit c = true
  value_eq : value digits = n

theorem below?_eq_some_iff {bound n : Nat} (hbound : 0 < bound) {digits : List Char} :
    (if digits.isEmpty || !digits.all isDigit then none else below? bound digits) = some n ↔
      Denotes digits n ∧ n < bound := by
  constructor
  · intro h
    split at h
    · cases h
    next hdigits =>
    rw [Bool.or_eq_true, not_or, Bool.not_eq_true, List.isEmpty_eq_false_iff, Bool.not_eq_true,
      Bool.not_eq_false', List.all_eq_true] at hdigits
    rw [below?_eq hbound] at h
    split at h
    · next hlt =>
        obtain rfl := Option.some.inj h
        exact ⟨⟨hdigits.1, hdigits.2, rfl⟩, hlt⟩
    · cases h
  · rintro ⟨⟨hne, hdigit, rfl⟩, hlt⟩
    rw [List.isEmpty_eq_false_iff.mpr hne, List.all_eq_true.mpr hdigit, below?_eq hbound,
      if_pos hlt]
    rfl

/-- **What is read as a number below the bound**: digits that denote one, perhaps
behind a plus sign. -/
theorem parse?_eq_some_iff {bound n : Nat} (hbound : 0 < bound) {cs : List Char} :
    parse? bound cs = some n ↔
      ∃ sign digits, cs = sign ++ digits ∧ (sign = [] ∨ sign = ['+']) ∧ Denotes digits n ∧
        n < bound := by
  constructor
  · intro h
    unfold parse? at h
    split at h
    · next rest => exact ⟨['+'], rest, rfl, .inr rfl, (below?_eq_some_iff hbound).mp h⟩
    · exact ⟨[], cs, rfl, .inl rfl, (below?_eq_some_iff hbound).mp h⟩
  · rintro ⟨sign, digits, rfl, rfl | rfl, hdigits⟩
    · unfold parse?
      split
      · next rest heq =>
          -- a plus sign is no digit
          rw [List.nil_append] at heq
          have hplus := hdigits.1.digit '+' (heq ▸ List.mem_cons_self)
          cases hplus
      · exact (below?_eq_some_iff hbound).mpr hdigits
    · exact (below?_eq_some_iff hbound).mpr hdigits

theorem denotes_toString (n : Nat) : Denotes (toString n).toList n := by
  rw [Nat.toString_eq_ofList_toDigits, String.toList_ofList]
  exact ⟨Nat.toDigits_ne_nil, fun c hc => isDigit_of_mem_toDigits hc, value_toDigits n⟩

theorem parse?_toString {bound n : Nat} (h : n < bound) :
    parse? bound (toString n).toList = some n :=
  (parse?_eq_some_iff (Nat.zero_lt_of_lt h)).mpr
    ⟨[], _, rfl, .inl rfl, denotes_toString n, h⟩

theorem trimBy_toString {p : Char → Bool} (hp : ∀ c, isDigit c = true → p c = false) (n : Nat) :
    trimBy p (toString n).toList = (toString n).toList := by
  rw [Nat.toString_eq_ofList_toDigits, String.toList_ofList]
  exact trimBy_of_ends
    (fun c hc => hp c (isDigit_of_mem_toDigits (List.mem_of_head? hc)))
    (fun c hc => hp c (isDigit_of_mem_toDigits (List.mem_of_getLast? hc)))

end ObjectStore.Decimal
