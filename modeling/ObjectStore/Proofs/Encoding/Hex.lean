import Mathlib.Data.List.Forall2
import ObjectStore.Encoding.Hex

/-!
# What hexadecimal text denotes

A digit has a value below sixteen, in lower and in upper case, and the digits of a
text are the halves of its bytes. A text is read as the bytes that it denotes; there
is no other text that can be read.
-/

namespace ObjectStore.Hex

/-! ## Digits -/

/-- A digit with its value, in lower or upper case. -/
def IsDigit (c : Char) (n : Nat) : Prop :=
  "0123456789abcdef".toList[n]? = some c ∨ "0123456789ABCDEF".toList[n]? = some c

theorem isDigit_iff {c : Char} {n : Nat} :
    IsDigit c n ↔ n < 16 ∧ (c = lowerDigit n ∨ c = upperDigit n) := by
  have hlower : ∀ n < 16, "0123456789abcdef".toList[n]? = some (lowerDigit n) := by decide
  have hupper : ∀ n < 16, "0123456789ABCDEF".toList[n]? = some (upperDigit n) := by decide
  constructor
  · rintro (h | h)
    · have hn : n < 16 := (List.getElem?_eq_some_iff.mp h).1
      exact ⟨hn, .inl (Option.some.inj (h.symm.trans (hlower n hn)))⟩
    · have hn : n < 16 := (List.getElem?_eq_some_iff.mp h).1
      exact ⟨hn, .inr (Option.some.inj (h.symm.trans (hupper n hn)))⟩
  · rintro ⟨hn, rfl | rfl⟩
    · exact .inl (hlower n hn)
    · exact .inr (hupper n hn)

theorem ofNat_add_sub {c first : Char} (h : first ≤ c) :
    Char.ofNat (first.toNat + (c.toNat - first.toNat)) = c := by
  have hle : first.toNat ≤ c.toNat := UInt32.le_iff_toNat_le.mp (Char.le_def.mp h)
  rw [Nat.add_sub_of_le hle, Char.ofNat_toNat]

theorem sub_le_of_le {c first last : Char} (h : c ≤ last) :
    c.toNat - first.toNat ≤ last.toNat - first.toNat :=
  Nat.sub_le_sub_right (UInt32.le_iff_toNat_le.mp (Char.le_def.mp h)) _

theorem digit?_eq_some_iff {c : Char} {n : Nat} : digit? c = some n ↔ IsDigit c n := by
  rw [isDigit_iff]
  constructor
  · intro h
    simp only [digit?, Bool.and_eq_true, decide_eq_true_eq] at h
    split at h
    · next hbounds =>
        obtain rfl := Option.some.inj h
        have hlt : c.toNat - '0'.toNat ≤ 9 := sub_le_of_le hbounds.2
        refine ⟨by omega, .inl ?_⟩
        rw [lowerDigit, if_pos (by omega), ofNat_add_sub hbounds.1]
    split at h
    · next hbounds =>
        obtain rfl := Option.some.inj h
        have hlt : c.toNat - 'a'.toNat ≤ 5 := sub_le_of_le hbounds.2
        refine ⟨by omega, .inl ?_⟩
        rw [lowerDigit, if_neg (by omega), Nat.add_sub_cancel, ofNat_add_sub hbounds.1]
    split at h
    · next hbounds =>
        obtain rfl := Option.some.inj h
        have hlt : c.toNat - 'A'.toNat ≤ 5 := sub_le_of_le hbounds.2
        refine ⟨by omega, .inr ?_⟩
        rw [upperDigit, if_neg (by omega), Nat.add_sub_cancel, ofNat_add_sub hbounds.1]
    · cases h
  · rintro ⟨hn, rfl | rfl⟩
    · exact digit?_lowerDigit n hn
    · exact digit?_upperDigit n hn

theorem IsDigit.toUpper {c : Char} {n : Nat} (h : IsDigit c n) : IsDigit c.toUpper n := by
  have hlower : ∀ n < 16, (lowerDigit n).toUpper = upperDigit n := by decide
  have hupper : ∀ n < 16, (upperDigit n).toUpper = upperDigit n := by decide
  obtain ⟨hn, rfl | rfl⟩ := isDigit_iff.mp h
  · exact isDigit_iff.mpr ⟨hn, .inr (hlower n hn)⟩
  · exact isDigit_iff.mpr ⟨hn, .inr (hupper n hn)⟩

def digits : List Char := "0123456789abcdefABCDEF".toList

theorem IsDigit.mem_digits {c : Char} {n : Nat} (h : IsDigit c n) : c ∈ digits := by
  have hlower : ∀ n < 16, lowerDigit n ∈ digits := by decide
  have hupper : ∀ n < 16, upperDigit n ∈ digits := by decide
  obtain ⟨hn, rfl | rfl⟩ := isDigit_iff.mp h
  · exact hlower n hn
  · exact hupper n hn

theorem ascii_of_mem_digits : ∀ c ∈ digits, c.toNat < 0x80 :=
  List.forall_iff_forall_mem.mp (by decide)

/-! ## Texts -/

/-- The halves of bytes, of each byte the high one first. -/
def halves (bs : Bytes) : List Nat := bs.flatMap fun b => [b.toNat / 16, b.toNat % 16]

/-- A text denotes bytes: it has one digit for each of their halves. -/
def Denotes (cs : List Char) (bs : Bytes) : Prop := List.Forall₂ IsDigit cs (halves bs)

theorem length_halves (bs : Bytes) : (halves bs).length = 2 * bs.length := by
  induction bs with
  | nil => rfl
  | cons b bs ih =>
      show (halves bs).length + 2 = _
      rw [ih, List.length_cons]
      omega

theorem lt_of_mem_halves {bs : Bytes} {n : Nat} (h : n ∈ halves bs) : n < 16 := by
  obtain ⟨b, -, hn⟩ := List.mem_flatMap.mp h
  have hb := UInt8.toNat_lt b
  simp only [List.mem_cons, List.not_mem_nil, or_false] at hn
  omega

theorem denotes_cons_cons {hi lo : Char} {cs : List Char} {b : UInt8} {bs : Bytes} :
    Denotes (hi :: lo :: cs) (b :: bs) ↔
      IsDigit hi (b.toNat / 16) ∧ IsDigit lo (b.toNat % 16) ∧ Denotes cs bs := by
  show List.Forall₂ IsDigit (hi :: lo :: cs) (b.toNat / 16 :: b.toNat % 16 :: halves bs) ↔ _
  rw [List.forall₂_cons, List.forall₂_cons]
  rfl

theorem Denotes.length_eq {cs : List Char} {bs : Bytes} (h : Denotes cs bs) :
    cs.length = 2 * bs.length :=
  (List.Forall₂.length_eq h).trans (length_halves bs)

theorem Denotes.mem_digits {cs : List Char} {bs : Bytes} (h : Denotes cs bs) :
    ∀ c ∈ cs, c ∈ digits := by
  rw [Denotes] at h
  generalize halves bs = ns at h
  induction h with
  | nil => exact fun c hc => by cases hc
  | cons hcn _ ih => exact List.forall_mem_cons.mpr ⟨hcn.mem_digits, ih⟩

/-- **A text is read as the bytes that it denotes.** -/
theorem decode?_eq_some_iff {cs : List Char} {bs : Bytes} :
    decode? cs = some bs ↔ Denotes cs bs := by
  constructor
  · intro h
    fun_induction decode? cs generalizing bs with
    | case1 =>
        obtain rfl := Option.some.inj h
        exact .nil
    | case2 => cases h
    | case3 hi lo rest ih =>
        simp only [Option.bind_eq_bind, Option.bind_eq_some_iff] at h
        obtain ⟨n, hhi, m, hlo, bs', hrest, hbs⟩ := h
        obtain rfl := Option.some.inj hbs
        rw [digit?_eq_some_iff] at hhi hlo
        have hn := (isDigit_iff.mp hhi).1
        have hm := (isDigit_iff.mp hlo).1
        have hbyte : (UInt8.ofNat (n * 16 + m)).toNat = n * 16 + m := by
          rw [UInt8.toNat_ofNat']
          omega
        have hhigh : (n * 16 + m) / 16 = n := by omega
        have hlow : (n * 16 + m) % 16 = m := by omega
        rw [denotes_cons_cons, hbyte, hhigh, hlow]
        exact ⟨hhi, hlo, ih hrest⟩
  · intro h
    induction bs generalizing cs with
    | nil =>
        cases h
        rfl
    | cons b bs ih =>
        match cs, h with
        | hi :: lo :: rest, h =>
            obtain ⟨hhi, hlo, hrest⟩ := denotes_cons_cons.mp h
            have hjoin : b.toNat / 16 * 16 + b.toNat % 16 = b.toNat := by omega
            rw [decode?, digit?_eq_some_iff.mpr hhi, digit?_eq_some_iff.mpr hlo, ih hrest]
            show some (UInt8.ofNat (b.toNat / 16 * 16 + b.toNat % 16) :: bs) = some (b :: bs)
            rw [hjoin, UInt8.ofNat_toNat]

theorem denotes_encode (bs : Bytes) : Denotes (encode bs).toList bs := by
  have htext : (encode bs).toList = (halves bs).map lowerDigit := by
    rw [encode, String.toList_ofList, halves, List.map_flatMap]
    rfl
  rw [Denotes, htext, List.forall₂_map_left_iff, List.forall₂_same]
  exact fun n hn => isDigit_iff.mpr ⟨lt_of_mem_halves hn, .inl rfl⟩

theorem Denotes.toUpper {text : String} {bs : Bytes} (h : Denotes text.toList bs) :
    Denotes text.toUpper.toList bs := by
  rw [String.toUpper, String.toList_map]
  exact List.forall₂_map_left_iff.mpr (List.Forall₂.imp (fun _ _ hc => hc.toUpper) h)

end ObjectStore.Hex
