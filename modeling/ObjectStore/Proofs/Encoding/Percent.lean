import ObjectStore.Encoding.Percent
import ObjectStore.Proofs.Text.Utf8

/-!
# Percent-encoding read back

Places differ in the bytes that stand for themselves. In every place these are
letters, digits and some other characters of ASCII, never the percent sign,
and this is all it takes: what is written there reads back byte by byte, and it
holds no character but the ones that may stand there and the percent sign.
-/

namespace ObjectStore.Percent

/-- A class of bytes that may stand for themselves. -/
structure Readable (kept : UInt8 → Bool) : Prop where
  ascii : ∀ b, kept b = true → b.toNat < 0x80
  alphanumeric : ∀ b, isAlphanumeric b = true → kept b = true
  percent : kept percentSign = false

theorem isAlphanumeric_upperDigit : ∀ n < 16,
    (Hex.upperDigit n).toNat < 0x80 ∧
      isAlphanumeric (UInt8.ofNat (Hex.upperDigit n).toNat) = true := by
  decide

section Place

variable {kept : UInt8 → Bool} (h : Readable kept)
include h

theorem mem_encodeByte {b : UInt8} {c : Char} (hc : c ∈ encodeByte kept b) :
    c.toNat < 0x80 ∧ (c = '%' ∨ kept (UInt8.ofNat c.toNat) = true) := by
  have hdigit (n : Nat) (hn : n < 16) : (Hex.upperDigit n).toNat < 0x80 ∧
      (Hex.upperDigit n = '%' ∨ kept (UInt8.ofNat (Hex.upperDigit n).toNat) = true) := by
    obtain ⟨hascii, hletter⟩ := isAlphanumeric_upperDigit n hn
    exact ⟨hascii, Or.inr (h.alphanumeric _ hletter)⟩
  have hb := UInt8.toNat_lt b
  unfold encodeByte at hc
  split at hc
  · next hkept =>
      obtain rfl := List.mem_singleton.mp hc
      rw [Utf8.toNat_ofNat_byte b, UInt8.ofNat_toNat]
      exact ⟨h.ascii b hkept, Or.inr hkept⟩
  · simp only [escape, List.mem_cons, List.not_mem_nil, or_false] at hc
    rcases hc with rfl | rfl | rfl
    · exact ⟨by decide, Or.inl rfl⟩
    · exact hdigit _ (by omega)
    · exact hdigit _ (by omega)

theorem decode_encodeByte (b : UInt8) (rest : Bytes) :
    decode ((encodeByte kept b).map (fun c => UInt8.ofNat c.toNat) ++ rest) =
      b :: decode rest := by
  unfold encodeByte
  split
  · next hkept =>
      have hne : b ≠ percentSign := by
        rintro rfl
        rw [h.percent] at hkept
        cases hkept
      rw [List.map_singleton, Utf8.toNat_ofNat_byte b, UInt8.ofNat_toNat]
      exact decode_cons_of_ne hne rest
  · have hb := UInt8.toNat_lt b
    -- an escape is read by its digits, which are the two halves of the byte
    have hread (n : Nat) (hn : n < 16) :
        Hex.digit? (Char.ofNat (UInt8.ofNat (Hex.upperDigit n).toNat).toNat) = some n := by
      have hascii := (isAlphanumeric_upperDigit n hn).1
      rw [UInt8.toNat_ofNat', Nat.mod_eq_of_lt (by omega), Char.ofNat_toNat]
      exact Hex.digit?_upperDigit n hn
    apply decode_escape
    rw [digits?, hread _ (by omega), hread _ (by omega)]
    have hjoin : b.toNat / 16 * 16 + b.toNat % 16 = b.toNat := by omega
    show some (UInt8.ofNat (b.toNat / 16 * 16 + b.toNat % 16)) = some b
    rw [hjoin, UInt8.ofNat_toNat]

theorem mem_encode {s : String} {c : Char} (hc : c ∈ (encode kept s).toList) :
    c.toNat < 0x80 ∧ (c = '%' ∨ kept (UInt8.ofNat c.toNat) = true) := by
  rw [encode, String.toList_ofList] at hc
  obtain ⟨b, -, hc⟩ := List.mem_flatMap.mp hc
  exact mem_encodeByte h hc

theorem decode_encode (s : String) : decode (Utf8.encode (encode kept s)) = Utf8.encode s := by
  have hascii : ∀ c ∈ encodeBytes kept (Utf8.encode s), c.toNat < 0x80 := by
    intro c hc
    obtain ⟨b, -, hc⟩ := List.mem_flatMap.mp hc
    exact (mem_encodeByte h hc).1
  rw [encode, Utf8.encode_ofList, Utf8.encodeChars_ascii hascii, encodeBytes]
  induction Utf8.encode s with
  | nil => rfl
  | cons b bs ih =>
      rw [List.flatMap_cons, List.map_append, decode_encodeByte h b, ih]

theorem encode_injective {s s' : String} (heq : encode kept s = encode kept s') : s = s' := by
  apply Utf8.encode_injective
  rw [← decode_encode h s, ← decode_encode h s', heq]

end Place

theorem readable_keptInKey : Readable keptInKey where
  ascii b hb := by
    simp only [keptInKey, isAlphanumeric, Bool.or_eq_true, Bool.and_eq_true, decide_eq_true_eq,
      beq_iff_eq, UInt8.le_iff_toNat_le, ← UInt8.toNat_inj, UInt8.reduceToNat] at hb
    omega
  alphanumeric b hb := by simp only [keptInKey, hb, Bool.true_or]
  percent := by decide

/-! ## Any class of kept bytes -/

/-- A text of ASCII whose characters are all kept is written as it stands. -/
theorem encode_of_kept {kept : UInt8 → Bool} {s : String}
    (h : ∀ c ∈ s.toList, c.toNat < 0x80 ∧ kept (UInt8.ofNat c.toNat) = true) :
    encode kept s = s := by
  have hbytes : encodeBytes kept (Utf8.encode s) = s.toList := by
    unfold Utf8.encode
    revert h
    induction s.toList with
    | nil => exact fun _ => rfl
    | cons c cs ih =>
        intro h
        obtain ⟨hascii, hkept⟩ := h c List.mem_cons_self
        have hrest := ih fun d hd => h d (List.mem_cons_of_mem c hd)
        rw [encodeBytes] at hrest ⊢
        rw [List.flatMap_cons, Utf8.encodeChar_ascii hascii, List.singleton_append,
          List.flatMap_cons, hrest, encodeByte, if_pos hkept, UInt8.toNat_ofNat',
          Nat.mod_eq_of_lt (by omega), Char.ofNat_toNat, List.singleton_append]
  rw [encode, hbytes, String.ofList_toList]

/-- A character that is no part of an escape comes from a byte that is kept. -/
theorem mem_of_mem_encode {kept : UInt8 → Bool} {s : String} {c : Char}
    (hpercent : c ≠ '%') (hdigit : ∀ n < 16, c ≠ Hex.upperDigit n) (hascii : c.toNat < 0x80)
    (h : c ∈ (encode kept s).toList) : kept (UInt8.ofNat c.toNat) = true ∧ c ∈ s.toList := by
  rw [encode, String.toList_ofList] at h
  obtain ⟨b, hb, hc⟩ := List.mem_flatMap.mp h
  have hsmall := UInt8.toNat_lt b
  unfold encodeByte at hc
  split at hc
  · next hkept =>
      obtain rfl := List.mem_singleton.mp hc
      have hback : (Char.ofNat b.toNat).toNat = b.toNat := Utf8.toNat_ofNat_byte b
      rw [hback] at hascii ⊢
      rw [UInt8.ofNat_toNat]
      exact ⟨hkept, Utf8.mem_of_mem_encode hb hascii⟩
  · simp only [escape, List.mem_cons, List.not_mem_nil, or_false] at hc
    rcases hc with hc | hc | hc
    · exact absurd hc hpercent
    · exact absurd hc (hdigit _ (by omega))
    · exact absurd hc (hdigit _ (by omega))

end ObjectStore.Percent
