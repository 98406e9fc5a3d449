import Mathlib.Data.List.Lex
import Mathlib.Tactic.SplitIfs
import ObjectStore.Proofs.Text.Utf8

/-!
# The order of texts in bytes

Texts are ordered by their code points. Their bytes are ordered in the same way:
longer forms have greater lead bytes, and among forms of one length the bytes are
the digits of the code point. So what is sorted by text is sorted by bytes.
-/

namespace ObjectStore.Utf8

/-! ## Bytes by their numbers -/

theorem ofNat_lt_ofNat {m n : Nat} (hm : m < 0x100) (hn : n < 0x100) :
    UInt8.ofNat m < UInt8.ofNat n ↔ m < n := by
  rw [UInt8.lt_iff_toNat_lt, UInt8.toNat_ofNat', UInt8.toNat_ofNat', Nat.mod_eq_of_lt hm,
    Nat.mod_eq_of_lt hn]

theorem ofNat_eq_ofNat {m n : Nat} (hm : m < 0x100) (hn : n < 0x100) :
    UInt8.ofNat m = UInt8.ofNat n ↔ m = n := by
  rw [← UInt8.toNat_inj, UInt8.toNat_ofNat', UInt8.toNat_ofNat', Nat.mod_eq_of_lt hm,
    Nat.mod_eq_of_lt hn]

/-! ## Characters and texts -/

/-- The bytes of a smaller character are smaller, whatever follows. -/
theorem encodeChar_lt {c d : Char} (h : c < d) (bs bs' : Bytes) :
    String.utf8EncodeChar c ++ bs < String.utf8EncodeChar d ++ bs' := by
  have hlt : c.val.toNat < d.val.toNat := h
  have hvalid : d.val.toNat < 0x110000 := by
    rcases d.valid with hlow | hhigh
    · exact Nat.lt_trans hlow (by decide)
    · exact hhigh.2
  -- all bytes behind the first are digits to one base
  have htwo (n : Nat) : n / 4096 = n / 64 / 64 := by omega
  have hthree (n : Nat) : n / 262144 = n / 64 / 64 / 64 := by omega
  unfold String.utf8EncodeChar
  dsimp only
  generalize c.val.toNat = m at *
  generalize d.val.toNat = n at *
  split_ifs <;>
    simp (disch := omega) only [List.cons_append, List.nil_append, List.cons_lt_cons_iff,
      ofNat_lt_ofNat, ofNat_eq_ofNat, htwo, hthree] <;>
    omega

theorem encodeChars_lt {cs ds : List Char} (h : cs < ds) :
    cs.flatMap String.utf8EncodeChar < ds.flatMap String.utf8EncodeChar := by
  induction cs generalizing ds with
  | nil =>
      cases ds with
      | nil => exact absurd h (List.not_lt_nil [])
      | cons d ds =>
          obtain ⟨b, bs, hbytes, -⟩ := next_encodeChar d
          rw [List.flatMap_nil, List.flatMap_cons, hbytes]
          exact List.nil_lt_cons _ _
  | cons c cs ih =>
      cases ds with
      | nil => exact absurd h (List.not_lt_nil _)
      | cons d ds =>
          rw [List.flatMap_cons, List.flatMap_cons]
          rcases List.cons_lt_cons_iff.mp h with hchar | ⟨rfl, hrest⟩
          · exact encodeChar_lt hchar _ _
          · exact List.Lex.append_left _ (ih hrest) _

/-- **Texts have the order of their bytes.** -/
theorem encode_lt_encode_iff {s t : String} : encode s < encode t ↔ s < t := by
  have hforward {s t : String} (h : s < t) : encode s < encode t := encodeChars_lt h
  constructor
  · intro hbytes
    rcases Std.lt_trichotomy s t with h | rfl | h
    · exact h
    · exact absurd hbytes (List.lt_irrefl _)
    · exact absurd hbytes (List.lt_asymm (hforward h))
  · exact hforward

end ObjectStore.Utf8
