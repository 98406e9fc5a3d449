import ObjectStore.Text.Utf8

/-!
# UTF-8 there and back

The bytes of a text are read as its characters again, strictly or not. A
character takes one, two, three or four bytes by its code point, and each form
is read back with the lead byte and the range that belong to it.
-/

namespace ObjectStore.Utf8

@[simp] theorem encode_empty : encode "" = [] := rfl

@[simp] theorem encode_append (s t : String) : encode (s ++ t) = encode s ++ encode t := by
  simp only [encode, String.toList_append, List.flatMap_append]

/-- The bytes of a row of characters. -/
@[simp] theorem encode_ofList (cs : List Char) :
    encode (String.ofList cs) = cs.flatMap String.utf8EncodeChar := by
  rw [encode, String.toList_ofList]

theorem encodeChar_ascii {c : Char} (h : c.toNat < 0x80) :
    String.utf8EncodeChar c = [UInt8.ofNat c.toNat] :=
  if_pos (Nat.le_of_lt_succ h)

theorem encodeChars_ascii {cs : List Char} (h : ∀ c ∈ cs, c.toNat < 0x80) :
    cs.flatMap String.utf8EncodeChar = cs.map fun c => UInt8.ofNat c.toNat := by
  induction cs with
  | nil => rfl
  | cons c cs ih =>
      rw [List.flatMap_cons, encodeChar_ascii (h c List.mem_cons_self),
        ih fun d hd => h d (List.mem_cons_of_mem c hd)]
      rfl

/-- A byte of ASCII among the bytes of a character is the character. -/
theorem eq_of_mem_encodeChar {c : Char} {b : UInt8} (h : b ∈ String.utf8EncodeChar c)
    (hascii : b.toNat < 0x80) : c = Char.ofNat b.toNat := by
  have hback : Char.ofNat c.val.toNat = c := Char.ofNat_toNat c
  by_cases hc : c.val.toNat ≤ 0x7F
  · rw [encodeChar_ascii (Nat.lt_succ_of_le hc), List.mem_singleton] at h
    have hb : b.toNat = c.val.toNat := by
      rw [h, UInt8.toNat_ofNat']
      exact Nat.mod_eq_of_lt (by show c.val.toNat < 256; omega)
    rw [hb, hback]
  · -- every byte of a longer form has its highest bit set
    have hvalid : c.val.toNat < 0x110000 := by
      rcases c.valid with hlow | hhigh
      · exact Nat.lt_trans hlow (by decide)
      · exact hhigh.2
    have hlarge (n : Nat) (hn : 0x80 ≤ n) (hsmall : n < 0x100) : b ≠ UInt8.ofNat n := by
      intro hb
      rw [hb, UInt8.toNat_ofNat', Nat.mod_eq_of_lt hsmall] at hascii
      omega
    unfold String.utf8EncodeChar at h
    dsimp only at h
    rw [if_neg hc] at h
    split at h
    · simp only [List.mem_cons, List.not_mem_nil, or_false] at h
      rcases h with h | h <;> exact absurd h (hlarge _ (by omega) (by omega))
    split at h
    · simp only [List.mem_cons, List.not_mem_nil, or_false] at h
      rcases h with h | h | h <;> exact absurd h (hlarge _ (by omega) (by omega))
    · simp only [List.mem_cons, List.not_mem_nil, or_false] at h
      rcases h with h | h | h | h <;> exact absurd h (hlarge _ (by omega) (by omega))

theorem toNat_ofNat_byte (b : UInt8) : (Char.ofNat b.toNat).toNat = b.toNat := by
  have hb := UInt8.toNat_lt b
  rw [Char.ofNat, dif_pos (Or.inl (by omega))]
  rfl

theorem mem_of_mem_encode {s : String} {b : UInt8} (h : b ∈ encode s) (hascii : b.toNat < 0x80) :
    Char.ofNat b.toNat ∈ s.toList := by
  obtain ⟨c, hc, hb⟩ := List.mem_flatMap.mp h
  rwa [← eq_of_mem_encodeChar hb hascii]

/-! ## One character -/

theorem continuation_first (n value low high bits : Nat) (rest : Bytes) (hbits : bits < 0x40)
    (hlow : low ≤ bits + 0x80) (hhigh : bits + 0x80 ≤ high) (hbyte : high < 0x100) :
    continuation (n + 1) (UInt8.ofNat low) (UInt8.ofNat high) value
        (UInt8.ofNat (bits + 0x80) :: rest) =
      continuation n 0x80 0xBF (value * 64 + bits) rest := by
  have hto : (UInt8.ofNat (bits + 0x80)).toNat = bits + 0x80 := by
    rw [UInt8.toNat_ofNat']
    omega
  have hrange : UInt8.ofNat low ≤ UInt8.ofNat (bits + 0x80) ∧
      UInt8.ofNat (bits + 0x80) ≤ UInt8.ofNat high := by
    simp only [UInt8.le_iff_toNat_le, UInt8.toNat_ofNat']
    omega
  rw [continuation, if_pos hrange, hto, Nat.add_sub_cancel]

theorem continuation_other (n value bits : Nat) (rest : Bytes) (hbits : bits < 0x40) :
    continuation (n + 1) 0x80 0xBF value (UInt8.ofNat (bits + 0x80) :: rest) =
      continuation n 0x80 0xBF (value * 64 + bits) rest :=
  continuation_first n value 0x80 0xBF bits rest hbits (by omega) (by omega) (by omega)

theorem next_ascii {n : Nat} (h : n < 0x80) (rest : Bytes) :
    next (UInt8.ofNat n) rest = (some (Char.ofNat n), rest) := by
  have hto : (UInt8.ofNat n).toNat = n := by
    rw [UInt8.toNat_ofNat']
    omega
  have hlt : UInt8.ofNat n < 0x80 := by
    rw [UInt8.lt_iff_toNat_lt, hto]
    exact h
  rw [next, if_pos hlt, hto]

/-- What a lead byte of a longer form asks for is read behind it. -/
theorem next_lead {b : UInt8} {n value : Nat} {low high : UInt8} (rest : Bytes)
    (hb : 0x80 ≤ b.toNat) (hlead : lead b = some (n, low, high, value)) :
    next b rest =
      ((continuation n low high value rest).1.map Char.ofNat,
        (continuation n low high value rest).2) := by
  have hlow : ¬b < 0x80 := by
    rw [UInt8.lt_iff_toNat_lt]
    exact Nat.not_lt.mpr hb
  rw [next, if_neg hlow, hlead]

theorem lead_two : ∀ n < 0x20, n < 2 ∨
    lead (UInt8.ofNat (n + 0xC0)) = some (1, 0x80, 0xBF, n) := by
  decide

theorem lead_three : ∀ n < 0x10, lead (UInt8.ofNat (n + 0xE0)) =
    some (2, UInt8.ofNat (if n = 0 then 0xA0 else 0x80),
      UInt8.ofNat (if n = 0xD then 0x9F else 0xBF), n) := by
  decide

theorem lead_four : ∀ n < 0x05, lead (UInt8.ofNat (n + 0xF0)) =
    some (3, UInt8.ofNat (if n = 0 then 0x90 else 0x80),
      UInt8.ofNat (if n = 4 then 0x8F else 0xBF), n) := by
  decide

theorem next_two {n : Nat} (hlow : 0x7F < n) (hhigh : n ≤ 0x7FF) (rest : Bytes) :
    next (UInt8.ofNat (n / 64 % 0x20 + 0xC0)) (UInt8.ofNat (n % 0x40 + 0x80) :: rest) =
      (some (Char.ofNat n), rest) := by
  have hlead := (lead_two (n / 64 % 0x20) (by omega)).resolve_left (by omega)
  have hvalue : n / 64 % 0x20 * 64 + n % 0x40 = n := by omega
  rw [next_lead _ (by rw [UInt8.toNat_ofNat']; omega) hlead,
    continuation_other 0 _ _ _ (by omega), continuation, hvalue]
  rfl

theorem next_three {n : Nat} (hlow : 0x7FF < n) (hhigh : n ≤ 0xFFFF)
    (hvalid : n < 0xD800 ∨ 0xDFFF < n) (rest : Bytes) :
    next (UInt8.ofNat (n / 4096 % 0x10 + 0xE0))
        (UInt8.ofNat (n / 64 % 0x40 + 0x80) :: UInt8.ofNat (n % 0x40 + 0x80) :: rest) =
      (some (Char.ofNat n), rest) := by
  have hlead := lead_three (n / 4096 % 0x10) (by omega)
  have hvalue : (n / 4096 % 0x10 * 64 + n / 64 % 0x40) * 64 + n % 0x40 = n := by omega
  rw [next_lead _ (by rw [UInt8.toNat_ofNat']; omega) hlead,
    continuation_first 1 _ _ _ _ _ (by omega) (by split <;> omega) (by split <;> omega)
      (by split <;> omega),
    continuation_other 0 _ _ _ (by omega), continuation, hvalue]
  rfl

theorem next_four {n : Nat} (hlow : 0xFFFF < n) (hhigh : n < 0x110000) (rest : Bytes) :
    next (UInt8.ofNat (n / 262144 % 0x08 + 0xF0))
        (UInt8.ofNat (n / 4096 % 0x40 + 0x80) :: UInt8.ofNat (n / 64 % 0x40 + 0x80) ::
          UInt8.ofNat (n % 0x40 + 0x80) :: rest) =
      (some (Char.ofNat n), rest) := by
  have hlead := lead_four (n / 262144 % 0x08) (by omega)
  have hvalue : ((n / 262144 % 0x08 * 64 + n / 4096 % 0x40) * 64 + n / 64 % 0x40) * 64 +
      n % 0x40 = n := by omega
  rw [next_lead _ (by rw [UInt8.toNat_ofNat']; omega) hlead,
    continuation_first 2 _ _ _ _ _ (by omega) (by split <;> omega) (by split <;> omega)
      (by split <;> omega),
    continuation_other 1 _ _ _ (by omega), continuation_other 0 _ _ _ (by omega),
    continuation, hvalue]
  rfl

/-- The bytes of a character are read as this character, whatever follows. -/
theorem next_encodeChar (c : Char) :
    ∃ b bs, String.utf8EncodeChar c = b :: bs ∧
      ∀ rest, next b (bs ++ rest) = (some c, rest) := by
  have hback : Char.ofNat c.val.toNat = c := Char.ofNat_toNat c
  have hvalid : c.val.toNat < 0xD800 ∨ 0xDFFF < c.val.toNat ∧ c.val.toNat < 0x110000 := c.valid
  unfold String.utf8EncodeChar
  dsimp only
  -- one case for each number of bytes
  split
  · refine ⟨_, _, rfl, fun rest => ?_⟩
    rw [List.nil_append, next_ascii (by omega), hback]
  split
  · refine ⟨_, _, rfl, fun rest => ?_⟩
    rw [List.cons_append, List.nil_append, next_two (by omega) (by omega), hback]
  split
  · refine ⟨_, _, rfl, fun rest => ?_⟩
    rw [List.cons_append, List.cons_append, List.nil_append,
      next_three (by omega) (by omega) (by omega), hback]
  · refine ⟨_, _, rfl, fun rest => ?_⟩
    rw [List.cons_append, List.cons_append, List.cons_append, List.nil_append,
      next_four (by omega) (by omega), hback]

/-! ## A text -/

theorem forall_mem_encode_lt {s : String} :
    (∀ b ∈ encode s, b.toNat < 0x80) ↔ ∀ c ∈ s.toList, c.toNat < 0x80 := by
  constructor
  · intro h c hc
    obtain ⟨b, bs, hbytes, -⟩ := next_encodeChar c
    have hmem : b ∈ String.utf8EncodeChar c := hbytes ▸ List.mem_cons_self
    have hb := h b (List.mem_flatMap.mpr ⟨c, hc, hmem⟩)
    rw [eq_of_mem_encodeChar hmem hb, toNat_ofNat_byte]
    exact hb
  · intro h b hb
    rw [encode, encodeChars_ascii h] at hb
    obtain ⟨c, hc, rfl⟩ := List.mem_map.mp hb
    have hlt := h c hc
    rw [UInt8.toNat_ofNat']
    omega

theorem decodeLossy_encodeChar (c : Char) (rest : Bytes) :
    decodeLossy (String.utf8EncodeChar c ++ rest) = c :: decodeLossy rest := by
  obtain ⟨b, bs, hbytes, hnext⟩ := next_encodeChar c
  rw [hbytes, List.cons_append, decodeLossy, hnext]
  rfl

theorem decode?_encodeChar (c : Char) (rest : Bytes) :
    decode? (String.utf8EncodeChar c ++ rest) = (decode? rest).map (c :: ·) := by
  obtain ⟨b, bs, hbytes, hnext⟩ := next_encodeChar c
  rw [hbytes, List.cons_append, decode?, hnext]
  cases decode? rest <;> rfl

/-- The bytes of a text are read as the text, with or without replacement. -/
@[simp] theorem decodeLossy_encode (s : String) : decodeLossy (encode s) = s.toList := by
  unfold encode
  induction s.toList with
  | nil => rw [List.flatMap_nil, decodeLossy]
  | cons c cs ih => rw [List.flatMap_cons, decodeLossy_encodeChar, ih]

@[simp] theorem decode?_encode (s : String) : decode? (encode s) = some s.toList := by
  unfold encode
  induction s.toList with
  | nil => rw [List.flatMap_nil, decode?]
  | cons c cs ih => rw [List.flatMap_cons, decode?_encodeChar, ih]; rfl

theorem encode_injective {s t : String} (h : encode s = encode t) : s = t := by
  have hchars : s.toList = t.toList := by
    rw [← decodeLossy_encode s, ← decodeLossy_encode t, h]
  exact String.toList_inj.mp hchars

/-! ## Texts that break off -/

/-- Where continuation bytes are missing at the end, there is no character and
nothing left. -/
theorem continuation_truncated {n value code : Nat} {low high : UInt8} {bs more : Bytes}
    (h : continuation n low high value (bs ++ more) = (some code, [])) (hmore : more ≠ []) :
    continuation n low high value bs = (none, []) := by
  induction bs generalizing n low high value with
  | nil =>
      cases n with
      | zero => exact absurd (Prod.mk.inj h).2 hmore
      | succ n => rfl
  | cons b bs ih =>
      cases n with
      | zero => cases (Prod.mk.inj h).2
      | succ n =>
          rw [List.cons_append, continuation] at h
          rw [continuation]
          split at h
          · next hrange =>
              rw [if_pos hrange]
              exact ih h
          · cases (Prod.mk.inj h).1

theorem next_truncated {b : UInt8} {bs more : Bytes} {c : Char}
    (h : next b (bs ++ more) = (some c, [])) (hmore : more ≠ []) : next b bs = (none, []) := by
  unfold next at h ⊢
  split at h
  · exact absurd (List.append_eq_nil_iff.mp (Prod.mk.inj h).2).2 hmore
  · next hlow =>
      rw [if_neg hlow]
      cases hlead : lead b with
      | none =>
          rw [hlead] at h
          cases (Prod.mk.inj h).1
      | some form =>
          obtain ⟨n, low, high, value⟩ := form
          rw [hlead] at h
          obtain ⟨hcode, hrest⟩ := Prod.mk.inj h
          obtain ⟨code, hcode, -⟩ := Option.map_eq_some_iff.mp hcode
          have hread : continuation n low high value (bs ++ more) = (some code, []) :=
            Prod.ext hcode hrest
          show ((continuation n low high value bs).1.map Char.ofNat,
            (continuation n low high value bs).2) = (none, [])
          rw [continuation_truncated hread hmore]
          rfl

/-- **A text that breaks off** is read as the characters that are complete, with at
most one replacement behind them. -/
theorem decodeLossy_take {cs : List Char} {k : Nat}
    (h : k < (cs.flatMap String.utf8EncodeChar).length) :
    ∃ front behind broken, cs = front ++ behind ∧ behind ≠ [] ∧
      (broken = [] ∨ broken = [replacement]) ∧
      decodeLossy ((cs.flatMap String.utf8EncodeChar).take k) = front ++ broken := by
  induction cs generalizing k with
  | nil => exact absurd h (Nat.not_lt_zero k)
  | cons c cs ih =>
      rw [List.flatMap_cons] at h ⊢
      by_cases hcut : k < (String.utf8EncodeChar c).length
      · -- the first character is not complete
        refine ⟨[], c :: cs, ?_⟩
        rw [List.take_append_of_le_length (Nat.le_of_lt hcut)]
        obtain ⟨b, bs, hbytes, hnext⟩ := next_encodeChar c
        cases k with
        | zero =>
            refine ⟨[], rfl, List.cons_ne_nil c cs, .inl rfl, ?_⟩
            rw [List.take_zero, decodeLossy]
            rfl
        | succ k =>
            have hmore : bs.drop k ≠ [] := by
              rw [hbytes, List.length_cons] at hcut
              rw [ne_eq, List.drop_eq_nil_iff]
              omega
            have hread : next b (bs.take k ++ bs.drop k) = (some c, []) := by
              have hwhole := hnext []
              rwa [List.append_nil, ← List.take_append_drop k bs] at hwhole
            refine ⟨[replacement], rfl, List.cons_ne_nil c cs, .inr rfl, ?_⟩
            rw [hbytes, List.take_succ_cons, decodeLossy, next_truncated hread hmore, decodeLossy]
            rfl
      · have hlength : k - (String.utf8EncodeChar c).length <
            (cs.flatMap String.utf8EncodeChar).length := by
          rw [List.length_append] at h
          omega
        obtain ⟨front, behind, broken, rfl, hbehind, hbroken, hread⟩ := ih hlength
        refine ⟨c :: front, behind, broken, rfl, hbehind, hbroken, ?_⟩
        rw [List.take_append, List.take_of_length_le (Nat.le_of_not_lt hcut),
          decodeLossy_encodeChar, hread]
        rfl

/-! ## Runs of characters and of bytes -/

/-- A class of characters and a class of bytes agree if a character is in the
one when all its bytes are in the other, and out of it when they are all out. -/
def Agree (p : Char → Bool) (q : UInt8 → Bool) : Prop :=
  ∀ c, ∀ b ∈ String.utf8EncodeChar c, q b = p c

theorem agree_beq {a : Char} (ha : a.toNat < 0x80) :
    Agree (· == a) (· == UInt8.ofNat a.toNat) := by
  intro c b hb
  by_cases hc : c = a
  · subst hc
    rw [encodeChar_ascii ha, List.mem_singleton] at hb
    rw [hb]
    exact (beq_self_eq_true _).trans (beq_self_eq_true c).symm
  · have hne : b ≠ UInt8.ofNat a.toNat := by
      intro heq
      have hto : b.toNat = a.toNat := by
        rw [heq, UInt8.toNat_ofNat']
        omega
      have hchar := eq_of_mem_encodeChar hb (by omega)
      rw [hto, Char.ofNat_toNat] at hchar
      exact hc hchar
    exact (beq_eq_false_iff_ne.mpr hne).trans (beq_eq_false_iff_ne.mpr hc).symm

theorem Agree.not {p : Char → Bool} {q : UInt8 → Bool} (h : Agree p q) :
    Agree (fun c => !p c) fun b => !q b :=
  fun c b hb => congrArg (!·) (h c b hb)

theorem Agree.or {p p' : Char → Bool} {q q' : UInt8 → Bool} (h : Agree p q)
    (h' : Agree p' q') : Agree (fun c => p c || p' c) fun b => q b || q' b := by
  intro c b hb
  dsimp only
  rw [h c b hb, h' c b hb]

theorem Agree.all {p : Char → Bool} {q : UInt8 → Bool} (h : Agree p q) (cs : List Char) :
    (cs.flatMap String.utf8EncodeChar).all q = cs.all p := by
  induction cs with
  | nil => rfl
  | cons c cs ih =>
      obtain ⟨b, bs, hbytes, -⟩ := next_encodeChar c
      have hc : (String.utf8EncodeChar c).all q = p c := by
        have hall : ∀ b' ∈ b :: bs, q b' = p c := hbytes ▸ h c
        rw [hbytes]
        cases hp : p c with
        | true => exact List.all_eq_true.mpr fun b' hb' => (hall b' hb').trans hp
        | false => rw [List.all_cons, hall b List.mem_cons_self, hp, Bool.false_and]
      rw [List.flatMap_cons, List.all_append, hc, ih, List.all_cons]

/-- A run of bytes is a run of characters where the classes agree. -/
theorem Agree.dropWhile {p : Char → Bool} {q : UInt8 → Bool} (h : Agree p q) (cs : List Char) :
    (cs.flatMap String.utf8EncodeChar).dropWhile q =
      (cs.dropWhile p).flatMap String.utf8EncodeChar := by
  induction cs with
  | nil => rfl
  | cons c cs ih =>
      rw [List.flatMap_cons]
      cases hp : p c with
      | true =>
          rw [List.dropWhile_append_of_pos fun b hb => (h c b hb).trans hp, ih,
            List.dropWhile_cons_of_pos hp]
      | false =>
          obtain ⟨b, bs, hbytes, -⟩ := next_encodeChar c
          have hb : q b = false := (h c b (hbytes ▸ List.mem_cons_self)).trans hp
          rw [List.dropWhile_cons_of_neg (by simp [hp]), List.flatMap_cons, hbytes,
            List.cons_append, List.dropWhile_cons_of_neg (by simp [hb])]

end ObjectStore.Utf8
