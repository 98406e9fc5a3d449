import Mathlib.Data.List.GetD
import Mathlib.Data.List.Nodup
import ObjectStore.Proofs.Text.Decimal
import ObjectStore.Text.Scan

/-!
# Scanners on what was written

What a scanner takes off the front of a text does not depend on the rest. There
is one lemma for each scanner, with any rest behind what it reads; a form is read
by rewriting with them one after the other. The other way round there is one lemma
for each scanner on what it can have read, and these are put together along the
form.
-/

namespace ObjectStore.Scan

variable {α β : Type}

theorem bind_of_eq {p : Scan α} {cs rest : List Char} {a : α} (h : p cs = some (a, rest))
    (f : α → Scan β) : (p >>= f) cs = f a rest := by
  show (p cs).bind (fun r => f r.1 r.2) = f a rest
  rw [h]
  rfl

theorem charWhere_cons {p : Char → Bool} {c : Char} (h : p c = true) (rest : List Char) :
    charWhere p (c :: rest) = some (c, rest) :=
  if_pos h

theorem char_cons (c : Char) (rest : List Char) : char c (c :: rest) = some ((), rest) := by
  have hread : charWhere (· == c) (c :: rest) = some (c, rest) :=
    charWhere_cons (beq_self_eq_true c) rest
  rw [char, bind_of_eq hread]
  rfl

theorem literal_append (s : String) (rest : List Char) :
    literal s (s.toList ++ rest) = some ((), rest) := by
  rw [literal]
  induction s.toList with
  | nil => rfl
  | cons c cs ih =>
      show (char c >>= fun _ => cs.forM char) (c :: (cs ++ rest)) = _
      rw [bind_of_eq (char_cons c _)]
      exact ih

theorem oneOf_append (width : Nat) {names : List String}
    (hwidth : ∀ s ∈ names, s.length = width) (hnodup : names.Nodup) {i : Nat}
    (h : i < names.length) (rest : List Char) :
    oneOf names ((names.getD i "").toList ++ rest) = some (i, rest) := by
  have hname : names.getD i "" = names[i] := List.getD_eq_getElem names "" h
  have hfind : names.findIdx? (fun s => s.toList.isPrefixOf (names[i].toList ++ rest)) =
      some i := by
    rw [List.findIdx?_eq_some_iff_getElem]
    refine ⟨h, List.isPrefixOf_iff_prefix.mpr (List.prefix_append _ _), ?_⟩
    intro j hj hprefix
    have hlength : names[j].toList.length = names[i].toList.length := by
      rw [String.length_toList, String.length_toList, hwidth _ (List.getElem_mem _),
        hwidth _ (List.getElem_mem _)]
    have heq : names[j].toList = names[i].toList :=
      (List.prefix_of_prefix_length_le (List.isPrefixOf_iff_prefix.mp hprefix)
        (List.prefix_append _ _) (Nat.le_of_eq hlength)).eq_of_length hlength
    have hsame : j = i := hnodup.getElem_inj_iff.mp (String.toList_inj.mp heq)
    omega
  unfold oneOf
  rw [hname, hfind]
  dsimp only
  rw [hname, ← String.length_toList, List.drop_left]

theorem digits_append {cs : List Char} (h : ∀ c ∈ cs, Decimal.isDigit c = true)
    (rest : List Char) : digits cs.length (cs ++ rest) = some (Decimal.value cs, rest) := by
  induction cs with
  | nil => rfl
  | cons c cs ih =>
      obtain ⟨hc, hcs⟩ := List.forall_mem_cons.mp h
      have hdigit : digit (c :: (cs ++ rest)) = some (c.toNat - '0'.toNat, cs ++ rest) :=
        bind_of_eq (charWhere_cons hc _) _
      rw [List.length_cons, digits, List.cons_append, bind_of_eq hdigit, bind_of_eq (ih hcs),
        Decimal.value_cons]
      rfl

theorem digits_padded {width n : Nat} (hwidth : 0 < width) (h : n < 10 ^ width)
    (rest : List Char) :
    digits width ((Decimal.padded width n).toList ++ rest) = some (n, rest) := by
  have hdigits : ∀ c ∈ (Decimal.padded width n).toList, Decimal.isDigit c = true :=
    fun _ hc => Decimal.isDigit_of_mem_padded hc
  have hread := digits_append hdigits rest
  rwa [Decimal.length_padded hwidth h, Decimal.value_padded] at hread

theorem number_padded {width n low high : Nat} (hwidth : 0 < width) (h : n < 10 ^ width)
    (hlow : low ≤ n) (hhigh : n ≤ high) (rest : List Char) :
    number width low high ((Decimal.padded width n).toList ++ rest) = some (n, rest) := by
  rw [number, bind_of_eq (digits_padded hwidth h rest), if_pos ⟨hlow, hhigh⟩]
  rfl

theorem run?_of_eq {p : Scan α} {cs : List Char} {a : α} (h : p cs = some (a, [])) :
    p.run? cs = some a := by
  unfold run?
  rw [show StateT.run p cs = some (a, []) from h]

/-! ## What can have been read -/

/-- Whatever a scanner reads is such. -/
def Yields (p : Scan α) (P : α → Prop) : Prop :=
  ∀ cs a rest, p cs = some (a, rest) → P a

namespace Yields

variable {P : α → Prop}

theorem any (p : Scan α) : Yields p fun _ => True := fun _ _ _ _ => trivial

theorem pure {a : α} (h : P a) : Yields (Pure.pure a) P := by
  intro cs a' rest hread
  cases hread
  exact h

theorem failure : Yields Alternative.failure P := by
  intro cs a rest hread
  cases hread

theorem bind {p : Scan α} {f : α → Scan β} {Q : β → Prop} (hp : Yields p P)
    (hf : ∀ a, P a → Yields (f a) Q) : Yields (p >>= f) Q := by
  intro cs b rest hread
  obtain ⟨⟨a, between⟩, ha, hb⟩ := Option.bind_eq_some_iff.mp hread
  exact hf a (hp cs a between ha) between b rest hb

theorem charWhere (p : Char → Bool) : Yields (Scan.charWhere p) fun c => p c = true := by
  intro cs c rest hread
  cases cs with
  | nil => cases hread
  | cons c' cs =>
      change (if p c' then some (c', cs) else none) = _ at hread
      split at hread
      · next hc =>
          cases hread
          exact hc
      · cases hread

theorem digits (n : Nat) : Yields (Scan.digits n) fun v => v < 10 ^ n := by
  induction n with
  | zero => exact .pure (by decide)
  | succ n ih =>
      have hdigit : Yields Scan.digit fun d => d ≤ 9 :=
        (charWhere _).bind fun c hc => .pure (Decimal.digit_le hc)
      exact hdigit.bind fun d hd => ih.bind fun v hv => .pure (Decimal.digit_add_lt hd hv)

theorem number (n low high : Nat) :
    Yields (Scan.number n low high) fun v => low ≤ v ∧ v ≤ high := by
  refine (digits n).bind fun v _ => ?_
  split
  · next hbounds => exact .pure hbounds
  · exact .failure

theorem oneOf (names : List String) : Yields (Scan.oneOf names) fun i => i < names.length := by
  intro cs i rest hread
  unfold Scan.oneOf at hread
  split at hread
  · next hfind =>
      cases hread
      obtain ⟨h, -⟩ := List.findIdx?_eq_some_iff_getElem.mp hfind
      exact h
  · cases hread

theorem of_run? {p : Scan α} (h : Yields p P) {cs : List Char} {a : α}
    (hread : p.run? cs = some a) : P a := by
  unfold Scan.run? at hread
  split at hread
  · next hp =>
      cases hread
      exact h _ _ _ hp
  · cases hread

end Yields

end ObjectStore.Scan
