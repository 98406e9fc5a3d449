/-!
# Traces

A system takes steps, and each step shows something. A trace is what the steps
of a run showed, in order. What comes before and after something in a run is
told by where it is in the trace.

A second notion is for systems that take their steps as they like: something
comes about within so many steps, whichever steps these are. This includes that
the system does not stop before.
-/

namespace ObjectStore

/-- A run with its trace: steps from one state to another, and what each of
them showed. -/
inductive Trace {α ε : Type} (step : α → ε → α → Prop) (a : α) : List ε → α → Prop where
  | refl : Trace step a [] a
  | tail {events : List ε} {e : ε} {b c : α} :
      Trace step a events b → step b e c → Trace step a (events ++ [e]) c

namespace Trace

variable {α ε : Type} {step : α → ε → α → Prop} {a b c : α} {events later : List ε} {e : ε}

theorem trans (h : Trace step a events b) (hlater : Trace step b later c) :
    Trace step a (events ++ later) c := by
  induction hlater with
  | refl => rwa [List.append_nil]
  | tail _ hstep ih =>
      rw [← List.append_assoc]
      exact .tail ih hstep

theorem head (hstep : step a e b) (h : Trace step b events c) :
    Trace step a (e :: events) c :=
  (Trace.refl.tail hstep).trans h

theorem of_tail (h : Trace step a (events ++ [e]) c) :
    ∃ b, Trace step a events b ∧ step b e c := by
  generalize hall : events ++ [e] = all at h
  cases h with
  | refl => simp at hall
  | tail h hstep =>
      obtain ⟨rfl, hlast⟩ := List.append_inj' hall rfl
      obtain rfl := List.head_eq_of_cons_eq hlast
      exact ⟨_, h, hstep⟩

theorem of_append (h : Trace step a (events ++ later) c) :
    ∃ b, Trace step a events b ∧ Trace step b later c := by
  induction hlength : later.length generalizing later c with
  | zero =>
      obtain rfl := List.eq_nil_of_length_eq_zero hlength
      rw [List.append_nil] at h
      exact ⟨c, h, .refl⟩
  | succ n ih =>
      obtain rfl | ⟨front, last, rfl⟩ := List.eq_nil_or_concat later
      · cases hlength
      · rw [List.concat_eq_append] at h hlength ⊢
        rw [← List.append_assoc] at h
        obtain ⟨d, hfront, hstep⟩ := h.of_tail
        rw [List.length_append] at hlength
        obtain ⟨b, hfirst, hsecond⟩ := ih hfront (Nat.succ.inj hlength)
        exact ⟨b, hfirst, hsecond.tail hstep⟩

theorem of_append_cons (h : Trace step a (events ++ e :: later) c) :
    ∃ b d, Trace step a events b ∧ step b e d ∧ Trace step d later c := by
  rw [List.append_cons] at h
  obtain ⟨d, hfirst, hlater⟩ := h.of_append
  obtain ⟨b, hbefore, hstep⟩ := hfirst.of_tail
  exact ⟨b, d, hbefore, hstep, hlater⟩

/-- What every step keeps, a run keeps, and it only shows what these steps
show. -/
theorem keeps {P : α → Prop} {R : ε → Prop} (hstep : ∀ {b e c}, P b → step b e c → P c ∧ R e)
    (h : Trace step a events c) (ha : P a) : P c ∧ ∀ e ∈ events, R e := by
  induction h with
  | refl => exact ⟨ha, fun e he => absurd he List.not_mem_nil⟩
  | @tail events last b c _ hlast ih =>
      obtain ⟨hb, hbefore⟩ := ih
      obtain ⟨hc, hshown⟩ := hstep hb hlast
      refine ⟨hc, fun e he => ?_⟩
      rcases List.mem_append.mp he with he | he
      · exact hbefore e he
      · rw [List.mem_singleton.mp he]
        exact hshown

/-- Where what a step shows decides where it leads, a trace decides where its run leads. -/
theorem unique (hstep : ∀ a e b d, step a e b → step a e d → b = d)
    (h : Trace step a events b) (h' : Trace step a events c) : b = c := by
  induction h generalizing c with
  | refl =>
      generalize hnil : ([] : List ε) = none at h'
      cases h' with
      | refl => rfl
      | tail => simp at hnil
  | tail _ hlast ih =>
      obtain ⟨d, hbefore, hlast'⟩ := h'.of_tail
      obtain rfl := ih hbefore
      exact hstep _ _ _ _ hlast hlast'

end Trace

/-- Something comes about within so many steps, whichever steps are taken. -/
def ComesWithin {α : Type} (step : α → α → Prop) (P : α → Prop) : Nat → α → Prop
  | 0, a => P a
  | n + 1, a => P a ∨ (∃ b, step a b) ∧ ∀ b, step a b → ComesWithin step P n b

/-- It is enough that every step lessens a quantity, and that there is a step until it has
come about. -/
theorem comesWithin_of_measure {α : Type} {step : α → α → Prop} {P : α → Prop}
    (invariant : α → Prop) (measure : α → Nat)
    (hstep : ∀ {a b}, invariant a → step a b → invariant b ∧ measure b < measure a)
    (hprogress : ∀ {a}, invariant a → ¬P a → ∃ b, step a b) {n : Nat} {a : α}
    (ha : invariant a) (hn : measure a ≤ n) : ComesWithin step P n a := by
  induction n generalizing a with
  | zero =>
      -- no step can be left, so it has come about
      refine Classical.byContradiction fun hnot => ?_
      obtain ⟨b, hb⟩ := hprogress ha hnot
      have hless := (hstep ha hb).2
      omega
  | succ n ih =>
      by_cases hP : P a
      · exact .inl hP
      · refine .inr ⟨hprogress ha hP, fun b hb => ?_⟩
        obtain ⟨hinvariant, hless⟩ := hstep ha hb
        exact ih hinvariant (by omega)

end ObjectStore
