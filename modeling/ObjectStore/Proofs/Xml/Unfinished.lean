import ObjectStore.Proofs.Xml.Delimiting
import ObjectStore.Xml.Record

/-!
# Documents that break off

The events of a document are nested: each end names the element that is open.
Where the root of a document does not end, its end is not among the events, and
every reader that goes on to the end of an element stops at the end of this one,
or finds none. So no record is read off a document that breaks off, whatever its
shape.
-/

namespace ObjectStore.Xml

/-! ## Events without the end of the root -/

/-- Events that come from inside of open elements of these names, the innermost
first and the root last, and among which the root does not end. Outside of all
elements the root is still to come. -/
def Unfinished : List Bytes → List Event → Prop
  | _, [] => True
  | opened, e :: es =>
    match e with
    | .start tag => Unfinished (tag.name :: opened) es
    | .finish name =>
      match opened with
      | expected :: next :: outer => name = expected ∧ Unfinished (next :: outer) es
      | _ => False
    | _ => Unfinished opened es

/-- A root that does not end has no end among the events. -/
theorem unfinished_readEvents {opened : List Bytes} {bs : Bytes} (seen : List Event)
    (h : afterRoot? opened bs = none) :
    ∃ es, readEvents seen opened bs = seen.reverse ++ es ∧ Unfinished opened es := by
  -- an event in front of those that follow
  have hcons {e : Event} {seen : List Event} {opened opened' : List Bytes} {rest : Bytes}
      (hread : ∃ es, readEvents (e :: seen) opened' rest = (e :: seen).reverse ++ es ∧
        Unfinished opened' es) (hstep : ∀ es, Unfinished opened' es → Unfinished opened (e :: es)) :
      ∃ es, readEvents (e :: seen) opened' rest = seen.reverse ++ es ∧ Unfinished opened es := by
    obtain ⟨es, heq, hes⟩ := hread
    refine ⟨e :: es, ?_, hstep es hes⟩
    rw [heq, List.reverse_cons, List.append_assoc, List.singleton_append]
  fun_induction readEvents seen opened bs with
  | case1 => exact ⟨[], (List.append_nil _).symm, trivial⟩
  | case2 seen opened bs rest inside hnext tag _ _ ih =>
      rw [afterRoot?_of_next hnext] at h
      exact hcons (ih h) fun es hes => hes
  | case3 seen opened bs rest inside hnext tag _ _ ih =>
      rw [afterRoot?_of_next hnext] at h
      cases opened with
      | nil => cases h
      | cons expected outer =>
          obtain ⟨es, heq, hes⟩ := ih (by simpa using h)
          refine ⟨.start tag :: .finish tag.name :: es, ?_, rfl, hes⟩
          rw [heq, List.reverse_cons, List.reverse_cons, List.append_assoc, List.append_assoc]
          rfl
  | case4 => exact ⟨[], (List.append_nil _).symm, trivial⟩
  | case5 seen bs rest expected opened hnext _ _ ih =>
      rw [afterRoot?_of_next hnext] at h
      cases opened with
      | nil => simp at h
      | cons next outer => exact hcons (ih (by simpa using h)) fun es hes => ⟨rfl, hes⟩
  | case6 => exact ⟨[], (List.append_nil _).symm, trivial⟩
  | case7 seen opened bs rest raw hnext _ _ ih =>
      rw [afterRoot?_of_next hnext] at h
      exact hcons (ih h) fun es hes => hes
  | case8 seen opened bs rest name hnext _ _ ih =>
      rw [afterRoot?_of_next hnext] at h
      exact hcons (ih h) fun es hes => hes
  | case9 seen opened bs rest hnext _ _ ih =>
      rw [afterRoot?_of_next hnext] at h
      exact hcons (ih h) fun es hes => hes
  | case10 seen opened bs rest hnext _ _ ih =>
      rw [afterRoot?_of_next hnext] at h
      exact ih h

/-! ## Readers -/

namespace Unfinished

variable {opened : List Bytes}

theorem finish {name expected : Bytes} {es : List Event}
    (h : Unfinished (expected :: opened) (.finish name :: es)) :
    name = expected ∧ opened ≠ [] ∧ Unfinished opened es := by
  cases opened with
  | nil => exact h.elim
  | cons next outer => exact ⟨h.1, List.cons_ne_nil next outer, h.2⟩

theorem before {es : List Event} (h : Unfinished opened es) (scope : Scope) :
    Unfinished opened (Cursor.before scope es).ahead := by
  unfold Cursor.before
  split
  · exact h
  · split
    · exact h
    · trivial

theorem advance {c : Cursor} {e : Event} {es : List Event} (hc : c.ahead = e :: es)
    (h : Unfinished opened es) : Unfinished opened c.advance.ahead := by
  rw [Cursor.advance, hc]
  exact h.before c.scope

theorem textRun? {c c' : Cursor} {pieces : List (List Char)} {cs : List Char}
    (h : Unfinished opened c.ahead) (hread : c.textRun? pieces = some (cs, c')) :
    Unfinished opened c'.ahead := by
  fun_induction Cursor.textRun? pieces c with
  | case1 pieces c hc =>
      obtain ⟨-, rfl⟩ := Prod.mk.inj (Option.some.inj hread)
      exact h
  | case2 => cases hread
  | case3 pieces c e es hc htext cs' hcs ih =>
      refine ih (advance hc ?_) hread
      rw [hc] at h
      cases e with
      | text raw => exact h
      | reference name => exact h
      | start tag => cases htext
      | finish name => cases htext
      | documentType => cases htext
  | case4 pieces c e es hc htext =>
      obtain ⟨-, rfl⟩ := Prod.mk.inj (Option.some.inj hread)
      exact h

/-- What is ahead after a part that was read inside of open elements. An end is
that of an element inside of the root. -/
def After (opened : List Bytes) (c : Cursor) : Part → Prop
  | .start tag => Unfinished (tag.name :: opened) c.ahead
  | .finish => ∃ name outer, opened = name :: outer ∧ outer ≠ [] ∧ Unfinished outer c.ahead
  | .text _ => Unfinished opened c.ahead

theorem next? {c c' : Cursor} {part : Part} (h : Unfinished opened c.ahead)
    (hread : c.next? = some (part, c')) : After opened c' part := by
  fun_induction Cursor.next? c with
  | case1 => cases hread
  | case2 c tag es hc =>
      obtain ⟨rfl, rfl⟩ := Prod.mk.inj (Option.some.inj hread)
      rw [hc] at h
      exact advance hc h
  | case3 c name es hc =>
      obtain ⟨rfl, rfl⟩ := Prod.mk.inj (Option.some.inj hread)
      rw [hc] at h
      cases opened with
      | nil => exact h.elim
      | cons expected outer =>
          obtain ⟨-, hne, hes⟩ := h.finish
          exact ⟨expected, outer, rfl, hne, advance hc hes⟩
  | case4 c es hc ih =>
      rw [hc] at h
      exact ih (advance hc h) hread
  | case5 c hnil hstart hfinish htype =>
      obtain ⟨⟨cs, rest⟩, hrun, heq⟩ := Option.map_eq_some_iff.mp hread
      obtain ⟨rfl, rfl⟩ := Prod.mk.inj heq
      exact h.textRun? hrun

theorem elementText? {c c' : Cursor} {name : Bytes} {cs : List Char}
    (h : Unfinished (name :: opened) c.ahead) (hread : c.elementText? = some (cs, c')) :
    opened ≠ [] ∧ Unfinished opened c'.ahead := by
  have hfinish {c c' : Cursor} (h : Unfinished (name :: opened) c.ahead)
      (hread : c.next? = some (.finish, c')) : opened ≠ [] ∧ Unfinished opened c'.ahead := by
    obtain ⟨_, outer, heq, hne, hc'⟩ := h.next? hread
    obtain ⟨-, rfl⟩ := List.cons.inj heq
    exact ⟨hne, hc'⟩
  unfold Cursor.elementText? at hread
  split at hread
  · next rest hfirst =>
      obtain ⟨-, rfl⟩ := Prod.mk.inj (Option.some.inj hread)
      exact hfinish h hfirst
  · next cs' rest hfirst =>
      split at hread
      · next rest' hsecond =>
          obtain ⟨-, rfl⟩ := Prod.mk.inj (Option.some.inj hread)
          exact hfinish (h.next? hfirst) hsecond
      · cases hread
  · cases hread

/-- To count the ends of one name is enough: among nested elements the end that
is found is that of the element looked for. -/
theorem afterEnd? {name : Bytes} {inner : List Bytes} {es rest : List Event}
    (h : Unfinished (inner ++ name :: opened) es)
    (hread : Cursor.afterEnd? name (inner.count name) es = some rest) :
    opened ≠ [] ∧ Unfinished opened rest := by
  induction es generalizing inner with
  | nil => cases hread
  | cons e es ih =>
      cases e with
      | start tag =>
          have hinside : Unfinished ((tag.name :: inner) ++ name :: opened) es := h
          refine ih hinside ?_
          rw [Cursor.afterEnd?] at hread
          by_cases htag : tag.name = name
          · rw [if_pos htag] at hread
            rw [htag, List.count_cons_self]
            exact hread
          · rw [if_neg htag] at hread
            rw [List.count_cons_of_ne htag]
            exact hread
      | finish other =>
          unfold Cursor.afterEnd? at hread
          cases inner with
          | nil =>
              obtain ⟨hother, hne, hes⟩ := h.finish
              rw [if_pos hother] at hread
              obtain rfl := Option.some.inj hread
              exact ⟨hne, hes⟩
          | cons last inner =>
              obtain ⟨rfl, -, hes⟩ := h.finish
              refine ih hes ?_
              by_cases hother : other = name
              · rw [if_pos hother, hother, List.count_cons_self] at hread
                exact hread
              · rw [if_neg hother, List.count_cons_of_ne hother] at hread
                exact hread
      | text raw => exact ih h hread
      | reference other => exact ih h hread
      | documentType => exact ih h hread

/-- The end of an element is its own, also when most of what it holds goes by
unseen. -/
theorem passEnd? {name : Bytes} {c c' : Cursor} (h : Unfinished (name :: opened) c.ahead)
    (hread : c.passEnd? name = some c') : opened ≠ [] ∧ Unfinished opened c'.ahead := by
  have hafter {inner : List Bytes} {es : List Event}
      (h : Unfinished (inner ++ name :: opened) es)
      (hread : (Cursor.afterEnd? name (inner.count name) es).map (Cursor.before c.scope) =
        some c') : opened ≠ [] ∧ Unfinished opened c'.ahead := by
    obtain ⟨rest, hrest, rfl⟩ := Option.map_eq_some_iff.mp hread
    obtain ⟨hne, hafter⟩ := h.afterEnd? hrest
    exact ⟨hne, hafter.before c.scope⟩
  have hnone : ([] : List Bytes).count name = 0 := List.count_nil
  unfold Cursor.passEnd? at hread
  split at hread
  · cases hread
  · next tag es hc =>
      rw [hc] at h
      have hinside : Unfinished ([tag.name] ++ name :: opened) es := h
      have hcount : [tag.name].count name = if tag.name = name then 1 else 0 := by
        by_cases htag : tag.name = name
        · rw [htag, List.count_cons_self, if_pos rfl, hnone]
        · rw [List.count_cons_of_ne htag, if_neg htag, hnone]
      exact hafter hinside (hcount ▸ hread)
  · next other es hc =>
      rw [hc] at h
      split at hread
      · next hother =>
          obtain rfl := Option.some.inj hread
          obtain ⟨-, hne, hes⟩ := h.finish
          exact ⟨hne, advance hc hes⟩
      · next hother => exact absurd h.finish.1 hother
  · next e es hstart hfinish hc =>
      rw [hc] at h
      have hsame : Unfinished ([] ++ name :: opened) es := by
        cases e with
        | start tag => exact absurd rfl (hstart tag)
        | finish other => exact absurd rfl (hfinish other)
        | text raw => exact h
        | reference other => exact h
        | documentType => exact h
      exact hafter hsame (hnone ▸ hread)

theorem pass? {name : Bytes} {c c' : Cursor} (h : Unfinished (name :: opened) c.ahead)
    (hread : c.pass? name = some c') : opened ≠ [] ∧ Unfinished opened c'.ahead := by
  simp only [Cursor.pass?, Option.bind_eq_bind, Option.bind_eq_some_iff] at hread
  obtain ⟨⟨part, rest⟩, hfirst, hread⟩ := hread
  have hafter := h.next? hfirst
  cases part with
  | finish =>
      obtain rfl := Option.some.inj hread
      obtain ⟨_, outer, heq, hne, hrest⟩ := hafter
      obtain ⟨-, rfl⟩ := List.cons.inj heq
      exact ⟨hne, hrest⟩
  | start tag =>
      obtain ⟨inside, hinside, hread⟩ := Option.bind_eq_some_iff.mp hread
      obtain ⟨-, hinside⟩ := hafter.passEnd? hinside
      exact hinside.passEnd? hread
  | text cs => exact hafter.passEnd? hread

end Unfinished

/-! ## Records -/

/-- No record is read to its end, whatever was read before, if there are as many
open elements as records around it. -/
theorem readFields?_of_unfinished {opened : List Bytes} {current : OpenRecord}
    {outer : List (OpenRecord × Field)} {c : Cursor} (h : Unfinished opened c.ahead)
    (hopened : opened.length = outer.length + 1) : readFields? current outer c = none := by
  fun_induction readFields? current outer c generalizing opened with
  | case1 => rfl
  | case2 current c rest hnext =>
      -- the end would be that of the root
      obtain ⟨name, inner, rfl, hne, -⟩ := h.next? hnext
      exact absurd (List.length_eq_zero_iff.mp (Nat.succ.inj hopened)) hne
  | case3 current c rest hnext record field outer ih =>
      obtain ⟨name, inner, rfl, -, hrest⟩ := h.next? hnext
      simpa using ih hrest (Nat.succ.inj hopened)
  | case4 current outer c cs rest hnext ih => exact ih (h.next? hnext) hopened
  | case5 => rfl
  | case6 current outer c tag rest hnext _ rest' hpass _ ih =>
      have hstart : Unfinished (tag.name :: opened) rest.ahead := h.next? hnext
      exact ih (hstart.pass? hpass).2 hopened
  | case7 => rfl
  | case8 => rfl
  | case9 => rfl
  | case10 current outer c tag rest hnext field shape _ _ _ rest' hpass ih =>
      have hstart : Unfinished (tag.name :: opened) rest.ahead := h.next? hnext
      exact ih (hstart.pass? hpass).2 hopened
  | case11 => rfl
  | case12 current outer c tag rest hnext field _ _ cs rest' htext _ ih =>
      have hstart : Unfinished (tag.name :: opened) rest.ahead := h.next? hnext
      exact ih (hstart.elementText? htext).2 hopened
  | case13 current outer c tag rest hnext field _ _ shape _ _ ih =>
      have hstart : Unfinished (tag.name :: opened) rest.ahead := h.next? hnext
      exact ih hstart (congrArg Nat.succ hopened)
  | case14 => rfl

theorem root?_of_unfinished {c c' : Cursor} {tag : Tag} (h : Unfinished [] c.ahead)
    (hread : c.root? = some (tag, c')) : Unfinished [tag.name] c'.ahead := by
  fun_induction Cursor.root? c with
  | case1 c tag' rest hnext =>
      obtain ⟨rfl, rfl⟩ := Prod.mk.inj (Option.some.inj hread)
      exact h.next? hnext
  | case2 c cs rest hnext hblank ih => exact ih (h.next? hnext) hread
  | case3 => cases hread
  | case4 => cases hread

/-- **No record is read off a document whose root does not end.** -/
theorem record?_of_truncated {shape : List (Field × Shape)} {document : Bytes}
    (hmark : strip? byteOrderMark document = none) (h : afterRoot? [] document = none) :
    record? shape document = none := by
  have hevents : Unfinished [] (events document) := by
    obtain ⟨es, heq, hes⟩ := unfinished_readEvents [] h
    rw [events, hmark, Option.getD_none, heq]
    exact hes
  unfold record?
  cases hroot : (Cursor.ofDocument document).root? with
  | none => rfl
  | some p =>
      obtain ⟨tag, rest⟩ := p
      have hrest := root?_of_unfinished (hevents.before .outermost) hroot
      have hnone : readFields? (.fresh tag shape) [] rest = none :=
        readFields?_of_unfinished hrest rfl
      show (if tag.attributesValid then readFields? (.fresh tag shape) [] rest else none) = none
      rw [hnone]
      exact ite_self none

end ObjectStore.Xml
