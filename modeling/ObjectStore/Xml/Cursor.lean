import ObjectStore.Xml.Scope

/-!
# Reading a document from front to back

A cursor stands in front of an event that is already in sight: the scope takes
it into account before anybody asks for it. What the reader of a document is
given are parts: a start, an end, or a whole run of text. An element can be
passed over; the names that are bound inside it then go by unseen, and its text
is not decoded but for the run it opens with.
-/

namespace ObjectStore.Xml

/-- A place in a document: the events ahead, and the scope at the first of
them. -/
structure Cursor where
  ahead : List Event
  scope : Scope

/-- What a reader is given. The text of a run is put together. -/
inductive Part where
  | start (tag : Tag)
  | finish
  | text (cs : List Char)

namespace Cursor

/-- The place in front of some events, when the event before them had this
scope. Nothing is ahead if the first of them binds a name that it may not. -/
def before (scope : Scope) (events : List Event) : Cursor :=
  match events with
  | [] => ⟨[], scope⟩
  | e :: rest =>
    match scope.at? e with
    | some scope => ⟨e :: rest, scope⟩
    | none => ⟨[], scope⟩

def ofDocument (document : Bytes) : Cursor := before .outermost (events document)

/-- The place after the event in sight. -/
def advance (c : Cursor) : Cursor := before c.scope c.ahead.tail

theorem length_before_le (scope : Scope) (events : List Event) :
    (before scope events).ahead.length ≤ events.length := by
  unfold before
  split
  · simp
  · split <;> simp

theorem length_advance_lt {c : Cursor} {e : Event} {rest : List Event}
    (h : c.ahead = e :: rest) : c.advance.ahead.length < c.ahead.length := by
  have := length_before_le c.scope c.ahead.tail
  rw [h] at this ⊢
  simp only [List.tail_cons, List.length_cons] at this ⊢
  unfold advance
  rw [h, List.tail_cons]
  omega

/-! ## Parts -/

/-- Reads the rest of a run of text. The pieces so far stand in reverse. -/
def textRun? (pieces : List (List Char)) (c : Cursor) : Option (List Char × Cursor) :=
  match _h : c.ahead with
  | [] => some (pieces.reverse.flatten, c)
  | e :: _ =>
    if e.isText then
      match e.text? with
      | none => none
      | some cs => textRun? (cs :: pieces) c.advance
    else some (pieces.reverse.flatten, c)
termination_by c.ahead.length
decreasing_by exact length_advance_lt _h

/-- The next part, and the place after it. A run of text ends at the document
type, which is no part itself. -/
def next? (c : Cursor) : Option (Part × Cursor) :=
  match _h : c.ahead with
  | [] => none
  | .start tag :: _ => some (.start tag, c.advance)
  | .finish _ :: _ => some (.finish, c.advance)
  | .documentType :: _ => c.advance.next?
  | _ => (textRun? [] c).map fun p => (.text p.1, p.2)
termination_by c.ahead.length
decreasing_by exact length_advance_lt _h

def elementText? (c : Cursor) : Option (List Char × Cursor) :=
  match c.next? with
  | some (.finish, rest) => some ([], rest)
  | some (.text cs, rest) =>
    match rest.next? with
    | some (.finish, rest) => some (cs, rest)
    | _ => none
  | _ => none

/-! ## Passing over elements -/

/-- The events after the end of an element of this name, from inside of it and
of as many more elements of the same name. -/
def afterEnd? (name : Bytes) : Nat → List Event → Option (List Event)
  | _, [] => none
  | depth, .start tag :: rest =>
    afterEnd? name (if tag.name = name then depth + 1 else depth) rest
  | depth, .finish other :: rest =>
    if other = name then
      match depth with
      | 0 => some rest
      | depth + 1 => afterEnd? name depth rest
    else afterEnd? name depth rest
  | depth, _ :: rest => afterEnd? name depth rest

/-- Goes on to the end of an element of this name. Only the event in sight has
been seen; all others up to the end go by unseen. -/
def passEnd? (name : Bytes) (c : Cursor) : Option Cursor :=
  match c.ahead with
  | [] => none
  | .start tag :: rest =>
    (afterEnd? name (if tag.name = name then 1 else 0) rest).map (before c.scope)
  | .finish other :: rest =>
    if other = name then some c.advance
    else (afterEnd? name 0 rest).map (before c.scope)
  | _ :: rest => (afterEnd? name 0 rest).map (before c.scope)

def pass? (name : Bytes) (c : Cursor) : Option Cursor := do
  match ← c.next? with
  | (.finish, rest) => return rest
  | (.start tag, rest) => (← rest.passEnd? tag.name).passEnd? name
  | (.text _, rest) => rest.passEnd? name

/-! ## Every step goes forward -/

theorem length_textRun?_le {pieces : List (List Char)} {c : Cursor}
    {p : List Char × Cursor} (h : textRun? pieces c = some p) :
    p.2.ahead.length ≤ c.ahead.length := by
  fun_induction textRun? pieces c with
  | case1 pieces c hc => obtain rfl := Option.some.inj h; exact Nat.le_refl _
  | case2 => simp at h
  | case3 pieces c e rest hc _ cs _ ih =>
      exact Nat.le_trans (ih h) (Nat.le_of_lt (length_advance_lt hc))
  | case4 pieces c e rest hc => obtain rfl := Option.some.inj h; exact Nat.le_refl _

/-- A run that starts with text takes a piece at least. -/
theorem length_textRun?_lt {c : Cursor} {e : Event} {rest : List Event}
    {p : List Char × Cursor} (hc : c.ahead = e :: rest) (he : e.isText = true)
    (h : textRun? [] c = some p) : p.2.ahead.length < c.ahead.length := by
  unfold textRun? at h
  split at h
  · next hnil => simp [hc] at hnil
  · next e' rest' hcons =>
      obtain rfl : e' = e := by rw [hc] at hcons; exact (List.cons.inj hcons).1.symm
      rw [if_pos he] at h
      split at h
      · simp at h
      · exact Nat.lt_of_le_of_lt (length_textRun?_le h) (length_advance_lt hc)

theorem length_next?_lt {c : Cursor} {p : Part × Cursor} (h : c.next? = some p) :
    p.2.ahead.length < c.ahead.length := by
  fun_induction next? c with
  | case1 => simp at h
  | case2 c tag rest hc => obtain rfl := Option.some.inj h; exact length_advance_lt hc
  | case3 c name rest hc => obtain rfl := Option.some.inj h; exact length_advance_lt hc
  | case4 c rest hc ih => exact Nat.lt_trans (ih h) (length_advance_lt hc)
  | case5 c hnil hstart hfinish htype =>
      obtain ⟨q, hq, rfl⟩ := Option.map_eq_some_iff.mp h
      cases hc : c.ahead with
      | nil => exact absurd hc hnil
      | cons e rest =>
          cases e with
          | start tag => exact absurd hc (hstart tag rest)
          | finish name => exact absurd hc (hfinish name rest)
          | documentType => exact absurd hc (htype rest)
          | text raw => rw [← hc]; exact length_textRun?_lt hc rfl hq
          | reference name => rw [← hc]; exact length_textRun?_lt hc rfl hq

theorem length_elementText?_le {c : Cursor} {p : List Char × Cursor}
    (h : c.elementText? = some p) : p.2.ahead.length ≤ c.ahead.length := by
  unfold elementText? at h
  split at h
  · next hc =>
      obtain rfl := Option.some.inj h
      exact Nat.le_of_lt (length_next?_lt hc)
  · next hc =>
      split at h
      · next hrest =>
          obtain rfl := Option.some.inj h
          exact Nat.le_of_lt (Nat.lt_trans (length_next?_lt hrest) (length_next?_lt hc))
      · simp at h
  · simp at h

theorem length_afterEnd?_le {name : Bytes} {depth : Nat} {es rest : List Event}
    (h : afterEnd? name depth es = some rest) : rest.length ≤ es.length := by
  induction es generalizing depth with
  | nil => simp [afterEnd?] at h
  | cons e es ih =>
      have step {d : Nat} (h : afterEnd? name d es = some rest) :
          rest.length ≤ (e :: es).length := Nat.le_succ_of_le (ih h)
      cases e with
      | start tag => exact step h
      | finish other =>
          unfold afterEnd? at h
          split at h
          · cases depth with
            | zero => obtain rfl := Option.some.inj h; exact Nat.le_succ _
            | succ depth => exact step h
          · exact step h
      | text raw => exact step h
      | reference other => exact step h
      | documentType => exact step h

theorem length_passEnd?_le {name : Bytes} {c rest : Cursor}
    (h : c.passEnd? name = some rest) : rest.ahead.length ≤ c.ahead.length := by
  have pass {depth : Nat} {e : Event} {es : List Event} (hc : c.ahead = e :: es)
      (h : (afterEnd? name depth es).map (before c.scope) = some rest) :
      rest.ahead.length ≤ c.ahead.length := by
    obtain ⟨r, hr, rfl⟩ := Option.map_eq_some_iff.mp h
    rw [hc]
    exact Nat.le_trans (length_before_le _ _) (Nat.le_succ_of_le (length_afterEnd?_le hr))
  unfold passEnd? at h
  split at h
  · simp at h
  · next hc => exact pass hc h
  · next hc =>
      split at h
      · obtain rfl := Option.some.inj h
        exact Nat.le_of_lt (length_advance_lt hc)
      · exact pass hc h
  · next hc => exact pass hc h

theorem length_pass?_le {name : Bytes} {c rest : Cursor} (h : c.pass? name = some rest) :
    rest.ahead.length ≤ c.ahead.length := by
  simp only [pass?, Option.bind_eq_bind, Option.bind_eq_some_iff] at h
  obtain ⟨p, hp, h⟩ := h
  have hlt := Nat.le_of_lt (length_next?_lt hp)
  split at h
  · obtain rfl := Option.some.inj h
    exact hlt
  · obtain ⟨q, hq, h⟩ := Option.bind_eq_some_iff.mp h
    exact Nat.le_trans (length_passEnd?_le h) (Nat.le_trans (length_passEnd?_le hq) hlt)
  · exact Nat.le_trans (length_passEnd?_le h) hlt

end Cursor
end ObjectStore.Xml
