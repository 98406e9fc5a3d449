import ObjectStore.Proofs.Xml.Walking
import ObjectStore.Xml.Record

/-!
# Records read from documents that were written

A record is read from content child by child. A child whose name is no field of
the record is passed over. A field has to be one that may stand there, and the
record takes what it holds: its text, or the record that is read from it. This
meaning needs no events, and a document that was written is read by it.
-/

namespace ObjectStore.Xml

/-! ## What content means -/

def Content.onlyText? : Content → Option (List Char)
  | .text s => some (unifyLineEnds s.toList)
  | _ => none

namespace OpenRecord

/-- A record after some text between its fields. -/
def afterText (r : OpenRecord) (s : String) : OpenRecord :=
  if (unifyLineEnds s.toList).all isXmlBlank then r else r.endItems

/-- A record after a child, in front of which stands some text. What it takes
is what the child is worth to a field of a shape. -/
def take? (r : OpenRecord) (front : String) (name : Name) (worth? : Shape → Option Value) :
    Option OpenRecord :=
  let r := r.afterText front
  match r.field? name.tag with
  | none => some r.endItems
  | some (field, shape) =>
    if r.admits field name.tag then (worth? shape).map (r.put field name.tag) else none

end OpenRecord

def Content.readInto? : Content → OpenRecord → Option OpenRecord
  | .text s, r => some (r.afterText s)
  | .element front name inside after, r =>
    let worth? : Shape → Option Value
      | .text => inside.onlyText?.map .text
      | .record shape =>
        (inside.readInto? (.fresh name.tag shape)).map fun i => .record i.read.reverse
    (r.take? front name worth?).bind after.readInto?
  | .void front name after, r =>
    let worth? : Shape → Option Value
      | .text => some (.text [])
      | .record _ => some (.record [])
    (r.take? front name worth?).bind after.readInto?

/-- What an element is worth to a field of a shape. -/
def Content.worth? (inside : Content) (name : Name) : Shape → Option Value
  | .text => inside.onlyText?.map .text
  | .record shape =>
    (inside.readInto? (.fresh name.tag shape)).map fun i => .record i.read.reverse

theorem Content.readInto?_element (front : String) (name : Name) (inside after : Content)
    (r : OpenRecord) :
    (Content.element front name inside after).readInto? r =
      (r.take? front name (inside.worth? name)).bind after.readInto? := by
  rw [Content.readInto?]
  congr 2

theorem Content.readInto?_void (front : String) (name : Name) (after : Content)
    (r : OpenRecord) :
    (Content.void front name after).readInto? r =
      (Content.element front name (.text "") after).readInto? r := by
  rw [Content.readInto?_element, Content.readInto?]
  congr 2

/-! ## Names -/

theorem Name.decode?_localName (n : Name) : (Utf8.decode? n.tag.localName).isSome = true := by
  have hagree : Utf8.Agree (fun c => c != ':') (· != colon) :=
    (Utf8.agree_beq (a := ':') (by decide)).not
  have hdrop : n.bytes.dropWhile (· != colon) =
      (n.text.toList.dropWhile (· != ':')).flatMap String.utf8EncodeChar :=
    hagree.dropWhile n.text.toList
  show (Utf8.decode? (localName n.bytes)).isSome = true
  unfold localName
  rw [hdrop]
  cases hchars : n.text.toList.dropWhile (· != ':') with
  | nil =>
      show (Utf8.decode? (Utf8.encode n.text)).isSome = true
      rw [Utf8.decode?_encode]
      rfl
  | cons c cs =>
      have hc : c = ':' := by
        have hhead := List.head?_dropWhile_not (· != ':') n.text.toList
        rw [hchars] at hhead
        exact bne_eq_false_iff_eq.mp hhead
      subst hc
      show (Utf8.decode? (cs.flatMap String.utf8EncodeChar)).isSome = true
      rw [← Utf8.encode_ofList, Utf8.decode?_encode]
      rfl

/-! ## One part after the other -/

section Parts

variable {r : OpenRecord} {outer : List (OpenRecord × Field)} {c rest : Cursor}

/-- The next part decides how reading goes on. -/
theorem readFields?_of_next {part : Part} : c.next? = some (part, rest) →
    readFields? r outer c =
      match part with
      | .finish =>
        match outer with
        | [] => some r.read.reverse
        | (record, field) :: outer =>
          readFields? (record.put field r.tag (.record r.read.reverse)) outer rest
      | .text cs => readFields? (if cs.all isXmlBlank then r else r.endItems) outer rest
      | .start tag =>
        match r.field? tag with
        | none => (rest.pass? tag.name).bind fun rest =>
          if (Utf8.decode? tag.localName).isSome then readFields? r.endItems outer rest else none
        | some (field, shape) =>
          if !r.admits field tag then none
          else if r.isAbsent field tag rest.scope then
            (rest.pass? tag.name).bind (readFields? (r.put field tag .absent) outer)
          else
            match shape with
            | .text => rest.elementText?.bind fun p =>
              readFields? (r.put field tag (.text p.1)) outer p.2
            | .record shape =>
              if tag.attributesValid then
                readFields? (.fresh tag shape) ((r, field) :: outer) rest
              else none := by
  intro h
  rw [readFields?]
  split
  · next hnone => rw [h] at hnone; cases hnone
  · next hfinish => rw [h] at hfinish; cases hfinish; rfl
  · next htext => rw [h] at htext; cases htext; rfl
  · next hstart =>
      rw [h] at hstart
      cases hstart
      dsimp only
      cases r.field? _ with
      | none =>
          dsimp only
          split
          · next hpass => rw [hpass]; rfl
          · next hpass => rw [hpass]; rfl
      | some p =>
          obtain ⟨field, shape⟩ := p
          dsimp only
          split
          · rfl
          · split
            · split
              · next hpass => rw [hpass]; rfl
              · next hpass => rw [hpass]; rfl
            · cases shape with
              | text =>
                  dsimp only
                  split
                  · next htext => rw [htext]; rfl
                  · next htext => rw [htext]; rfl
              | record shape => rfl

end Parts

/-! ## Reading -/

/-- Reading goes by the meaning of content. If the record can be read into, reading the
events of the content leads to the record that comes of it. -/
def Content.Reads (k : Content) : Prop :=
  ∀ (outer : List (OpenRecord × Field)) {r r' : OpenRecord} {c : Cursor} {es : List Event},
    r.tag.Plain → k.readInto? r = some r' → NoText es → c.At (k.events ++ es) →
      ∃ c', c'.At es ∧ readFields? r outer c = readFields? r' outer c'

namespace OpenRecord

@[simp] theorem tag_afterText (r : OpenRecord) (s : String) : (r.afterText s).tag = r.tag := by
  unfold afterText
  split <;> rfl

/-- What a record takes of a child: nothing, or one field that may stand there. -/
theorem take?_cases {r r' : OpenRecord} {front : String} {name : Name}
    {worth? : Shape → Option Value} (h : r.take? front name worth? = some r') :
    ((r.afterText front).field? name.tag = none ∧ r' = (r.afterText front).endItems) ∨
      ∃ field shape v, (r.afterText front).field? name.tag = some (field, shape) ∧
        (r.afterText front).admits field name.tag = true ∧ worth? shape = some v ∧
        r' = (r.afterText front).put field name.tag v := by
  unfold take? at h
  dsimp only at h
  split at h
  · next hfield => exact .inl ⟨hfield, (Option.some.inj h).symm⟩
  · next field shape hfield =>
      split at h
      · next hadmits =>
          obtain ⟨v, hv, rfl⟩ := Option.map_eq_some_iff.mp h
          exact .inr ⟨field, shape, v, hfield, hadmits, hv, rfl⟩
      · cases h

theorem tag_of_take? {r r' : OpenRecord} {front : String} {name : Name}
    {worth? : Shape → Option Value} (h : r.take? front name worth? = some r') :
    r'.tag = r.tag := by
  rcases take?_cases h with ⟨-, rfl⟩ | ⟨field, shape, v, -, -, -, rfl⟩
  · exact tag_afterText r front
  · exact tag_afterText r front

end OpenRecord

theorem Content.tag_of_readInto? {k : Content} {r r' : OpenRecord}
    (h : k.readInto? r = some r') : r'.tag = r.tag := by
  induction k generalizing r with
  | text s =>
      obtain rfl := Option.some.inj h
      exact OpenRecord.tag_afterText r s
  | element front n inside after _ ihAfter =>
      rw [readInto?_element] at h
      obtain ⟨r₁, htake, hafter⟩ := Option.bind_eq_some_iff.mp h
      rw [ihAfter hafter, OpenRecord.tag_of_take? htake]
  | void front n after ihAfter =>
      rw [readInto?_void, readInto?_element] at h
      obtain ⟨r₁, htake, hafter⟩ := Option.bind_eq_some_iff.mp h
      rw [ihAfter hafter, OpenRecord.tag_of_take? htake]

section Reading

variable {c : Cursor} {es : List Event}

theorem Content.reads_text (s : String) : (Content.text s).Reads := by
  intro outer r r' c es _ hread hes h
  obtain rfl := Option.some.inj hread
  by_cases hs : textEvents s.toList = []
  · rw [Content.events, hs, List.nil_append] at h
    refine ⟨c, h, ?_⟩
    rw [OpenRecord.afterText, textEvents_eq_nil.mp hs]
    rfl
  · obtain ⟨c', hc', hnext⟩ := h.next?_text (isRun_textEvents s.toList) hs hes
    exact ⟨c', hc', readFields?_of_next hnext⟩

theorem readFields?_element {r r' : OpenRecord} (outer : List (OpenRecord × Field))
    {front : String} {n : Name} {inside : Content} (hinside : inside.Reads) (htag : r.tag.Plain)
    (htake : r.take? front n (inside.worth? n) = some r')
    (h : c.At (.start n.tag :: (inside.events ++ .finish n.bytes :: es))) :
    ∃ c', c'.At es ∧ readFields? (r.afterText front) outer c = readFields? r' outer c' := by
  -- neither tag declares its element to be nil
  have habsent (field : Field) :
      (r.afterText front).isAbsent field n.tag c.advance.scope = false := by
    rw [OpenRecord.isAbsent, OpenRecord.tag_afterText, htag.present, n.plain_tag.present,
      Bool.or_false, Bool.and_false]
  rw [readFields?_of_next h.next?_start]
  dsimp only
  rcases OpenRecord.take?_cases htake with ⟨hfield, rfl⟩ |
    ⟨field, shape, v, hfield, hadmits, hworth, rfl⟩
  · obtain ⟨c', hc', hpass⟩ := h.advance.pass?
    refine ⟨c', hc', ?_⟩
    rw [hfield]
    dsimp only
    rw [show c.advance.pass? n.tag.name = some c' from hpass, Option.bind_some,
      if_pos n.decode?_localName]
  · rw [hfield]
    dsimp only
    rw [if_neg (by rw [hadmits]; decide), if_neg (by rw [habsent]; decide)]
    cases shape with
    | text =>
        cases inside with
        | text s =>
            obtain rfl := Option.some.inj hworth
            obtain ⟨c', hc', htext⟩ := h.advance.elementText?
            refine ⟨c', hc', ?_⟩
            dsimp only
            rw [htext]
            rfl
        | element front n inside after => cases hworth
        | void front n after => cases hworth
    | record shape =>
        -- the record outside waits until the one inside is closed
        obtain ⟨inner, hinner, rfl⟩ := Option.map_eq_some_iff.mp hworth
        dsimp only
        rw [if_pos n.plain_tag.valid]
        obtain ⟨c', hc', hread⟩ := hinside ((r.afterText front, field) :: outer) n.plain_tag
          hinner (noText_tag _ _ rfl) h.advance
        refine ⟨c'.advance, hc'.advance, ?_⟩
        rw [hread, readFields?_of_next hc'.next?_finish]
        dsimp only
        rw [Content.tag_of_readInto? hinner]
        rfl

theorem Content.reads_element {front : String} {n : Name} {inside after : Content}
    (hinside : inside.Reads) (hafter : after.Reads) :
    (Content.element front n inside after).Reads := by
  intro outer r r' c es htag hread hes h
  rw [readInto?_element] at hread
  obtain ⟨r₁, htake, hrest⟩ := Option.bind_eq_some_iff.mp hread
  rw [Content.events, List.append_assoc, List.cons_append, List.append_assoc,
    List.cons_append] at h
  obtain ⟨c₀, hc₀, hfront⟩ := reads_text front outer htag rfl (noText_tag _ _ rfl) h
  obtain ⟨c₁, hc₁, helement⟩ := readFields?_element outer hinside htag htake hc₀
  have htag₁ : r₁.tag.Plain := (OpenRecord.tag_of_take? htake).symm ▸ htag
  obtain ⟨c₂, hc₂, hlast⟩ := hafter outer htag₁ hrest hes hc₁
  exact ⟨c₂, hc₂, by rw [hfront, helement, hlast]⟩

/-- All content is read by its meaning. -/
theorem Content.reads (k : Content) : k.Reads := by
  induction k with
  | text s => exact reads_text s
  | element front n inside after ihInside ihAfter => exact reads_element ihInside ihAfter
  | void front n after ihAfter =>
      intro outer r r' c es htag hread hes h
      rw [readInto?_void] at hread
      rw [events_void] at h
      exact reads_element (reads_text "") ihAfter outer htag hread hes h

end Reading

/-! ## Whole documents -/

theorem all_unifyLineEnds {cs : List Char} (h : cs.all isXmlBlank = true) :
    (unifyLineEnds cs).all isXmlBlank = true := by
  fun_induction unifyLineEnds cs with
  | case1 => rfl
  | case2 rest ih => exact ih h
  | case3 rest ih => cases h
  | case4 c rest _ _ ih =>
      rw [List.all_cons, Bool.and_eq_true] at h ⊢
      refine ⟨?_, ih h.2⟩
      split
      · rfl
      · exact h.1

theorem Cursor.At.root? {c : Cursor} {run es : List Event} {cs : List Char} {tag : Tag}
    (hrun : IsRun run cs) (hblank : cs.all isXmlBlank = true)
    (h : c.At (run ++ .start tag :: es)) : ∃ c', c'.At es ∧ c.root? = some (tag, c') := by
  have hroot {c : Cursor} (h : c.At (.start tag :: es)) : c.root? = some (tag, c.advance) := by
    rw [Cursor.root?]
    split
    · next hstart => rw [h.next?_start] at hstart; cases hstart; rfl
    · next htext => rw [h.next?_start] at htext; cases htext
    · next hstart _ => exact absurd h.next?_start (hstart _ _)
  by_cases hnil : run = []
  · rw [hnil, List.nil_append] at h
    exact ⟨c.advance, h.advance, hroot h⟩
  · obtain ⟨c', hc', hnext⟩ := h.next?_text hrun hnil (noText_tag _ _ rfl)
    refine ⟨c'.advance, hc'.advance, ?_⟩
    rw [Cursor.root?]
    split
    · next hstart => rw [hnext] at hstart; cases hstart
    · next htext =>
        rw [hnext] at htext
        cases htext
        rw [if_pos hblank, hroot hc']
    · next _ htext => exact absurd hnext (htext _ _)

theorem plain_textEvents {cs : List Char} {tag : Tag} (h : .start tag ∈ textEvents cs) : False := by
  have hall {es : List Event} {cs : List Char} (hrun : IsRun es cs) :
      ∀ e ∈ es, e.isText = true := by
    induction hrun with
    | nil => exact fun e he => by cases he
    | cons htext _ _ ih => exact List.forall_mem_cons.mpr ⟨htext, ih⟩
  cases hall (isRun_textEvents cs) _ h

theorem Content.plain_of_mem {k : Content} {tag : Tag} (h : .start tag ∈ k.events) :
    tag.Plain := by
  induction k with
  | text s => exact (plain_textEvents h).elim
  | element front n inside after ihInside ihAfter =>
      simp only [events, List.mem_append, List.mem_cons, Event.start.injEq, reduceCtorEq,
        false_or] at h
      rcases h with h | rfl | h | h
      · exact (plain_textEvents h).elim
      · exact n.plain_tag
      · exact ihInside h
      · exact ihAfter h
  | void front n after ihAfter =>
      simp only [events, List.mem_append, List.mem_cons, Event.start.injEq, reduceCtorEq,
        false_or] at h
      rcases h with h | rfl | h
      · exact (plain_textEvents h).elim
      · exact n.plain_tag
      · exact ihAfter h

/-- **A record is read from a document by the meaning of what its root holds**,
with blanks around it. -/
theorem record?_written (d : Document) {front back : String}
    (hfront : front.toList.all isXmlBlank = true) (hback : back.toList.all isXmlBlank = true)
    {shape : List (Field × Shape)} {r : OpenRecord}
    (h : d.content.readInto? (.fresh d.rootTag shape) = some r) :
    record? shape (Utf8.encode (front ++ d.written ++ back)) = some r.read.reverse := by
  have hgap : d.gap.toList.all isXmlBlank = true := by
    unfold Document.gap
    cases d.prolog with
    | none => rfl
    | some p => exact p.blank
  have hevents : events (Utf8.encode (front ++ d.written ++ back)) =
      (textEvents front.toList ++ textEvents d.gap.toList) ++ .start d.rootTag ::
        (d.content.events ++ (.finish d.root.bytes :: textEvents back.toList)) := by
    rw [d.events_written hfront hback]
    simp only [Document.rootEvents, List.append_assoc, List.cons_append, List.nil_append]
  have hplain : ∀ tag, .start tag ∈ events (Utf8.encode (front ++ d.written ++ back)) →
      tag.Plain := by
    intro tag htag
    rw [hevents] at htag
    simp only [List.mem_append, List.mem_cons, Event.start.injEq, reduceCtorEq, false_or] at htag
    rcases htag with (htag | htag) | rfl | htag | htag
    · exact (plain_textEvents htag).elim
    · exact (plain_textEvents htag).elim
    · exact d.plain_rootTag
    · exact Content.plain_of_mem htag
    · exact (plain_textEvents htag).elim
  have hat := Cursor.at_before .outermost hplain
  rw [show Cursor.before .outermost _ = Cursor.ofDocument _ from rfl, hevents] at hat
  have hrun := (isRun_textEvents front.toList).append (isRun_textEvents d.gap.toList)
  obtain ⟨c, hc, hroot⟩ := hat.root? hrun (by
    rw [List.all_append, all_unifyLineEnds hfront, all_unifyLineEnds hgap]
    rfl)
  obtain ⟨c', hc', hread⟩ := d.content.reads [] d.plain_rootTag h
    (noText_tag _ _ rfl) hc
  unfold record?
  rw [hroot, Option.bind_eq_bind, Option.bind_some]
  dsimp only
  rw [if_pos d.plain_rootTag.valid, hread, readFields?_of_next hc'.next?_finish]

end ObjectStore.Xml
