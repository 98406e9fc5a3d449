import Mathlib.Data.List.Chain
import ObjectStore.Data.SortedMap
import ObjectStore.Proofs.Xml.Reading

/-!
# The children of an element and the fields of a record

A record can be read from content if every field stands where it may and holds
what its shape asks for. A field stands where it may if no other child has its
name, or if it is an item that follows another item with blanks between them.
Then the record has the fields among the children, in their order, each with
what it is worth.
-/

namespace ObjectStore.Xml

/-! ## Children -/

/-- A child of an element: the text in front of it, its name, and what it
holds. -/
structure Child where
  front : String
  name : Name
  inside : Content

def Content.children : Content → List Child
  | .text _ => []
  | .element front name inside after => ⟨front, name, inside⟩ :: after.children
  | .void front name after => ⟨front, name, .text ""⟩ :: after.children

def Content.back : Content → String
  | .text s => s
  | .element _ _ _ after => after.back
  | .void _ _ after => after.back

namespace Child

def isNamed (c : Child) (name : String) : Bool := Utf8.encode name = c.name.tag.localName

def worth? (c : Child) : Shape → Option Value := c.inside.worth? c.name

def field? (shape : List (Field × Shape)) (c : Child) : Option (Field × Shape) :=
  shape.find? fun p => c.isNamed p.1.name

/-- A child follows others if it has the name of the last of them and nothing but
blanks is between the two. -/
def Follows (c : Child) (done : List Child) : Prop :=
  (∃ d, done.getLast? = some d ∧ d.name = c.name) ∧ c.front.toList.all isXmlBlank = true

theorem name_unique {c : Child} {name name' : String} (h : c.isNamed name = true)
    (h' : c.isNamed name' = true) : name = name' :=
  Utf8.encode_injective ((of_decide_eq_true h).trans (of_decide_eq_true h').symm)

theorem isNamed_of_field? {shape : List (Field × Shape)} {c : Child} {p : Field × Shape}
    (h : c.field? shape = some p) : c.isNamed p.1.name = true := by
  unfold field? at h
  simpa only using List.find?_some h

theorem mem_of_field? {shape : List (Field × Shape)} {c : Child} {p : Field × Shape}
    (h : c.field? shape = some p) : p ∈ shape :=
  List.mem_of_find?_eq_some h

end Child

def OpenRecord.takeChild? (r : OpenRecord) (c : Child) : Option OpenRecord :=
  r.take? c.front c.name c.worth?

theorem Content.readInto?_eq (k : Content) (r : OpenRecord) :
    k.readInto? r = (k.children.foldlM OpenRecord.takeChild? r).map (·.afterText k.back) := by
  induction k generalizing r with
  | text s => rfl
  | element front name inside after _ ihAfter =>
      rw [readInto?_element, children, List.foldlM_cons]
      show (r.takeChild? ⟨front, name, inside⟩).bind _ = Option.map _ (Option.bind _ _)
      cases r.takeChild? ⟨front, name, inside⟩ with
      | none => rfl
      | some r₁ => exact ihAfter r₁
  | void front name after ihAfter =>
      rw [readInto?_void, readInto?_element, children, List.foldlM_cons]
      show (r.takeChild? ⟨front, name, .text ""⟩).bind _ = Option.map _ (Option.bind _ _)
      cases r.takeChild? ⟨front, name, .text ""⟩ with
      | none => rfl
      | some r₁ => exact ihAfter r₁

/-! ## Records -/

def fieldsOf (shape : List (Field × Shape)) (children : List Child) : Fields :=
  children.filterMap fun c =>
    (c.field? shape).bind fun p => (c.worth? p.2).map fun v => (p.1.name, v)

/-- The children of a record are in order: each field is the only one with
its name so far, or an item that follows another one, and is worth something to
its shape. -/
structure WellPlaced (shape : List (Field × Shape)) (children : List Child) : Prop where
  placed : ∀ done c rest, children = done ++ c :: rest → ∀ p, c.field? shape = some p →
    (∀ d ∈ done, d.isNamed p.1.name = false) ∨ (p.1.repeated = true ∧ c.Follows done)
  worth : ∀ c ∈ children, ∀ p, c.field? shape = some p → (c.worth? p.2).isSome = true

/-- The name of the items that are being read behind some children. -/
def itemsAfter (shape : List (Field × Shape)) (done : List Child) : Option Bytes :=
  done.getLast?.bind fun c => (c.field? shape).bind fun p =>
    if p.1.repeated then some c.name.bytes else none

structure OpenRecord.HasTaken (shape : List (Field × Shape)) (r : OpenRecord)
    (done : List Child) : Prop where
  fields : r.shape = shape
  read : r.read = (fieldsOf shape done).reverse
  items : r.items = itemsAfter shape done

variable {shape : List (Field × Shape)}

theorem fieldsOf_snoc (done : List Child) (c : Child) :
    fieldsOf shape (done ++ [c]) = fieldsOf shape done ++
      ((c.field? shape).bind fun p => (c.worth? p.2).map fun v => (p.1.name, v)).toList := by
  rw [fieldsOf, List.filterMap_append]
  rfl

theorem itemsAfter_snoc (done : List Child) (c : Child) :
    itemsAfter shape (done ++ [c]) = (c.field? shape).bind fun p =>
      if p.1.repeated then some c.name.bytes else none := by
  rw [itemsAfter, List.getLast?_concat]
  rfl

theorem any_fieldsOf {done : List Child} {name : String}
    (h : ∀ d ∈ done, d.isNamed name = false) :
    (fieldsOf shape done).any (·.1 == name) = false := by
  rw [List.any_eq_false]
  intro e he heq
  obtain ⟨d, hd, hfield⟩ := List.mem_filterMap.mp he
  obtain ⟨p, hp, hv⟩ := Option.bind_eq_some_iff.mp hfield
  obtain ⟨v, -, rfl⟩ := Option.map_eq_some_iff.mp hv
  have hname : p.1.name = name := eq_of_beq heq
  have hnamed := Child.isNamed_of_field? hp
  rw [hname, h d hd] at hnamed
  cases hnamed

/-- A record takes a child that is well placed. -/
theorem OpenRecord.HasTaken.takeChild? {r : OpenRecord} {done rest : List Child} {c : Child}
    (h : r.HasTaken shape done) (hplaced : WellPlaced shape (done ++ c :: rest)) :
    ∃ r', r.takeChild? c = some r' ∧ r'.HasTaken shape (done ++ [c]) := by
  have hafter : (r.afterText c.front).shape = shape ∧
      (r.afterText c.front).read = (fieldsOf shape done).reverse := by
    unfold OpenRecord.afterText
    split
    · exact ⟨h.fields, h.read⟩
    · exact ⟨h.fields, h.read⟩
  have hfield : (r.afterText c.front).field? c.name.tag = c.field? shape := by
    rw [OpenRecord.field?, hafter.1]
    rfl
  unfold OpenRecord.takeChild? OpenRecord.take?
  dsimp only
  rw [hfield]
  cases hp : c.field? shape with
  | none =>
      refine ⟨_, rfl, hafter.1, ?_, ?_⟩
      · rw [fieldsOf_snoc, hp]
        exact hafter.2.trans (congrArg List.reverse (List.append_nil _).symm)
      · rw [itemsAfter_snoc, hp]
        rfl
  | some p =>
      obtain ⟨field, shape'⟩ := p
      obtain ⟨v, hv⟩ := Option.isSome_iff_exists.mp
        (hplaced.worth c (List.mem_append_right _ List.mem_cons_self) _ hp)
      -- it is the first of its name, or the record still reads such items
      have hadmits : (r.afterText c.front).admits field c.name.tag = true := by
        rw [OpenRecord.admits, Bool.or_eq_true]
        rcases hplaced.placed done c rest rfl _ hp with hfirst | ⟨hrepeated, hfollows⟩
        · right
          rw [hafter.2, List.any_reverse, any_fieldsOf hfirst]
          rfl
        · left
          obtain ⟨⟨d, hlast, hname⟩, hblank⟩ := hfollows
          have hitems : itemsAfter shape done = some c.name.bytes := by
            have hd : d.field? shape = some (field, shape') := by
              rw [← hp]
              unfold Child.field? Child.isNamed
              rw [hname]
            rw [itemsAfter, hlast, Option.bind_some, hd, Option.bind_some, if_pos hrepeated,
              hname]
          rw [OpenRecord.afterText, if_pos (all_unifyLineEnds hblank), h.items, hitems]
          exact beq_self_eq_true _
      refine ⟨(r.afterText c.front).put field c.name.tag v, ?_, hafter.1, ?_, ?_⟩
      · dsimp only
        rw [if_pos hadmits, hv]
        rfl
      · rw [fieldsOf_snoc, hp, Option.bind_some, hv, List.reverse_append, ← hafter.2]
        rfl
      · rw [itemsAfter_snoc, hp]
        rfl

theorem OpenRecord.HasTaken.foldlM {r : OpenRecord} {done : List Child} (todo : List Child)
    (h : r.HasTaken shape done) (hplaced : WellPlaced shape (done ++ todo)) :
    ∃ r', todo.foldlM OpenRecord.takeChild? r = some r' ∧
      r'.HasTaken shape (done ++ todo) := by
  induction todo generalizing r done with
  | nil => exact ⟨r, rfl, by rwa [List.append_nil]⟩
  | cons c todo ih =>
      obtain ⟨r₁, htake, hr₁⟩ := h.takeChild? hplaced
      have hassoc : done ++ c :: todo = (done ++ [c]) ++ todo := by
        rw [List.append_assoc, List.singleton_append]
      obtain ⟨r', hfold, hr'⟩ := ih hr₁ (hassoc ▸ hplaced)
      refine ⟨r', ?_, hassoc ▸ hr'⟩
      rw [List.foldlM_cons, htake]
      exact hfold

/-- **A record is read from content whose children are well placed.** -/
theorem Content.readInto?_of_wellPlaced (k : Content) (tag : Tag)
    (h : WellPlaced shape k.children) :
    ∃ r, k.readInto? (.fresh tag shape) = some r ∧ r.read.reverse = fieldsOf shape k.children := by
  have hfresh : (OpenRecord.fresh tag shape).HasTaken shape [] := ⟨rfl, rfl, rfl⟩
  obtain ⟨r, hfold, hr⟩ := hfresh.foldlM k.children h
  refine ⟨r.afterText k.back, ?_, ?_⟩
  · rw [Content.readInto?_eq, hfold]
    rfl
  · have hread : (r.afterText k.back).read = r.read := by
      unfold OpenRecord.afterText
      split <;> rfl
    rw [hread, hr.read, List.reverse_reverse]
    rfl

theorem Child.worth?_record {c : Child} (h : WellPlaced shape c.inside.children) :
    c.worth? (.record shape) = some (.record (fieldsOf shape c.inside.children)) := by
  obtain ⟨r, hread, hfields⟩ := c.inside.readInto?_of_wellPlaced c.name.tag h
  rw [Child.worth?, Content.worth?, hread, Option.map_some, hfields]

theorem Document.record?_of_wellPlaced (d : Document) {front back : String}
    (hfront : front.toList.all isXmlBlank = true) (hback : back.toList.all isXmlBlank = true)
    (h : WellPlaced shape d.content.children) :
    record? shape (Utf8.encode (front ++ d.written ++ back)) =
      some (fieldsOf shape d.content.children) := by
  obtain ⟨r, hread, hfields⟩ := d.content.readInto?_of_wellPlaced d.rootTag h
  rw [record?_written d hfront hback hread, hfields]

/-! ## Fields by their names -/

namespace Content

def named (k : Content) (name : String) : List Child := k.children.filter (·.isNamed name)

/-- The children with a name are adjacent: they are a run in which each has
the name of the one before it and nothing but blanks is between the two. -/
def Adjacent (k : Content) (name : String) : Prop :=
  ∃ before run after, k.children = before ++ run ++ after ∧
    (∀ c ∈ before ++ after, c.isNamed name = false) ∧
    run.IsChain fun d c => d.name = c.name ∧ c.front.toList.all isXmlBlank = true

/-- A child of such a run is the first of its name or follows another one. -/
theorem Adjacent.follows {k : Content} {name : String} (h : k.Adjacent name)
    {done rest : List Child} {c : Child} (hsplit : k.children = done ++ c :: rest)
    (hc : c.isNamed name = true) : (∀ d ∈ done, d.isNamed name = false) ∨ c.Follows done := by
  obtain ⟨before, run, after, hchildren, hothers, hchain⟩ := h
  have houtside : c ∉ before ++ after := by
    intro hmem
    rw [hothers c hmem] at hc
    cases hc
  rw [hchildren, List.append_assoc, List.append_eq_append_iff] at hsplit
  rcases hsplit with ⟨done', rfl, hrun⟩ | ⟨rest', rfl, hrun⟩
  · rw [List.append_eq_append_iff] at hrun
    rcases hrun with ⟨between, -, hafter⟩ | ⟨rest', rfl, hrest⟩
    · -- then the child would stand behind the run
      refine absurd (List.mem_append_right before ?_) houtside
      rw [hafter]
      exact List.mem_append_right between List.mem_cons_self
    · cases rest' with
      | nil =>
          refine absurd (List.mem_append_right before ?_) houtside
          rw [← List.nil_append after, ← hrest]
          exact List.mem_cons_self
      | cons c' rest' =>
          obtain ⟨rfl, -⟩ := List.cons_eq_cons.mp hrest
          cases hlast : done'.getLast? with
          | none =>
              left
              rw [List.getLast?_eq_none_iff.mp hlast, List.append_nil]
              exact fun d hd => hothers d (List.mem_append_left after hd)
          | some d =>
              right
              obtain ⟨hname, hblank⟩ := (List.isChain_append.mp hchain).2.2 d hlast c rfl
              refine ⟨⟨d, ?_, hname⟩, hblank⟩
              rw [List.getLast?_append, hlast]
              rfl
  · cases rest' with
    | nil =>
        left
        rw [List.append_nil] at hothers
        exact fun d hd => hothers d (List.mem_append_left after hd)
    | cons c' rest' =>
        -- then the child would stand in front of the run
        obtain ⟨rfl, -⟩ := List.cons_eq_cons.mp hrun
        refine absurd (List.mem_append_left after ?_) houtside
        exact List.mem_append_right done List.mem_cons_self

/-- The children with the name of a field are as the field wants them: there
is one at most, or they are adjacent items, and they are worth something. -/
structure Places (k : Content) (p : Field × Shape) : Prop where
  placed : (k.named p.1.name).length ≤ 1 ∨ (p.1.repeated = true ∧ k.Adjacent p.1.name)
  worth : ∀ c ∈ k.named p.1.name, (c.worth? p.2).isSome = true

theorem mem_named {k : Content} {name : String} {c : Child} :
    c ∈ k.named name ↔ c ∈ k.children ∧ c.isNamed name = true :=
  List.mem_filter

theorem wellPlaced {k : Content} (h : ∀ p ∈ shape, k.Places p) : WellPlaced shape k.children := by
  constructor
  · intro done c rest hsplit p hp
    have hnamed := Child.isNamed_of_field? hp
    rcases (h p (Child.mem_of_field? hp)).placed with hone | ⟨hrepeated, hadjacent⟩
    · left
      intro d hd
      -- two children of the name would be too many
      rw [named, hsplit, List.filter_append, List.filter_cons, if_pos hnamed, List.length_append,
        List.length_cons] at hone
      have hnone : done.filter (·.isNamed p.1.name) = [] := List.length_eq_zero_iff.mp (by omega)
      exact Bool.eq_false_iff.mpr (List.filter_eq_nil_iff.mp hnone d hd)
    · rcases hadjacent.follows hsplit hnamed with hfirst | hfollows
      · exact .inl hfirst
      · exact .inr ⟨hrepeated, hfollows⟩
  · intro c hc p hp
    exact (h p (Child.mem_of_field? hp)).worth c
      (mem_named.mpr ⟨hc, Child.isNamed_of_field? hp⟩)

end Content

theorem Child.field?_of_isNamed {c : Child} {name : String} (h : c.isNamed name = true) :
    c.field? shape = shape.find? fun p => p.1.name = name := by
  unfold Child.field?
  congr 1
  funext p
  by_cases hp : p.1.name = name
  · rw [hp, h, decide_eq_true rfl]
  · rw [decide_eq_false hp]
    exact Bool.eq_false_iff.mpr fun hnamed => hp (Child.name_unique hnamed h)

/-- What was read for a field is what the children with its name are worth. -/
theorem filter_fieldsOf {p : Field × Shape} {name : String}
    (hp : (shape.find? fun q => q.1.name = name) = some p) (l : List Child) :
    (fieldsOf shape l).filter (fun e => e.1 = name) =
      (l.filter (·.isNamed name)).filterMap fun c => (c.worth? p.2).map fun v => (name, v) := by
  have hname : p.1.name = name := by simpa using List.find?_some hp
  unfold fieldsOf
  rw [List.filter_filterMap, List.filterMap_filter]
  congr 1
  funext c
  by_cases hnamed : c.isNamed name = true
  · rw [if_pos hnamed, Child.field?_of_isNamed hnamed, hp, Option.bind_some, hname]
    cases c.worth? p.2 with
    | none => rfl
    | some v => exact if_pos (decide_eq_true rfl)
  · rw [if_neg hnamed]
    cases hfield : c.field? shape with
    | none => rfl
    | some q =>
        have hne : q.1.name ≠ name := fun heq =>
          hnamed (heq ▸ Child.isNamed_of_field? hfield)
        rw [Option.bind_some]
        cases c.worth? q.2 with
        | none => rfl
        | some v => exact if_neg (by simpa using hne)

theorem lookup_eq_head?_filter (fields : Fields) (name : String) :
    fields.lookup name = ((fields.filter fun e => e.1 = name).head?).map Prod.snd := by
  induction fields with
  | nil => rfl
  | cons e fields ih =>
      obtain ⟨n, v⟩ := e
      rw [SortedMap.lookup_cons_eq, List.filter_cons]
      by_cases h : name = n
      · subst h
        rw [if_pos rfl, if_pos (decide_eq_true rfl)]
        rfl
      · rw [if_neg h, if_neg (by simpa using fun heq : n = name => h heq.symm)]
        exact ih

/-! ## Texts -/

/-- A text without the characters that end a line elsewhere than at a line
feed. -/
def KeepsLines (s : String) : Prop :=
  ∀ c ∈ s.toList, c ≠ '\r' ∧ c ≠ '\u0085' ∧ c ≠ '\u2028'

instance (s : String) : Decidable (KeepsLines s) := List.decidableBAll _ s.toList

theorem unifyLineEnds_eq_self_iff {s : String} :
    unifyLineEnds s.toList = s.toList ↔ KeepsLines s := by
  have hchars (cs : List Char) :
      unifyLineEnds cs = cs ↔ ∀ c ∈ cs, c ≠ '\r' ∧ c ≠ '\u0085' ∧ c ≠ '\u2028' := by
    fun_induction unifyLineEnds cs with
    | case1 => exact ⟨fun _ c hc => absurd hc List.not_mem_nil, fun _ => rfl⟩
    | case2 rest _ =>
        constructor
        · intro h
          cases List.head_eq_of_cons_eq h
        · intro h
          exact absurd rfl (h _ List.mem_cons_self).1
    | case3 rest _ =>
        constructor
        · intro h
          cases List.head_eq_of_cons_eq h
        · intro h
          exact absurd rfl (h _ List.mem_cons_self).1
    | case4 c rest _ _ ih =>
        rw [List.cons.injEq, List.forall_mem_cons, ih]
        refine and_congr_left fun _ => ?_
        by_cases hline : c = '\r' ∨ c = '\u0085' ∨ c = '\u2028'
        · rw [if_pos hline]
          rcases hline with rfl | rfl | rfl <;> decide
        · rw [if_neg hline]
          simpa only [not_or, true_iff] using hline
  exact hchars s.toList

/-- A text as it is read: every end of a line is a line feed. -/
def asRead (s : String) : String := String.ofList (unifyLineEnds s.toList)

theorem asRead_eq_self_iff {s : String} : asRead s = s ↔ KeepsLines s := by
  rw [← unifyLineEnds_eq_self_iff, asRead, ← String.toList_inj, String.toList_ofList]

/-- Content has one child of a name, with this text inside, or none. -/
def Content.HasText (k : Content) (name : String) (value : Option String) : Prop :=
  (k.named name).map Child.inside = value.toList.map Content.text

namespace Content.HasText

variable {k : Content} {name : String} {value : Option String}

theorem unique {s t : String} (h : k.HasText name (some s)) (h' : k.HasText name (some t)) :
    s = t := by
  have htexts : [Content.text s] = [Content.text t] := h.symm.trans h'
  exact Content.text.inj (List.singleton_inj.mp htexts)

theorem places (h : k.HasText name value) {field : Field} (hname : field.name = name) :
    k.Places (field, .text) := by
  subst hname
  have hinside : ∀ c ∈ k.named field.name, ∃ s, c.inside = .text s := by
    intro c hc
    have hmem : c.inside ∈ value.toList.map Content.text := h ▸ List.mem_map_of_mem hc
    obtain ⟨s, -, hs⟩ := List.mem_map.mp hmem
    exact ⟨s, hs.symm⟩
  refine ⟨.inl ?_, fun c hc => ?_⟩
  · have hlength := congrArg List.length h
    rw [List.length_map, List.length_map] at hlength
    rw [hlength]
    cases value <;> simp
  · obtain ⟨s, hs⟩ := hinside c hc
    rw [Child.worth?, Content.worth?, hs]
    rfl

/-- What was read for the field is the text, its lines ended by line feeds. -/
theorem lookup (h : k.HasText name value) {field : Field}
    (hfield : (shape.find? fun p => p.1.name = name) = some (field, .text)) :
    (fieldsOf shape k.children).lookup name =
      value.map fun s => .text (unifyLineEnds s.toList) := by
  rw [lookup_eq_head?_filter, filter_fieldsOf hfield]
  unfold Content.HasText Content.named at h
  cases value with
  | none => rw [List.map_eq_nil_iff.mp h]; rfl
  | some s =>
      obtain ⟨c, hc, hs⟩ := List.map_eq_singleton_iff.mp h
      rw [hc]
      simp only [List.filterMap_cons, Child.worth?, Content.worth?, hs, Content.onlyText?,
        Option.map_some, List.head?_cons]

theorem text? (h : k.HasText name value) {field : Field}
    (hfield : (shape.find? fun p => p.1.name = name) = some (field, .text)) :
    (fieldsOf shape k.children).text? name = value.map asRead := by
  rw [Fields.text?, h.lookup hfield]
  cases value <;> rfl

end Content.HasText

/-- Content has one child of a name, which is this text, or none. -/
structure Content.Holds (k : Content) (name : String) (value : Option String) : Prop where
  alone : (k.named name).map Child.inside = value.toList.map Content.text
  keeps : ∀ s ∈ value, KeepsLines s

namespace Content.Holds

variable {k : Content} {name : String} {value : Option String}

theorem hasText (h : k.Holds name value) : k.HasText name value := h.alone

theorem places (h : k.Holds name value) {field : Field} (hname : field.name = name) :
    k.Places (field, .text) :=
  h.hasText.places hname

/-- What was read for the field is the text. -/
theorem lookup (h : k.Holds name value) {field : Field}
    (hfield : (shape.find? fun p => p.1.name = name) = some (field, .text)) :
    (fieldsOf shape k.children).lookup name = value.map fun s => .text s.toList := by
  rw [h.hasText.lookup hfield]
  cases value with
  | none => rfl
  | some s => rw [Option.map_some, unifyLineEnds_eq_self_iff.mpr (h.keeps s rfl)]; rfl

theorem text? (h : k.Holds name value) {field : Field}
    (hfield : (shape.find? fun p => p.1.name = name) = some (field, .text)) :
    (fieldsOf shape k.children).text? name = value := by
  rw [h.hasText.text? hfield]
  cases value with
  | none => rfl
  | some s => exact congrArg some (asRead_eq_self_iff.mpr (h.keeps s rfl))

end Content.Holds

/-! ## Records inside -/

section Records

variable {k : Content} {name : String} {field : Field} {inner : List (Field × Shape)}

/-- Children that hold records are as a field with this name wants them, if there
is one at most or they are adjacent items. -/
theorem Content.places_records
    (hplaced : (k.named field.name).length ≤ 1 ∨
      (field.repeated = true ∧ k.Adjacent field.name))
    (h : ∀ c ∈ k.named field.name, WellPlaced inner c.inside.children) :
    k.Places (field, .record inner) :=
  ⟨hplaced, fun c hc => by rw [Child.worth?_record (h c hc)]; rfl⟩

variable (hfield : (shape.find? fun p => p.1.name = name) = some (field, .record inner))
  (h : ∀ c ∈ k.named name, WellPlaced inner c.inside.children)

include hfield h

theorem filter_records :
    (fieldsOf shape k.children).filter (fun e => e.1 = name) =
      (k.named name).map fun c => (name, .record (fieldsOf inner c.inside.children)) := by
  rw [filter_fieldsOf hfield]
  show (k.named name).filterMap _ = _
  rw [← List.filterMap_eq_map]
  generalize k.named name = l at h ⊢
  induction l with
  | nil => rfl
  | cons c l ih =>
      obtain ⟨hc, hl⟩ := List.forall_mem_cons.mp h
      rw [List.filterMap_cons, List.filterMap_cons, Child.worth?_record hc, ih hl]
      rfl

/-- What was read for a repeated field are the records in the children with
its name, in their order. -/
theorem records_fieldsOf :
    (fieldsOf shape k.children).records name =
      (k.named name).map fun c => fieldsOf inner c.inside.children := by
  have hrecords (fields : Fields) :
      fields.records name = Fields.records (fields.filter fun e => e.1 = name) name := by
    unfold Fields.records
    rw [List.filterMap_filter]
    congr 1
    funext e
    by_cases hname : e.1 = name
    · rw [if_pos (decide_eq_true hname)]
    · rw [if_neg (by simpa using hname)]
      cases e.2 with
      | text cs => rfl
      | record inner => exact if_neg hname
      | absent => rfl
  rw [hrecords, filter_records hfield h, Fields.records, List.filterMap_map,
    ← List.filterMap_eq_map]
  congr 1
  funext c
  exact if_pos rfl

/-- What was read for a single field is the record in the first child with its
name. -/
theorem record?_fieldsOf :
    (fieldsOf shape k.children).record? name =
      (k.named name).head?.map fun c => fieldsOf inner c.inside.children := by
  rw [Fields.record?, lookup_eq_head?_filter, filter_records hfield h]
  cases k.named name <;> rfl

end Records

end ObjectStore.Xml
