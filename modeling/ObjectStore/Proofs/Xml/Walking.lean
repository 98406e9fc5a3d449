import Mathlib.Data.List.TakeWhile
import ObjectStore.Proofs.Xml.Document
import ObjectStore.Xml.Cursor

/-!
# Walking through a document that was written

What a cursor makes of the events of content: it gives runs of text as a whole,
reads the text of an element that holds nothing else, and passes over an element
to its own end, however many elements of the same name are inside. Tags without
bindings are in the way of none of this, so the scope does not matter.
-/

namespace ObjectStore.Xml

/-! ## Plain tags -/

/-- A tag whose attributes bind nothing that they may not, are in order, and
do not declare its element to be nil. -/
structure Tag.Plain (t : Tag) : Prop where
  enters : ∀ scope : Scope, (scope.enter? t).isSome = true
  valid : t.attributesValid = true
  present : ∀ scope : Scope, t.isNil scope = false

/-- A tag is plain if its attributes are well formed, have names without a
namespace name, and no two of them the same. -/
theorem Tag.plain_of_attributes {t : Tag} {attributes : List Attribute}
    (h : ∀ distinct, t.attributes distinct = attributes.map some)
    (hname : ∀ a ∈ attributes,
      colon ∉ a.name ∧ (Utf8.decode? (Xml.localName a.name)).isSome = true) :
    t.Plain := by
  have hnamespace : ∀ a ∈ attributes, namespaceName? a.name = none := fun a ha =>
    if_neg (hname a ha).1
  refine ⟨fun scope => ?_, ?_, fun scope => ?_⟩
  · have htaken : ((t.attributes false).takeWhile Option.isSome).filterMap id = attributes := by
      have hall : ∀ a ∈ attributes.map some, Option.isSome a = true := by
        intro a ha
        obtain ⟨b, -, rfl⟩ := List.mem_map.mp ha
        rfl
      rw [h, List.takeWhile_eq_self_iff.mpr hall, List.filterMap_map]
      exact List.filterMap_some
    have hallowed : ∀ a ∈ attributes, a.BindingAllowed := by
      intro a ha
      have hbound : a.boundName? = none := by
        rw [Attribute.boundName?, hnamespace a ha]
        rfl
      simp only [Attribute.BindingAllowed, hbound]
    unfold Scope.enter?
    rw [htaken]
    dsimp only
    rw [if_pos hallowed]
    rfl
  · unfold Tag.attributesValid
    rw [h, List.all_map, List.all_eq_true]
    exact fun a ha => (hname a ha).2
  · unfold Tag.isNil
    have hid : (attributes.map some).filterMap id = attributes := by
      rw [List.filterMap_map]
      exact List.filterMap_some
    rw [h, hid, List.any_eq_false]
    intro a ha
    rw [Attribute.saysNil, hnamespace a ha]
    exact Bool.false_ne_true

theorem Name.plain_tag (n : Name) : n.tag.Plain := by
  have hnone : ∀ distinct, n.tag.attributes distinct = ([] : List Attribute).map some :=
    fun _ => rfl
  exact Tag.plain_of_attributes hnone fun a ha => by cases ha

theorem readAttribute_default {value : Bytes} (h : doubleQuote ∉ value) :
    readAttribute [] 0x78
        (Utf8.encode "mlns=" ++ doubleQuote :: (value ++ [doubleQuote])) =
      ⟨some ⟨Utf8.encode "xmlns", value⟩, [Utf8.encode "xmlns"], []⟩ := by
  have hvalue : quoted (doubleQuote :: (value ++ [doubleQuote])) = .ok (value, []) := by
    have hne : ∀ b ∈ value, (b != doubleQuote) = true := fun b hb =>
      bne_iff_ne.mpr fun heq => h (heq ▸ hb)
    have hend : ∀ b ∈ [doubleQuote].head?, (b != doubleQuote) = false := by
      intro b hb
      obtain rfl := Option.some.inj hb
      decide
    rw [quoted, if_pos (.inl rfl), dropWhile_run hne hend, takeWhile_run hne hend]
  have htake : (Utf8.encode "mlns=" ++ doubleQuote :: (value ++ [doubleQuote])).takeWhile
      inAttributeName = Utf8.encode "mlns" := rfl
  have hdrop : ((Utf8.encode "mlns=" ++ doubleQuote :: (value ++ [doubleQuote])).dropWhile
      inAttributeName).dropWhile isBlankByte =
        equalsSign :: doubleQuote :: (value ++ [doubleQuote]) := rfl
  have hblank : (doubleQuote :: (value ++ [doubleQuote])).dropWhile isBlankByte =
      doubleQuote :: (value ++ [doubleQuote]) := rfl
  unfold readAttribute
  rw [htake, hdrop]
  dsimp only
  rw [if_neg (by decide), if_neg List.not_mem_nil, hblank, hvalue]
  rfl

theorem Document.attributes_rootTag (d : Document) (distinct : Bool) :
    d.rootTag.attributes distinct =
      (d.namespaceText.toList.map fun v =>
        Attribute.mk (Utf8.encode "xmlns") (Utf8.encode v.text)).map some := by
  unfold Tag.attributes rootTag rootTail
  cases d.namespaceText with
  | none => rfl
  | some v =>
      have hquote : doubleQuote ∉ Utf8.encode v.text := fun h =>
        v.unquoted (Utf8.mem_of_mem_encode h (by decide))
      have htail : Utf8.encode (" xmlns=\"" ++ v.text ++ "\"") =
          0x20 :: 0x78 :: (Utf8.encode "mlns=" ++
            doubleQuote :: (Utf8.encode v.text ++ [doubleQuote])) := by
        have hname : Utf8.encode " xmlns=\"" =
            0x20 :: 0x78 :: (Utf8.encode "mlns=" ++ [doubleQuote]) := rfl
        simp only [Utf8.encode_append, hname, encode_quote, List.append_assoc, List.cons_append,
          List.nil_append]
      have hblank (bs : Bytes) : (0x20 :: 0x78 :: bs).dropWhile isBlankByte = 0x78 :: bs := rfl
      dsimp only
      rw [htail, List.length_cons, List.length_cons, scanAttributes, hblank]
      dsimp only
      rw [readAttribute_default hquote, scanAttributes]
      rfl

theorem Document.plain_rootTag (d : Document) : d.rootTag.Plain := by
  refine Tag.plain_of_attributes d.attributes_rootTag fun a ha => ?_
  obtain ⟨v, -, rfl⟩ := List.mem_map.mp ha
  have hcolon : colon ∉ Utf8.encode "xmlns" := by decide
  have hlocal : localName (Utf8.encode "xmlns") = Utf8.encode "xmlns" := by decide
  refine ⟨hcolon, ?_⟩
  dsimp only
  rw [hlocal, Utf8.decode?_encode]
  rfl

/-! ## Runs of text -/

/-- Events that are a run of text, and the text. -/
inductive IsRun : List Event → List Char → Prop where
  | nil : IsRun [] []
  | cons {e : Event} {es : List Event} {cs ds : List Char} : e.isText = true →
      e.text? = some cs → IsRun es ds → IsRun (e :: es) (cs ++ ds)

theorem IsRun.append {es fs : List Event} {cs ds : List Char} (h : IsRun es cs)
    (h' : IsRun fs ds) : IsRun (es ++ fs) (cs ++ ds) := by
  induction h with
  | nil => exact h'
  | cons htext hcs _ ih =>
      rw [List.cons_append, List.append_assoc]
      exact .cons htext hcs ih

/-- Line ends are not looked for across a character that takes part in none. -/
theorem unifyLineEnds_append (cs : List Char) {ds : List Char}
    (h : ∀ d ∈ ds.head?, d ≠ '\n' ∧ d ≠ '\u0085') :
    unifyLineEnds (cs ++ ds) = unifyLineEnds cs ++ unifyLineEnds ds := by
  fun_induction unifyLineEnds cs with
  | case1 => rfl
  | case2 rest ih => simp only [List.cons_append, unifyLineEnds, ih]
  | case3 rest ih => simp only [List.cons_append, unifyLineEnds, ih]
  | case4 c rest hfeed hnext ih =>
      have hnot {d : Char} (hd : ∀ e ∈ ds.head?, e ≠ d)
          (hrest : ∀ tail, c = '\r' → rest = d :: tail → False) (tail : List Char)
          (hc : c = '\r') (heq : rest ++ ds = d :: tail) : False := by
        cases rest with
        | nil => exact hd d (by rw [show ds = d :: tail from heq]; rfl) rfl
        | cons r rest => exact hrest rest hc (by rw [(List.cons.inj heq).1])
      rw [List.cons_append, unifyLineEnds, ih]
      · rfl
      · exact hnot (fun e he => (h e he).1) hfeed
      · exact hnot (fun e he => (h e he).2) hnext

/-- The events of a text are a run, whose text has the line ends of the text
unified. -/
theorem isRun_textEvents (cs : List Char) : IsRun (textEvents cs) (unifyLineEnds cs) := by
  fun_induction textEvents cs with
  | case1 => exact .nil
  | case2 c cs name hname ih =>
      have hevent : (Event.reference (Utf8.encode name)).text? = some [c] := by
        rcases entity?_eq_some hname with ⟨rfl, rfl⟩ | ⟨rfl, rfl⟩ | ⟨rfl, rfl⟩ <;>
          · simp only [Event.text?, Utf8.decode?_encode]
            rfl
      have hunify : unifyLineEnds (c :: cs) = [c] ++ unifyLineEnds cs := by
        rcases entity?_eq_some hname with ⟨rfl, -⟩ | ⟨rfl, -⟩ | ⟨rfl, -⟩ <;> rfl
      rw [hunify]
      exact .cons rfl hevent ih
  | case3 c cs hname ih =>
      have hevent : (Event.text (bytesOf (c :: cs.takeWhile isLiteral))).text? =
          some (unifyLineEnds (c :: cs.takeWhile isLiteral)) := by
        rw [bytesOf, ← Utf8.encode_ofList, Event.text?, Utf8.decode?_encode,
          String.toList_ofList]
        rfl
      -- behind the piece stands a reference, so no line end goes across
      have hhead : ∀ d ∈ (cs.dropWhile isLiteral).head?, d ≠ '\n' ∧ d ≠ '\u0085' := by
        intro d hd
        have hliteral := List.head?_dropWhile_not isLiteral cs
        rw [hd] at hliteral
        constructor
        · rintro rfl
          cases hliteral
        · rintro rfl
          cases hliteral
      have hunify : unifyLineEnds (c :: cs) =
          unifyLineEnds (c :: cs.takeWhile isLiteral) ++
            unifyLineEnds (cs.dropWhile isLiteral) := by
        rw [← unifyLineEnds_append _ hhead, List.cons_append, List.takeWhile_append_dropWhile]
      rw [hunify]
      exact .cons rfl hevent ih

theorem textEvents_eq_nil {cs : List Char} : textEvents cs = [] ↔ cs = [] := by
  cases cs with
  | nil => simp [textEvents]
  | cons c cs =>
      rw [textEvents]
      split <;> simp

/-! ## Cursors -/

/-- A cursor stands in front of these events, all of whose tags are plain. -/
structure Cursor.At (c : Cursor) (es : List Event) : Prop where
  ahead : c.ahead = es
  plain : ∀ tag, .start tag ∈ es → tag.Plain

def NoText (es : List Event) : Prop := ∀ e ∈ es.head?, e.isText = false

theorem noText_tag (e : Event) (es : List Event) (h : e.isText = false) : NoText (e :: es) := by
  intro f hf
  obtain rfl := Option.some.inj hf
  exact h

namespace Cursor

theorem at_before (scope : Scope) {es : List Event} (h : ∀ tag, .start tag ∈ es → tag.Plain) :
    (before scope es).At es := by
  refine ⟨?_, h⟩
  cases es with
  | nil => rfl
  | cons e es =>
      cases e with
      | start tag =>
          have henters := (h tag List.mem_cons_self).enters scope.settle
          obtain ⟨inner, hinner⟩ := Option.isSome_iff_exists.mp henters
          simp only [before, Scope.at?, hinner]
      | finish name => rfl
      | text raw => rfl
      | reference name => rfl
      | documentType => rfl

namespace At

variable {c : Cursor} {e : Event} {es more : List Event} {cs : List Char}

theorem advance (h : c.At (e :: es)) : c.advance.At es := by
  unfold Cursor.advance
  rw [h.ahead]
  exact at_before _ fun tag htag => h.plain tag (List.mem_cons_of_mem _ htag)

theorem next?_start {tag : Tag} (h : c.At (.start tag :: es)) :
    c.next? = some (.start tag, c.advance) := by
  obtain ⟨ahead, scope⟩ := c
  obtain rfl : ahead = _ := h.ahead
  rw [Cursor.next?]

theorem next?_finish {name : Bytes} (h : c.At (.finish name :: es)) :
    c.next? = some (.finish, c.advance) := by
  obtain ⟨ahead, scope⟩ := c
  obtain rfl : ahead = _ := h.ahead
  rw [Cursor.next?]

theorem textRun? (hrun : IsRun es cs) (hmore : NoText more) (h : c.At (es ++ more))
    (pieces : List (List Char)) :
    ∃ c', c'.At more ∧ c.textRun? pieces = some (pieces.reverse.flatten ++ cs, c') := by
  induction hrun generalizing c pieces with
  | nil =>
      refine ⟨c, h, ?_⟩
      obtain ⟨ahead, scope⟩ := c
      obtain rfl : ahead = more := h.ahead
      rw [Cursor.textRun?, List.append_nil]
      split
      · rfl
      · next e rest hahead =>
          dsimp only at hahead
          rw [if_neg (by rw [hmore e (by rw [hahead]; rfl)]; decide)]
  | @cons e es cs ds htext hcs _ ih =>
      obtain ⟨c', hc', hread⟩ := ih h.advance (cs :: pieces)
      refine ⟨c', hc', ?_⟩
      rw [List.reverse_cons, List.flatten_append, List.flatten_singleton, List.append_assoc]
        at hread
      rw [← hread, Cursor.textRun?]
      split
      · next hnil =>
          rw [h.ahead] at hnil
          cases hnil
      · next e' rest hahead =>
          rw [h.ahead] at hahead
          obtain rfl := (List.cons.inj hahead).1
          rw [if_pos htext, hcs]

/-- A run of text is one part. -/
theorem next?_text (hrun : IsRun es cs) (hne : es ≠ []) (hmore : NoText more)
    (h : c.At (es ++ more)) : ∃ c', c'.At more ∧ c.next? = some (.text cs, c') := by
  obtain ⟨c', hc', hread⟩ := h.textRun? hrun hmore []
  refine ⟨c', hc', ?_⟩
  cases hrun with
  | nil => exact absurd rfl hne
  | @cons e es cs ds htext hcs _ =>
      have hahead : c.ahead = e :: (es ++ more) := h.ahead
      rw [Cursor.next?]
      split
      · next hnil => rw [hahead] at hnil; cases hnil
      · next hstart =>
          rw [hahead] at hstart
          rw [(List.cons.inj hstart).1] at htext
          cases htext
      · next hfinish =>
          rw [hahead] at hfinish
          rw [(List.cons.inj hfinish).1] at htext
          cases htext
      · next htype =>
          rw [hahead] at htype
          rw [(List.cons.inj htype).1] at htext
          cases htext
      · rw [hread]
        rfl

theorem elementText? {s : String} {name : Bytes}
    (h : c.At (textEvents s.toList ++ .finish name :: es)) :
    ∃ c', c'.At es ∧ c.elementText? = some (unifyLineEnds s.toList, c') := by
  by_cases hempty : textEvents s.toList = []
  · have hs : s.toList = [] := textEvents_eq_nil.mp hempty
    rw [hempty, List.nil_append] at h
    refine ⟨c.advance, h.advance, ?_⟩
    rw [Cursor.elementText?, h.next?_finish, hs]
    rfl
  · obtain ⟨c', hc', hnext⟩ :=
      h.next?_text (isRun_textEvents s.toList) hempty (noText_tag _ _ rfl)
    refine ⟨c'.advance, hc'.advance, ?_⟩
    rw [Cursor.elementText?, hnext]
    dsimp only
    rw [hc'.next?_finish]

end At

/-! ## Passing over elements -/

theorem afterEnd?_run {es more : List Event} {cs : List Char} (h : IsRun es cs) (name : Bytes)
    (depth : Nat) : afterEnd? name depth (es ++ more) = afterEnd? name depth more := by
  induction h with
  | nil => rfl
  | @cons e es cs ds htext _ _ ih =>
      rw [← ih]
      cases e with
      | text raw => rfl
      | reference name => rfl
      | start tag => cases htext
      | finish name => cases htext
      | documentType => cases htext

/-- Two tags around what goes by whole go by whole. -/
theorem afterEnd?_tags (n : Name) {name : Bytes} {inner : List Event}
    (hinner : ∀ depth more, afterEnd? name depth (inner ++ more) = afterEnd? name depth more)
    (depth : Nat) (more : List Event) :
    afterEnd? name depth (.start n.tag :: (inner ++ .finish n.bytes :: more)) =
      afterEnd? name depth more := by
  show afterEnd? name (if n.bytes = name then depth + 1 else depth) _ = _
  by_cases h : n.bytes = name
  · rw [if_pos h, hinner]
    exact if_pos h
  · rw [if_neg h, hinner]
    exact if_neg h

/-- Content goes by whole: it has as many ends of a name as starts. -/
theorem afterEnd?_content (k : Content) (name : Bytes) (depth : Nat) (more : List Event) :
    afterEnd? name depth (k.events ++ more) = afterEnd? name depth more := by
  induction k generalizing depth more with
  | text s => exact afterEnd?_run (isRun_textEvents s.toList) name depth
  | element front n inside after ihInside ihAfter =>
      rw [Content.events, List.append_assoc, afterEnd?_run (isRun_textEvents front.toList),
        List.cons_append, List.append_assoc, List.cons_append, afterEnd?_tags n ihInside]
      exact ihAfter depth more
  | void front n after ihAfter =>
      have hempty : ∀ depth more, afterEnd? name depth ([] ++ more) = afterEnd? name depth more :=
        fun _ _ => rfl
      rw [Content.events, List.append_assoc, afterEnd?_run (isRun_textEvents front.toList)]
      exact (afterEnd?_tags n hempty depth _).trans (ihAfter depth more)

theorem afterEnd?_finish (name : Bytes) (more : List Event) :
    afterEnd? name 0 (.finish name :: more) = some more :=
  if_pos rfl

theorem mem_of_afterEnd? {name : Bytes} {depth : Nat} {es rest : List Event}
    (h : afterEnd? name depth es = some rest) {e : Event} (he : e ∈ rest) : e ∈ es := by
  induction es generalizing depth with
  | nil => cases h
  | cons f es ih =>
      have step {d : Nat} (h : afterEnd? name d es = some rest) : e ∈ f :: es :=
        List.mem_cons_of_mem _ (ih h)
      cases f with
      | start tag => exact step h
      | finish other =>
          unfold afterEnd? at h
          split at h
          · cases depth with
            | zero =>
                obtain rfl := Option.some.inj h
                exact List.mem_cons_of_mem _ he
            | succ depth => exact step h
          · exact step h
      | text raw => exact step h
      | reference other => exact step h
      | documentType => exact step h

namespace At

variable {c : Cursor} {es rest : List Event}

theorem passEnd? {name : Bytes} (h : c.At es) (hend : afterEnd? name 0 es = some rest) :
    ∃ c', c'.At rest ∧ c.passEnd? name = some c' := by
  have hrest : ∀ tag, .start tag ∈ rest → tag.Plain := fun tag htag =>
    h.plain tag (mem_of_afterEnd? hend htag)
  have hbefore : (before c.scope rest).At rest := at_before c.scope hrest
  unfold Cursor.passEnd?
  rw [h.ahead]
  cases es with
  | nil => cases hend
  | cons e es =>
      cases e with
      | start tag => exact ⟨_, hbefore, congrArg (Option.map _) hend⟩
      | finish other =>
          by_cases hname : other = name
          · rw [show afterEnd? name 0 (.finish other :: es) = some es from if_pos hname] at hend
            obtain rfl := Option.some.inj hend
            exact ⟨_, h.advance, if_pos hname⟩
          · rw [show afterEnd? name 0 (.finish other :: es) = afterEnd? name 0 es from
              if_neg hname] at hend
            exact ⟨_, hbefore, (if_neg hname).trans (congrArg (Option.map _) hend)⟩
      | text raw => exact ⟨_, hbefore, congrArg (Option.map _) hend⟩
      | reference other => exact ⟨_, hbefore, congrArg (Option.map _) hend⟩
      | documentType => exact ⟨_, hbefore, congrArg (Option.map _) hend⟩

end At
end Cursor

/-- An element that is written with one tag is one that holds no text. -/
theorem Content.events_void (front : String) (n : Name) (after : Content) :
    (Content.void front n after).events = (Content.element front n (.text "") after).events := by
  simp [Content.events, textEvents]

theorem Cursor.At.pass? {c : Cursor} {k : Content} {name : Bytes} {es : List Event}
    (h : c.At (k.events ++ .finish name :: es)) :
    ∃ c', c'.At es ∧ c.pass? name = some c' := by
  have hend (k : Content) : afterEnd? name 0 (k.events ++ .finish name :: es) = some es := by
    rw [afterEnd?_content, afterEnd?_finish]
  -- text in front is read, and from there the end is looked for
  have hfront {s : String} {more : List Event} (hs : textEvents s.toList ≠ [])
      (hmore : NoText more) (h : c.At (textEvents s.toList ++ more))
      (hend : afterEnd? name 0 (textEvents s.toList ++ more) = some es) :
      ∃ c', c'.At es ∧ c.pass? name = some c' := by
    obtain ⟨c', hc', hnext⟩ := h.next?_text (isRun_textEvents s.toList) hs hmore
    rw [afterEnd?_run (isRun_textEvents s.toList)] at hend
    obtain ⟨c'', hc'', hpass⟩ := hc'.passEnd? hend
    refine ⟨c'', hc'', ?_⟩
    rw [Cursor.pass?, hnext]
    exact hpass
  have helement {front : String} {n : Name} {inside after : Content}
      (h : c.At ((Content.element front n inside after).events ++ .finish name :: es)) :
      ∃ c', c'.At es ∧ c.pass? name = some c' := by
    have hall := hend (.element front n inside after)
    rw [Content.events, List.append_assoc] at h hall
    by_cases hs : textEvents front.toList = []
    · rw [hs, List.nil_append, List.cons_append, List.append_assoc, List.cons_append] at h
      have hinside : afterEnd? n.bytes 0 (inside.events ++ .finish n.bytes ::
          (after.events ++ .finish name :: es)) = some (after.events ++ .finish name :: es) := by
        rw [afterEnd?_content, afterEnd?_finish]
      obtain ⟨c₁, hc₁, hpass₁⟩ := h.advance.passEnd? hinside
      obtain ⟨c₂, hc₂, hpass₂⟩ := hc₁.passEnd? (hend after)
      refine ⟨c₂, hc₂, ?_⟩
      rw [Cursor.pass?, h.next?_start]
      show (c.advance.passEnd? n.bytes).bind _ = _
      rw [hpass₁]
      exact hpass₂
    · exact hfront hs (noText_tag _ _ rfl) h hall
  cases k with
  | text s =>
      by_cases hs : textEvents s.toList = []
      · rw [Content.events, hs, List.nil_append] at h
        refine ⟨c.advance, h.advance, ?_⟩
        rw [Cursor.pass?, h.next?_finish]
        rfl
      · exact hfront hs (noText_tag _ _ rfl) h (hend (.text s))
  | element front n inside after => exact helement h
  | void front n after =>
      rw [Content.events_void] at h
      exact helement h

end ObjectStore.Xml
