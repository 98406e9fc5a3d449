import ObjectStore.Proofs.Xml.Delimiting
import ObjectStore.Proofs.Xml.Document

/-!
# A grammar of elements

What counts as an element, told by its characters alone: a start tag with
attributes, content, and an end tag of the same name. Content is text, in which
`<` and `&` do not stand for themselves, with elements in between. An element that
is a document ends where the document does, and the documents that are written
here are of this kind.
-/

namespace ObjectStore.Xml

/-! ## The grammar -/

/-- Escaped text: characters other than `<` and `&`, and references. -/
inductive IsText : List Char → Prop where
  | nil : IsText []
  | literal {c : Char} {cs : List Char} (hopen : c ≠ '<') (hamp : c ≠ '&') :
      IsText cs → IsText (c :: cs)
  | reference {name cs : List Char} (hname : ∀ c ∈ name, c ≠ ';' ∧ c ≠ '<' ∧ c ≠ '&') :
      IsText cs → IsText ('&' :: (name ++ ';' :: cs))

/-- The inside of a tag behind a name: brackets and slashes stand in quotes only. -/
inductive IsInside : List Char → Prop where
  | nil : IsInside []
  | plain {c : Char} {cs : List Char} (hc : c ≠ '>' ∧ c ≠ '/' ∧ c ≠ '"' ∧ c ≠ '\'') :
      IsInside cs → IsInside (c :: cs)
  | quoted {quote : Char} {value cs : List Char} (hquote : quote = '"' ∨ quote = '\'')
      (hvalue : quote ∉ value) : IsInside cs → IsInside (quote :: (value ++ quote :: cs))

/-- The attributes of a tag, with the blanks in front of them, between them and
behind them. -/
structure IsAttributes (cs : List Char) : Prop where
  blank : ∀ c ∈ cs.head?, isXmlBlank c = true
  inside : IsInside cs

def startTag (n : Name) (attributes : List Char) : List Char :=
  '<' :: (n.text.toList ++ (attributes ++ ['>']))

def voidTag (n : Name) (attributes : List Char) : List Char :=
  '<' :: (n.text.toList ++ (attributes ++ ['/', '>']))

def endTag (n : Name) (gap : List Char) : List Char :=
  '<' :: '/' :: (n.text.toList ++ (gap ++ ['>']))

/-- The content of an element: text, with elements in between. -/
inductive IsContent : List Char → Prop where
  | text {cs : List Char} : IsText cs → IsContent cs
  | element {front attributes inside gap after : List Char} (n : Name)
      (hgap : gap.all isXmlBlank = true) :
      IsText front → IsAttributes attributes → IsContent inside → IsContent after →
        IsContent (front ++ (startTag n attributes ++ (inside ++ (endTag n gap ++ after))))
  | void {front attributes after : List Char} (n : Name) :
      IsText front → IsAttributes attributes → IsContent after →
        IsContent (front ++ (voidTag n attributes ++ after))

def IsElement (document : String) : Prop :=
  ∃ (root : Name) (attributes inside gap : List Char), IsAttributes attributes ∧
    IsContent inside ∧ gap.all isXmlBlank = true ∧
    document.toList = startTag root attributes ++ (inside ++ endTag root gap)

/-! ## Text -/

theorem bytesOf_append (cs ds : List Char) : bytesOf (cs ++ ds) = bytesOf cs ++ bytesOf ds :=
  List.flatMap_append

theorem bytesOf_cons {c : Char} (h : c.toNat < 0x80) (cs : List Char) :
    bytesOf (c :: cs) = UInt8.ofNat c.toNat :: bytesOf cs := by
  rw [bytesOf, List.flatMap_cons, Utf8.encodeChar_ascii h]
  rfl

section Steps

variable {opened : List Bytes} {rest : Bytes}

theorem afterRoot?_cons {b : UInt8} (hb : isTextByte b = true) :
    afterRoot? opened (b :: rest) = afterRoot? opened rest := by
  have hnext {b : UInt8} (hb : isTextByte b = true) (bs : Bytes) :
      afterRoot? opened (b :: bs) = afterRoot? opened (bs.dropWhile isTextByte) := by
    rw [isTextByte, Bool.and_eq_true, bne_iff_ne, bne_iff_ne] at hb
    have hrun : Token.next? (b :: bs) =
        some (.text (b :: bs.takeWhile isTextByte), bs.dropWhile isTextByte) := by
      rw [Token.next?, if_neg hb.1, if_neg hb.2]
    exact afterRoot?_of_next hrun
  rw [hnext hb]
  cases rest with
  | nil => rfl
  | cons d rest =>
      cases hd : isTextByte d with
      | true => rw [List.dropWhile_cons_of_pos hd, hnext hd]
      | false => rw [List.dropWhile_cons_of_neg (by simp [hd])]

theorem afterRoot?_textBytes {bs : Bytes} (h : ∀ b ∈ bs, isTextByte b = true) :
    afterRoot? opened (bs ++ rest) = afterRoot? opened rest := by
  induction bs with
  | nil => rfl
  | cons b bs ih =>
      obtain ⟨hb, hbs⟩ := List.forall_mem_cons.mp h
      rw [List.cons_append, afterRoot?_cons hb, ih hbs]

theorem agree_isReferenceByte :
    Utf8.Agree (fun c => !(c == ';' || (c == '<' || c == '&'))) isReferenceByte := by
  have hagree := ((Utf8.agree_beq (a := ';') (by decide)).or
    ((Utf8.agree_beq (a := '<') (by decide)).or (Utf8.agree_beq (a := '&') (by decide)))).not
  intro c b hb
  refine Eq.trans ?_ (hagree c b hb)
  dsimp only
  rw [Bool.not_or, Bool.not_or]
  rfl

theorem next?_anyReference {name : List Char} (h : ∀ c ∈ name, c ≠ ';' ∧ c ≠ '<' ∧ c ≠ '&')
    (rest : Bytes) :
    Token.next? (ampersand :: (bytesOf name ++ semicolon :: rest)) =
      some (.reference (bytesOf name), rest) := by
  have hname : ∀ b ∈ bytesOf name, isReferenceByte b = true := by
    rw [← List.all_eq_true, agree_isReferenceByte.all, List.all_eq_true]
    intro c hc
    obtain ⟨hsemicolon, hopen, hamp⟩ := h c hc
    simp [hsemicolon, hopen, hamp]
  have hmark : ∀ b ∈ (semicolon :: rest).head?, isReferenceByte b = false := by
    intro b hb
    obtain rfl := Option.some.inj hb
    rfl
  rw [Token.next?, if_neg (by decide), if_pos rfl, reference?, takeWhile_run hname hmark,
    dropWhile_run hname hmark]
  exact if_pos rfl

/-- Text does not matter to the root. -/
theorem IsText.afterRoot? {cs : List Char} (h : IsText cs) :
    Xml.afterRoot? opened (bytesOf cs ++ rest) = Xml.afterRoot? opened rest := by
  induction h with
  | nil => rfl
  | @literal c cs hopen hamp _ ih =>
      have hc : ∀ b ∈ String.utf8EncodeChar c, isTextByte b = true := by
        intro b hb
        rw [agree_isTextByte c b hb]
        simp [hopen, hamp]
      rw [bytesOf, List.flatMap_cons, List.append_assoc, afterRoot?_textBytes hc]
      exact ih
  | @reference name cs hname _ ih =>
      have hbytes : bytesOf ('&' :: (name ++ ';' :: cs)) ++ rest =
          ampersand :: (bytesOf name ++ semicolon :: (bytesOf cs ++ rest)) := by
        rw [bytesOf_cons (by decide), bytesOf_append, bytesOf_cons (by decide), List.cons_append,
          List.append_assoc]
        rfl
      rw [hbytes, afterRoot?_of_next (next?_anyReference hname _)]
      exact ih

/-! ## Tags -/

theorem agree_isBlankByte : Utf8.Agree isXmlBlank isBlankByte :=
  (((Utf8.agree_beq (a := ' ') (by decide)).or (Utf8.agree_beq (a := '\t') (by decide))).or
    (Utf8.agree_beq (a := '\r') (by decide))).or (Utf8.agree_beq (a := '\n') (by decide))

theorem ne_of_mem_encodeChar {c : Char} {b : UInt8} (hb : b ∈ String.utf8EncodeChar c)
    {mark : UInt8} (hmark : mark.toNat < 0x80) (hc : c ≠ Char.ofNat mark.toNat) : b ≠ mark := by
  rintro rfl
  exact hc (Utf8.eq_of_mem_encodeChar hb hmark)

theorem bytesOf_quoted {quote : Char} {value : List Char} (hquote : quote = '"' ∨ quote = '\'')
    (hvalue : quote ∉ value) :
    ∃ mark : UInt8, (mark = doubleQuote ∨ mark = singleQuote) ∧ mark ∉ bytesOf value ∧
      ∀ cs, bytesOf (quote :: (value ++ quote :: cs)) =
        mark :: (bytesOf value ++ mark :: bytesOf cs) := by
  have hascii : quote.toNat < 0x80 := by rcases hquote with rfl | rfl <;> decide
  refine ⟨UInt8.ofNat quote.toNat, ?_, ?_, fun cs => ?_⟩
  · rcases hquote with rfl | rfl
    · exact .inl rfl
    · exact .inr rfl
  · intro hmem
    obtain ⟨c, hc, hb⟩ := List.mem_flatMap.mp hmem
    have hsame : (UInt8.ofNat quote.toNat == UInt8.ofNat quote.toNat) = (c == quote) :=
      Utf8.agree_beq hascii c _ hb
    rw [beq_self_eq_true] at hsame
    exact hvalue (beq_iff_eq.mp hsame.symm ▸ hc)
  · rw [bytesOf_cons hascii, bytesOf_append, bytesOf_cons hascii]

/-- The inside of a tag does not end it. -/
theorem IsInside.tag? {cs : List Char} (h : IsInside cs) :
    Xml.tag? none (bytesOf cs ++ rest) =
      (Xml.tag? none rest).map fun p => (bytesOf cs ++ p.1, p.2) := by
  induction h with
  | nil => simp
  | @plain c cs hc _ ih =>
      obtain ⟨hgreater, -, hdouble, hsingle⟩ := hc
      have hplain : ∀ b ∈ String.utf8EncodeChar c,
          b ≠ greaterThan ∧ b ≠ doubleQuote ∧ b ≠ singleQuote := fun b hb =>
        ⟨ne_of_mem_encodeChar hb (by decide) hgreater, ne_of_mem_encodeChar hb (by decide) hdouble,
          ne_of_mem_encodeChar hb (by decide) hsingle⟩
      rw [bytesOf, List.flatMap_cons, List.append_assoc, tag?_plain hplain, ih, Option.map_map]
      simp only [Function.comp_def, List.append_assoc]
  | quoted hquote hvalue _ ih =>
      obtain ⟨mark, hmark, hnot, hbytes⟩ := bytesOf_quoted hquote hvalue
      have hopen (bs : Bytes) : Xml.tag? none (mark :: bs) =
          (Xml.tag? (some mark) bs).map fun p => (mark :: p.1, p.2) := by
        rcases hmark with rfl | rfl
        · rfl
        · rfl
      rw [hbytes, List.cons_append, List.append_assoc, List.cons_append, hopen, tag?_quoted hnot,
        ih]
      simp only [Option.map_map, Function.comp_def, List.append_assoc, List.cons_append]

/-- The inside of a tag does not end with a slash, so the tag does not close itself. -/
theorem IsInside.getLast?_ne {cs : List Char} (h : IsInside cs) {front : Bytes}
    (hfront : front.getLast? ≠ some slash) : (front ++ bytesOf cs).getLast? ≠ some slash := by
  induction h generalizing front with
  | nil => rwa [bytesOf, List.flatMap_nil, List.append_nil]
  | @plain c cs hc _ ih =>
      obtain ⟨b, bs, hbytes, -⟩ := Utf8.next_encodeChar c
      have hne : String.utf8EncodeChar c ≠ [] := hbytes ▸ List.cons_ne_nil b bs
      rw [bytesOf, List.flatMap_cons, ← List.append_assoc]
      refine ih fun hlast => ?_
      rw [List.getLast?_append_of_ne_nil _ hne] at hlast
      have hmark : slash.toNat < 0x80 := by decide
      exact ne_of_mem_encodeChar (List.mem_of_getLast? hlast) hmark hc.2.1 rfl
  | @quoted quote value cs hquote hvalue _ ih =>
      obtain ⟨mark, hmark, -, hbytes⟩ := bytesOf_quoted hquote hvalue
      have hsplit : front ++ bytesOf (quote :: (value ++ quote :: cs)) =
          front ++ mark :: bytesOf value ++ [mark] ++ bytesOf cs := by
        rw [hbytes]
        simp
      rw [hsplit]
      refine ih ?_
      rw [List.getLast?_concat]
      rcases hmark with rfl | rfl
      · decide
      · decide

theorem IsAttributes.isBlankByte {cs : List Char} (h : IsAttributes cs) :
    ∀ b ∈ (bytesOf cs).head?, Xml.isBlankByte b = true := by
  intro b hb
  cases cs with
  | nil => cases hb
  | cons c cs =>
      obtain ⟨b', bs, hbytes, -⟩ := Utf8.next_encodeChar c
      rw [bytesOf, List.flatMap_cons, hbytes] at hb
      obtain rfl := Option.some.inj hb
      exact (agree_isBlankByte c b' (hbytes ▸ List.mem_cons_self)).trans (h.blank c rfl)

section Tags

variable (n : Name) {attributes : List Char} (h : IsAttributes attributes)

include h

theorem afterRoot?_startTag :
    Xml.afterRoot? opened (bytesOf (startTag n attributes) ++ rest) =
      Xml.afterRoot? (n.bytes :: opened) rest := by
  have hbytes : bytesOf (startTag n attributes) ++ rest =
      lessThan :: (n.bytes ++ (bytesOf attributes ++ greaterThan :: rest)) := by
    rw [startTag, bytesOf_cons (by decide), bytesOf_append, bytesOf_append]
    simp only [List.append_assoc, List.cons_append]
    rfl
  have htail : Xml.tag? none (bytesOf attributes ++ greaterThan :: rest) =
      some (bytesOf attributes, rest) := by
    rw [h.inside.tag?]
    exact congrArg (fun bs => some (bs, rest)) (List.append_nil _)
  have hlast := h.inside.getLast?_ne (getLast?_bytes_ne n)
  rw [hbytes, afterRoot?_of_next (next?_start n rest htail hlast)]
  dsimp only
  rw [n.ofInside_append h.isBlankByte]

theorem afterRoot?_voidTag (hopened : opened ≠ []) :
    Xml.afterRoot? opened (bytesOf (voidTag n attributes) ++ rest) =
      Xml.afterRoot? opened rest := by
  have hbytes : bytesOf (voidTag n attributes) ++ rest =
      lessThan :: (n.bytes ++ (bytesOf attributes ++ slash :: greaterThan :: rest)) := by
    rw [voidTag, bytesOf_cons (by decide), bytesOf_append, bytesOf_append]
    simp only [List.append_assoc, List.cons_append]
    rfl
  have hnext : Token.next? (lessThan :: (n.bytes ++ (bytesOf attributes ++
      slash :: greaterThan :: rest))) =
        some (.selfClosing (n.bytes ++ bytesOf attributes), rest) := by
    have hslash : Xml.tag? none (slash :: greaterThan :: rest) = some ([slash], rest) := rfl
    rw [next?_name, tag?_name, h.inside.tag?, hslash]
    simp only [Option.map_some, Option.bind_eq_bind, Option.bind_some, ← List.append_assoc,
      List.getLast?_concat, List.dropLast_concat, if_true]
    rfl
  rw [hbytes, afterRoot?_of_next hnext]
  exact if_neg hopened

end Tags

/-- An end tag closes the element, and the root ends with its own. -/
theorem afterRoot?_endTag (n : Name) {gap : List Char} (hgap : gap.all isXmlBlank = true)
    (outer : List Bytes) :
    Xml.afterRoot? (n.bytes :: outer) (bytesOf (endTag n gap) ++ rest) =
      if outer = [] then some rest else Xml.afterRoot? outer rest := by
  have hbytes : bytesOf (endTag n gap) ++ rest =
      lessThan :: slash :: (n.bytes ++ (bytesOf gap ++ greaterThan :: rest)) := by
    rw [endTag, bytesOf_cons (by decide), bytesOf_cons (by decide), bytesOf_append, bytesOf_append]
    simp only [List.append_assoc, List.cons_append]
    rfl
  have hblank : ∀ b ∈ bytesOf gap, isBlankByte b = true := by
    rw [← List.all_eq_true, agree_isBlankByte.all]
    exact hgap
  rw [hbytes, afterRoot?_of_next (next?_endTag n hblank rest)]
  exact if_pos rfl

/-! ## Elements -/

/-- Content does not matter to the root. -/
theorem IsContent.afterRoot? {cs : List Char} (h : IsContent cs) (hopened : opened ≠ []) :
    Xml.afterRoot? opened (bytesOf cs ++ rest) = Xml.afterRoot? opened rest := by
  induction h generalizing opened rest with
  | text htext => exact htext.afterRoot?
  | element n hgap hfront hattributes _ _ ihInside ihAfter =>
      simp only [bytesOf_append, List.append_assoc]
      rw [hfront.afterRoot?, afterRoot?_startTag n hattributes,
        ihInside (List.cons_ne_nil _ _), afterRoot?_endTag n hgap, if_neg hopened,
        ihAfter hopened]
  | void n hfront hattributes _ ihAfter =>
      simp only [bytesOf_append, List.append_assoc]
      rw [hfront.afterRoot?, afterRoot?_voidTag n hattributes hopened, ihAfter hopened]

end Steps

/-- **A document that is one element ends with its root.** -/
theorem IsElement.afterRoot? {document : String} (h : IsElement document) :
    Xml.afterRoot? [] (Utf8.encode document) = some [] := by
  obtain ⟨root, attributes, inside, gap, hattributes, hinside, hgap, hdocument⟩ := h
  have hend : bytesOf (endTag root gap) = bytesOf (endTag root gap) ++ [] :=
    (List.append_nil _).symm
  rw [Utf8.encode, hdocument, List.flatMap_append, List.flatMap_append,
    afterRoot?_startTag root hattributes, hinside.afterRoot? (List.cons_ne_nil _ _)]
  show Xml.afterRoot? [root.bytes] (bytesOf (endTag root gap)) = some []
  rw [hend, afterRoot?_endTag root hgap]
  rfl

/-! ## Documents that are written -/

theorem isText_escape (s : String) : IsText (escape s).toList := by
  rw [escape, String.toList_ofList]
  induction s.toList with
  | nil => exact .nil
  | cons c cs ih =>
      rw [List.flatMap_cons, escapeChar]
      cases hname : entity? c with
      | none =>
          refine .literal ?_ ?_ ih
          · rintro rfl
            cases hname
          · rintro rfl
            cases hname
      | some name =>
          show IsText ('&' :: (name.toList ++ [';'] ++ cs.flatMap escapeChar))
          have hchars : name.toList.all (fun c => c != ';' && (c != '<' && c != '&')) = true := by
            rcases entity?_eq_some hname with ⟨-, rfl⟩ | ⟨-, rfl⟩ | ⟨-, rfl⟩ <;> rfl
          rw [List.append_assoc]
          refine .reference (fun c hc => ?_) ih
          simpa using List.all_eq_true.mp hchars c hc

theorem IsInside.append_plain {front cs : List Char}
    (hfront : ∀ c ∈ front, c ≠ '>' ∧ c ≠ '/' ∧ c ≠ '"' ∧ c ≠ '\'') (h : IsInside cs) :
    IsInside (front ++ cs) := by
  induction front with
  | nil => exact h
  | cons c front ih =>
      obtain ⟨hc, hfront⟩ := List.forall_mem_cons.mp hfront
      exact .plain hc (ih hfront)

theorem isAttributes_nil : IsAttributes [] := ⟨fun _ hc => absurd hc (by simp), .nil⟩

/-- A declaration of a namespace stands in a tag like any other attribute. -/
theorem isAttributes_namespace (v : Quotable) :
    IsAttributes (" xmlns=\"" ++ v.text ++ "\"").toList := by
  have hwritten : (" xmlns=\"" ++ v.text ++ "\"").toList =
      " xmlns=".toList ++ '"' :: (v.text.toList ++ ['"']) := by simp
  have hplain : ∀ c ∈ " xmlns=".toList, c ≠ '>' ∧ c ≠ '/' ∧ c ≠ '"' ∧ c ≠ '\'' := by simp
  rw [hwritten]
  refine ⟨fun c hc => ?_, IsInside.append_plain hplain (.quoted (.inl rfl) v.unquoted .nil)⟩
  obtain rfl := Option.some.inj hc
  rfl

theorem Content.isContent_written (k : Content) : IsContent k.written.toList := by
  induction k with
  | text s => exact .text (isText_escape s)
  | element front name inside after ihInside ihAfter =>
      have hwritten : (Content.element front name inside after).written.toList =
          (escape front).toList ++ (startTag name [] ++ (inside.written.toList ++
            (endTag name [] ++ after.written.toList))) := by
        simp [Content.written, startTag, endTag]
      rw [hwritten]
      exact .element name rfl (isText_escape front) isAttributes_nil ihInside ihAfter
  | void front name after ihAfter =>
      have hwritten : (Content.void front name after).written.toList =
          (escape front).toList ++ (voidTag name [] ++ after.written.toList) := by
        simp [Content.written, voidTag]
      rw [hwritten]
      exact .void name (isText_escape front) isAttributes_nil ihAfter

/-- A root is written as an element. -/
theorem Document.isElement_rootWritten (d : Document) : IsElement d.rootWritten := by
  have hattributes : IsAttributes d.rootTail.toList := by
    unfold rootTail
    cases d.namespaceText with
    | none => exact isAttributes_nil
    | some v => exact isAttributes_namespace v
  refine ⟨d.root, d.rootTail.toList, d.content.written.toList, [], hattributes,
    d.content.isContent_written, rfl, ?_⟩
  simp [rootWritten, startTag, endTag]

end ObjectStore.Xml
