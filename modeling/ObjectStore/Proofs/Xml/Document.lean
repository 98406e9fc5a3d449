import ObjectStore.Proofs.Xml.Content

/-!
# Whole documents

A document is its root element, which may name a default namespace, and in
front of it perhaps an instruction that says it is XML. Blanks may stand around
both. Only the root and what it holds show in the events, and the blanks, which
are text.
-/

namespace ObjectStore.Xml

/-- What may stand in front of a root: an instruction, and blanks. -/
structure Prolog where
  instruction : String
  gap : String
  closed : '>' ∉ instruction.toList
  blank : gap.toList.all isXmlBlank = true

/-- A text that can stand between quotes. -/
structure Quotable where
  text : String
  unquoted : '"' ∉ text.toList

/-- A document: its prolog, if it has one, its root, the default namespace,
if one is named, and what the root holds. -/
structure Document where
  prolog : Option Prolog
  root : Name
  namespaceText : Option Quotable
  content : Content

def Prolog.written (p : Prolog) : String := "<?" ++ p.instruction ++ "?>" ++ p.gap

namespace Document

variable (d : Document)

/-- What stands in the tag of the root behind its name. -/
def rootTail : String :=
  match d.namespaceText with
  | none => ""
  | some v => " xmlns=\"" ++ v.text ++ "\""

def rootTag : Tag := ⟨d.root.bytes, Utf8.encode d.rootTail⟩

def rootWritten : String :=
  "<" ++ d.root.text ++ d.rootTail ++ ">" ++ d.content.written ++ "</" ++ d.root.text ++ ">"

def written : String := (d.prolog.map Prolog.written).getD "" ++ d.rootWritten

def gap : String := (d.prolog.map Prolog.gap).getD ""

def rootEvents : List Event :=
  .start d.rootTag :: (d.content.events ++ [.finish d.root.bytes])

end Document

/-! ## Blanks -/

theorem isLiteral_of_isXmlBlank {c : Char} (h : isXmlBlank c = true) : isLiteral c = true := by
  simp only [isXmlBlank, Bool.or_eq_true, beq_iff_eq] at h
  rcases h with ((rfl | rfl) | rfl) | rfl <;> rfl

theorem escape_of_blank {s : String} (h : s.toList.all isXmlBlank = true) : escape s = s := by
  have hliteral : ∀ c ∈ s.toList, isLiteral c = true := fun c hc =>
    isLiteral_of_isXmlBlank (List.all_eq_true.mp h c hc)
  rw [escape, escapeChars_of_literal hliteral, String.ofList_toList]

theorem readEvents_blank (seen : List Event) (opened : List Bytes) {rest : Bytes} {s : String}
    (h : s.toList.all isXmlBlank = true) (hrest : Ends rest) :
    readEvents seen opened (Utf8.encode s ++ rest) =
      readEvents ((textEvents s.toList).reverse ++ seen) opened rest := by
  have hread := readEvents_escape seen opened s hrest
  rwa [escape_of_blank h] at hread

/-- A text that begins with a blank, or with a bracket behind blanks, does not
begin with the byte order mark. -/
theorem strip?_byteOrderMark {s t : String} (h : s.toList.all isXmlBlank = true) :
    strip? byteOrderMark (Utf8.encode (s ++ "<" ++ t)) = none := by
  have hfirst : ∀ b ∈ (Utf8.encode (s ++ "<" ++ t)).head?, b ≠ 0xEF := by
    -- the first byte is a blank or the bracket
    intro b hb
    rw [Utf8.encode_append, Utf8.encode_append, encode_open, Utf8.encode] at hb
    cases hchars : s.toList with
    | nil =>
        rw [hchars] at hb
        obtain rfl := Option.some.inj hb
        decide
    | cons c cs =>
        have hc : isXmlBlank c = true := by
          rw [hchars, List.all_cons, Bool.and_eq_true] at h
          exact h.1
        rw [hchars] at hb
        simp only [isXmlBlank, Bool.or_eq_true, beq_iff_eq] at hc
        rcases hc with ((rfl | rfl) | rfl) | rfl <;>
          · obtain rfl := Option.some.inj hb
            decide
  unfold strip? byteOrderMark
  cases hbytes : Utf8.encode (s ++ "<" ++ t) with
  | nil => rfl
  | cons b bs =>
      have hne : (0xEF == b) = false :=
        beq_eq_false_iff_ne.mpr fun heq => hfirst b (by rw [hbytes]; rfl) heq.symm
      rw [List.isPrefixOf_cons_cons, hne, Bool.false_and, if_neg (by decide)]

/-! ## The prolog -/

theorem before?_instruction {bs : Bytes} (h : greaterThan ∉ bs) (rest : Bytes) :
    before? [questionMark, greaterThan] (bs ++ questionMark :: greaterThan :: rest) =
      some (bs, rest) := by
  induction bs with
  | nil => rfl
  | cons b bs ih =>
      rw [List.mem_cons, not_or] at h
      have hlonger : ([questionMark, greaterThan] : Bytes).isPrefixOf
          (b :: (bs ++ questionMark :: greaterThan :: rest)) = false := by
        cases bs with
        | nil =>
            have hne : (greaterThan == questionMark) = false := by decide
            simp only [List.nil_append, List.isPrefixOf_cons_cons, hne, Bool.false_and,
              Bool.and_false]
        | cons b' bs =>
            have hne : (greaterThan == b') = false :=
              beq_eq_false_iff_ne.mpr fun heq => h.2 (heq ▸ List.mem_cons_self)
            simp only [List.cons_append, List.isPrefixOf_cons_cons, hne, Bool.false_and,
              Bool.and_false]
      rw [List.cons_append, before?, if_neg (by rw [hlonger]; decide), ih h.2]
      rfl

theorem next?_instruction {bs : Bytes} (h : greaterThan ∉ bs) (rest : Bytes) :
    Token.next? (lessThan :: questionMark :: (bs ++ questionMark :: greaterThan :: rest)) =
      some (.aside, rest) := by
  have hmark : Utf8.encode "?>" = [questionMark, greaterThan] := rfl
  have hhead : (bs ++ questionMark :: greaterThan :: rest).head? ≠ some greaterThan := by
    cases bs with
    | nil =>
        intro heq
        cases heq
    | cons b bs =>
        intro heq
        exact h (Option.some.inj heq ▸ List.mem_cons_self)
  rw [Token.next?, if_pos rfl, markup?, if_neg (by decide), if_neg (by decide), if_pos rfl,
    if_neg hhead, hmark, before?_instruction h]
  rfl

theorem Prolog.readEvents_written (p : Prolog) (seen : List Event) (opened : List Bytes)
    {rest : Bytes} (hrest : Ends rest) :
    readEvents seen opened (Utf8.encode p.written ++ rest) =
      readEvents ((textEvents p.gap.toList).reverse ++ seen) opened rest := by
  have hopen : Utf8.encode "<?" = [lessThan, questionMark] := rfl
  have hclose : Utf8.encode "?>" = [questionMark, greaterThan] := rfl
  have hclosed : greaterThan ∉ Utf8.encode p.instruction := fun h =>
    p.closed (Utf8.mem_of_mem_encode h (by decide))
  simp only [Prolog.written, Utf8.encode_append, List.append_assoc, hopen, hclose,
    List.cons_append, List.nil_append]
  rw [readEvents_eq (next?_instruction hclosed _)]
  exact readEvents_blank seen opened p.blank hrest

/-! ## The root -/

namespace Document

variable (d : Document)

theorem tag?_rootTail (rest : Bytes) :
    tag? none (Utf8.encode d.rootTail ++ greaterThan :: rest) =
      some (Utf8.encode d.rootTail, rest) := by
  unfold rootTail
  cases d.namespaceText with
  | none => rfl
  | some v =>
      have hquote : doubleQuote ∉ Utf8.encode v.text := fun h =>
        v.unquoted (Utf8.mem_of_mem_encode h (by decide))
      have hname : Utf8.encode " xmlns=\"" = Utf8.encode " xmlns=" ++ [doubleQuote] := rfl
      have hplain : ∀ b ∈ Utf8.encode " xmlns=",
          b ≠ greaterThan ∧ b ≠ doubleQuote ∧ b ≠ singleQuote := by
        have hall : (Utf8.encode " xmlns=").all (fun b =>
            b ≠ greaterThan ∧ b ≠ doubleQuote ∧ b ≠ singleQuote) = true := by decide
        simpa only [List.all_eq_true, decide_eq_true_eq] using hall
      simp only [Utf8.encode_append, hname, encode_quote, List.append_assoc, List.cons_append,
        List.nil_append]
      rw [tag?_plain hplain, tag?, if_neg (by decide), if_pos (.inl rfl)]
      dsimp only
      rw [tag?_quoted hquote]
      rfl

theorem getLast?_rootTail_ne :
    (d.root.bytes ++ Utf8.encode d.rootTail).getLast? ≠ some slash := by
  unfold rootTail
  cases d.namespaceText with
  | none =>
      rw [Utf8.encode_empty, List.append_nil]
      exact getLast?_bytes_ne d.root
  | some v =>
      simp only [Utf8.encode_append, encode_quote]
      rw [← List.append_assoc, List.getLast?_concat]
      decide

theorem ofInside_rootTag :
    Tag.ofInside (d.root.bytes ++ Utf8.encode d.rootTail) = d.rootTag := by
  refine d.root.ofInside_append ?_
  unfold rootTail
  cases d.namespaceText with
  | none =>
      intro b hb
      cases hb
  | some v =>
      intro b hb
      have hname : Utf8.encode " xmlns=\"" = 0x20 :: Utf8.encode "xmlns=\"" := rfl
      simp only [Utf8.encode_append, hname, List.cons_append, List.head?_cons,
        Option.mem_some] at hb
      obtain rfl := hb
      rfl

theorem readEvents_rootWritten (seen : List Event) (rest : Bytes) :
    readEvents seen [] (Utf8.encode d.rootWritten ++ rest) =
      readEvents (d.rootEvents.reverse ++ seen) [] rest := by
  simp only [rootWritten, Utf8.encode_append, List.append_assoc, encode_open, encode_openEnd,
    encode_close, List.cons_append, List.nil_append]
  rw [show Utf8.encode d.root.text = d.root.bytes from rfl,
    readEvents_eq (next?_start d.root _ (d.tag?_rootTail _) d.getLast?_rootTail_ne)]
  dsimp only
  rw [d.ofInside_rootTag, readEvents_content _ _ _ (ends_tag _)]
  rw [show d.rootTag.name = d.root.bytes from rfl, readEvents_closing]
  simp only [rootEvents, List.reverse_cons, List.reverse_append, List.reverse_nil,
    List.nil_append, List.append_assoc, List.cons_append]

/-- **The events of a document that was written**, with blanks around it. -/
theorem events_written {front back : String} (hfront : front.toList.all isXmlBlank = true)
    (hback : back.toList.all isXmlBlank = true) :
    events (Utf8.encode (front ++ d.written ++ back)) =
      textEvents front.toList ++ (textEvents d.gap.toList ++
        (d.rootEvents ++ textEvents back.toList)) := by
  have hends : Ends (Utf8.encode d.rootWritten ++ Utf8.encode back) := by
    intro b hb
    simp only [rootWritten, Utf8.encode_append, List.append_assoc] at hb
    exact (Option.some.inj hb).symm
  have hlast (seen : List Event) :
      readEvents seen [] (Utf8.encode back) = seen.reverse ++ textEvents back.toList := by
    have hread := readEvents_blank seen [] hback ends_nil
    rw [List.append_nil] at hread
    rw [hread, readEvents]
    simp [Token.next?]
  have hbom : strip? byteOrderMark (Utf8.encode (front ++ d.written ++ back)) = none := by
    cases hprolog : d.prolog with
    | none =>
        have hwritten : front ++ d.written ++ back = front ++ "<" ++
            (d.root.text ++ d.rootTail ++ ">" ++ d.content.written ++ "</" ++ d.root.text ++ ">" ++
              back) := by
          simp only [written, hprolog, rootWritten, Option.map_none, Option.getD_none,
            String.empty_append, String.append_assoc]
        rw [hwritten]
        exact strip?_byteOrderMark hfront
    | some p =>
        have hwritten : front ++ d.written ++ back = front ++ "<" ++
            ("?" ++ p.instruction ++ "?>" ++ p.gap ++ d.rootWritten ++ back) := by
          have hmark : "<?" = "<" ++ "?" := rfl
          simp only [written, hprolog, Prolog.written, Option.map_some, Option.getD_some, hmark,
            String.append_assoc]
        rw [hwritten]
        exact strip?_byteOrderMark hfront
  rw [events, hbom, Option.getD_none]
  cases hprolog : d.prolog with
  | none =>
      simp only [written, gap, hprolog, Option.map_none, Option.getD_none, String.empty_append,
        Utf8.encode_append, List.append_assoc]
      rw [readEvents_blank _ _ hfront hends, readEvents_rootWritten, hlast]
      simp [textEvents]
  | some p =>
      have hprologEnds : Ends (Utf8.encode p.written ++
          (Utf8.encode d.rootWritten ++ Utf8.encode back)) := by
        intro b hb
        simp only [Prolog.written, Utf8.encode_append, List.append_assoc] at hb
        exact (Option.some.inj hb).symm
      simp only [written, gap, hprolog, Option.map_some, Option.getD_some, Utf8.encode_append,
        List.append_assoc]
      rw [readEvents_blank _ _ hfront hprologEnds, p.readEvents_written _ _ hends,
        readEvents_rootWritten, hlast]
      simp

end Document

end ObjectStore.Xml
