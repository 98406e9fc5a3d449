import ObjectStore.Proofs.Text.Utf8
import ObjectStore.Xml.Event

/-!
# Documents as they are written

An XML document is written from what its elements hold: text, in which three
characters become references, and other elements. Its events are read back one
by one. A run of text gives an event for each piece between two references and
for each reference, an element gives its start, what it holds, and its end.
-/

namespace ObjectStore.Xml

/-! ## Text -/

def entity? (c : Char) : Option String :=
  if c = '&' then some "amp"
  else if c = '<' then some "lt"
  else if c = '>' then some "gt"
  else none

def isLiteral (c : Char) : Bool := (entity? c).isNone

theorem entity?_eq_some {c : Char} {name : String} (h : entity? c = some name) :
    (c = '&' ∧ name = "amp") ∨ (c = '<' ∧ name = "lt") ∨ (c = '>' ∧ name = "gt") := by
  unfold entity? at h
  split at h
  · exact .inl ⟨‹_›, (Option.some.inj h).symm⟩
  split at h
  · exact .inr (.inl ⟨‹_›, (Option.some.inj h).symm⟩)
  split at h
  · exact .inr (.inr ⟨‹_›, (Option.some.inj h).symm⟩)
  · cases h

def escapeChar (c : Char) : List Char :=
  match entity? c with
  | some name => '&' :: (name.toList ++ [';'])
  | none => [c]

/-- How a text is written. -/
def escape (s : String) : String := String.ofList (s.toList.flatMap escapeChar)

theorem escapeChars_of_literal {cs : List Char} (h : ∀ c ∈ cs, isLiteral c = true) :
    cs.flatMap escapeChar = cs := by
  induction cs with
  | nil => rfl
  | cons c cs ih =>
      obtain ⟨hc, hcs⟩ := List.forall_mem_cons.mp h
      rw [List.flatMap_cons, ih hcs, escapeChar, Option.isNone_iff_eq_none.mp hc]
      rfl

/-! The marks of tags in bytes. -/

theorem encode_open : Utf8.encode "<" = [lessThan] := rfl

theorem encode_openEnd : Utf8.encode "</" = [lessThan, slash] := rfl

theorem encode_close : Utf8.encode ">" = [greaterThan] := rfl

theorem encode_closeVoid : Utf8.encode "/>" = [slash, greaterThan] := rfl

theorem encode_quote : Utf8.encode "\"" = [doubleQuote] := rfl

abbrev bytesOf (cs : List Char) : Bytes := cs.flatMap String.utf8EncodeChar

def textEvents : List Char → List Event
  | [] => []
  | c :: cs =>
    match entity? c with
    | some name => .reference (Utf8.encode name) :: textEvents cs
    | none =>
      .text (bytesOf (c :: cs.takeWhile isLiteral)) :: textEvents (cs.dropWhile isLiteral)
termination_by cs => cs.length
decreasing_by
  · exact Nat.lt_succ_self _
  · exact Nat.lt_succ_of_le (List.dropWhile_sublist _).length_le

/-- What may follow a text: nothing, or a tag. -/
def Ends (rest : Bytes) : Prop := ∀ b ∈ rest.head?, b = lessThan

theorem ends_nil : Ends [] := fun b hb => by cases hb

theorem ends_tag (rest : Bytes) : Ends (lessThan :: rest) :=
  fun _ hb => (Option.some.inj hb).symm

/-- The bytes of text and the characters that are written as they are, `>`
apart, are the same. -/
theorem agree_isTextByte : Utf8.Agree (fun c => !(c == '<' || c == '&')) isTextByte := by
  have hagree := ((Utf8.agree_beq (a := '<') (by decide)).or
    (Utf8.agree_beq (a := '&') (by decide))).not
  intro c b hb
  refine Eq.trans ?_ (hagree c b hb)
  exact (Bool.not_or _ _).symm

theorem isTextByte_of_literal {cs : List Char} (h : ∀ c ∈ cs, isLiteral c = true) :
    (bytesOf cs).all isTextByte = true := by
  rw [agree_isTextByte.all, List.all_eq_true]
  intro c hc
  have hliteral := h c hc
  by_cases hlt : c = '<'
  · subst hlt
    cases hliteral
  by_cases hamp : c = '&'
  · subst hamp
    cases hliteral
  simp [hlt, hamp]

theorem exists_bytesOf_cons (c : Char) (cs : List Char) : ∃ b bs, bytesOf (c :: cs) = b :: bs := by
  obtain ⟨b, bs, hbytes, -⟩ := Utf8.next_encodeChar c
  exact ⟨b, bs ++ bytesOf cs, by rw [bytesOf, List.flatMap_cons, hbytes, List.cons_append]⟩

theorem next?_literal {c : Char} {cs : List Char} (h : ∀ d ∈ c :: cs, isLiteral d = true)
    {rest : Bytes} (hrest : ∀ b ∈ rest.head?, isTextByte b = false) :
    Token.next? (bytesOf (c :: cs) ++ rest) = some (.text (bytesOf (c :: cs)), rest) := by
  obtain ⟨b, bs, hbytes⟩ := exists_bytesOf_cons c cs
  have hall := isTextByte_of_literal h
  rw [hbytes, List.all_cons, Bool.and_eq_true] at hall
  obtain ⟨hb, hbs⟩ := hall
  simp only [isTextByte, Bool.and_eq_true, bne_iff_ne] at hb
  rw [List.all_eq_true] at hbs
  rw [hbytes, List.cons_append, Token.next?, if_neg hb.1, if_neg hb.2, takeWhile_run hbs hrest,
    dropWhile_run hbs hrest]

theorem next?_reference {c : Char} {name : String} (h : entity? c = some name) (rest : Bytes) :
    Token.next? (bytesOf (escapeChar c) ++ rest) = some (.reference (Utf8.encode name), rest) := by
  unfold escapeChar
  rw [h]
  rcases entity?_eq_some h with ⟨-, rfl⟩ | ⟨-, rfl⟩ | ⟨-, rfl⟩ <;> rfl

/-! ## Events one by one -/

section Steps

variable {seen : List Event} {opened : List Bytes} {bs rest : Bytes}

theorem readEvents_eq {token : Token} (h : Token.next? bs = some (token, rest)) :
    readEvents seen opened bs =
      match token with
      | .opening inside =>
        readEvents (.start (Tag.ofInside inside) :: seen)
          ((Tag.ofInside inside).name :: opened) rest
      | .selfClosing inside =>
        readEvents (.finish (Tag.ofInside inside).name :: .start (Tag.ofInside inside) :: seen)
          opened rest
      | .closing name =>
        match opened with
        | [] => seen.reverse
        | expected :: opened =>
          if name = expected then readEvents (.finish name :: seen) opened rest
          else seen.reverse
      | .text raw => readEvents (.text raw :: seen) opened rest
      | .reference name => readEvents (.reference name :: seen) opened rest
      | .documentType => readEvents (.documentType :: seen) opened rest
      | .aside => readEvents seen opened rest := by
  rw [readEvents]
  split
  · next hnone =>
      rw [h] at hnone
      cases hnone
  · next hsome =>
      rw [h] at hsome
      obtain ⟨rfl, rfl⟩ := Prod.mk.inj (Option.some.inj hsome)
      rfl

/-- A text that was written is read as its events. -/
theorem readEvents_text (cs : List Char) (seen : List Event) (hrest : Ends rest) :
    readEvents seen opened (bytesOf (cs.flatMap escapeChar) ++ rest) =
      readEvents ((textEvents cs).reverse ++ seen) opened rest := by
  fun_induction textEvents cs generalizing seen with
  | case1 => rfl
  | case2 c cs name hname ih =>
      rw [List.flatMap_cons, bytesOf, List.flatMap_append, List.append_assoc,
        readEvents_eq (next?_reference hname _), List.reverse_cons, List.append_assoc]
      exact ih _
  | case3 c cs hname ih =>
      have hc : isLiteral c = true := Option.isNone_iff_eq_none.mpr hname
      have hrun : ∀ d ∈ c :: cs.takeWhile isLiteral, isLiteral d = true :=
        List.forall_mem_cons.mpr ⟨hc, List.all_eq_true.mp List.all_takeWhile⟩
      have hsplit : (c :: cs).flatMap escapeChar =
          (c :: cs.takeWhile isLiteral) ++ (cs.dropWhile isLiteral).flatMap escapeChar := by
        rw [← escapeChars_of_literal hrun, ← List.flatMap_append, List.cons_append,
          List.takeWhile_append_dropWhile]
      rw [hsplit, bytesOf, List.flatMap_append, List.append_assoc,
        readEvents_eq (next?_literal hrun ?_), List.reverse_cons, List.append_assoc]
      · exact ih _
      · -- the run ends at a reference or with the whole text
        cases hdrop : cs.dropWhile isLiteral with
        | nil =>
            intro b hb
            rw [hrest b hb]
            rfl
        | cons d ds =>
            have hd : isLiteral d = false := by
              have hhead := List.head?_dropWhile_not isLiteral cs
              rw [hdrop] at hhead
              exact hhead
            obtain ⟨name, hname⟩ : ∃ name, entity? d = some name := by
              rw [isLiteral, Option.isNone_eq_false_iff, Option.isSome_iff_exists] at hd
              exact hd
            intro b hb
            rw [List.flatMap_cons, escapeChar, hname] at hb
            obtain rfl := Option.some.inj hb
            rfl

end Steps

/-! ## Names -/

/-- The characters of names. They include all that XML allows in a name. -/
def isNameChar (c : Char) : Bool :=
  !(isXmlBlank c || "<>&/=!?\"\x27".toList.contains c)

/-- The name of an element. It may carry a namespace name. -/
structure Name where
  text : String
  nonempty : text ≠ ""
  chars : text.toList.all isNameChar = true
  deriving DecidableEq

namespace Name

def ofText (text : String) (h : (!text.isEmpty && text.toList.all isNameChar) = true) : Name where
  text := text
  nonempty := by
    rintro rfl
    cases h
  chars := (Bool.and_eq_true_iff.mp h).2

variable (n : Name)

def bytes : Bytes := Utf8.encode n.text

def tag : Tag := ⟨n.bytes, []⟩

theorem bytes_ne_nil : n.bytes ≠ [] := by
  intro hnil
  exact n.nonempty (Utf8.encode_injective hnil)

theorem ne_of_mem_bytes {b : UInt8} (hb : b ∈ n.bytes) {mark : UInt8} (hmark : mark.toNat < 0x80)
    (hchar : isNameChar (Char.ofNat mark.toNat) = false) : b ≠ mark := by
  rintro rfl
  have hc := List.all_eq_true.mp n.chars _ (Utf8.mem_of_mem_encode hb hmark)
  rw [hchar] at hc
  cases hc

theorem not_blank_of_mem_bytes {b : UInt8} (hb : b ∈ n.bytes) : isBlankByte b = false := by
  have h (mark : UInt8) (hmark : mark.toNat < 0x80) := n.ne_of_mem_bytes hb hmark
  simp only [isBlankByte, Bool.or_eq_false_iff, beq_eq_false_iff_ne]
  exact ⟨⟨⟨h 0x20 (by decide) (by decide), h 0x09 (by decide) (by decide)⟩,
    h 0x0D (by decide) (by decide)⟩, h 0x0A (by decide) (by decide)⟩

theorem ofInside_append {tail : Bytes} (htail : ∀ b ∈ tail.head?, isBlankByte b = true) :
    Tag.ofInside (n.bytes ++ tail) = ⟨n.bytes, tail⟩ := by
  have hname : ∀ b ∈ n.bytes, (!isBlankByte b) = true := by
    intro b hb
    rw [n.not_blank_of_mem_bytes hb]
    rfl
  have hend : ∀ b ∈ tail.head?, (!isBlankByte b) = false := by
    intro b hb
    rw [htail b hb]
    rfl
  rw [Tag.ofInside, takeWhile_run hname hend, dropWhile_run hname hend]

theorem ofInside_bytes : Tag.ofInside n.bytes = n.tag := by
  have htag := n.ofInside_append fun b (hb : b ∈ ([] : Bytes).head?) => by cases hb
  rwa [List.append_nil] at htag

end Name

/-! ## Tags -/

theorem tag?_plain {bs : Bytes}
    (h : ∀ b ∈ bs, b ≠ greaterThan ∧ b ≠ doubleQuote ∧ b ≠ singleQuote) (rest : Bytes) :
    tag? none (bs ++ rest) = (tag? none rest).map fun p => (bs ++ p.1, p.2) := by
  induction bs with
  | nil => simp
  | cons b bs ih =>
      obtain ⟨⟨hgreater, hdouble, hsingle⟩, hbs⟩ := List.forall_mem_cons.mp h
      rw [List.cons_append, tag?, if_neg hgreater,
        if_neg (fun hquote => hquote.elim hdouble hsingle)]
      dsimp only
      rw [ih hbs, Option.map_map]
      rfl

theorem tag?_quoted {quote : UInt8} {bs : Bytes} (h : quote ∉ bs) (rest : Bytes) :
    tag? (some quote) (bs ++ quote :: rest) =
      (tag? none rest).map fun p => (bs ++ quote :: p.1, p.2) := by
  induction bs with
  | nil =>
      rw [List.nil_append, tag?, if_pos rfl]
      rfl
  | cons b bs ih =>
      rw [List.mem_cons, not_or] at h
      rw [List.cons_append, tag?, if_neg (fun heq => h.1 heq.symm), ih h.2, Option.map_map]
      rfl

section Tags

variable (n : Name)

theorem tag?_name (rest : Bytes) :
    tag? none (n.bytes ++ rest) = (tag? none rest).map fun p => (n.bytes ++ p.1, p.2) := by
  refine tag?_plain (fun b hb => ?_) rest
  exact ⟨n.ne_of_mem_bytes hb (by decide) (by decide), n.ne_of_mem_bytes hb (by decide) (by decide),
    n.ne_of_mem_bytes hb (by decide) (by decide)⟩

theorem next?_name (rest : Bytes) :
    Token.next? (lessThan :: (n.bytes ++ rest)) = do
      let (inside, rest) ← tag? none (n.bytes ++ rest)
      if inside.getLast? = some slash then return (.selfClosing inside.dropLast, rest)
      else return (.opening inside, rest) := by
  have hne (b : UInt8) (hb : b ∈ n.bytes) (mark : UInt8) (hmark : mark.toNat < 0x80)
      (hchar : isNameChar (Char.ofNat mark.toNat) = false) : ¬b = mark :=
    n.ne_of_mem_bytes hb hmark hchar
  cases hbytes : n.bytes with
  | nil => exact absurd hbytes n.bytes_ne_nil
  | cons b bs =>
      have hb : b ∈ n.bytes := hbytes ▸ List.mem_cons_self
      rw [Token.next?, if_pos rfl, List.cons_append, markup?,
        if_neg (hne b hb exclamationMark (by decide) (by decide)),
        if_neg (hne b hb slash (by decide) (by decide)),
        if_neg (hne b hb questionMark (by decide) (by decide))]

theorem next?_start {tail : Bytes} (rest : Bytes)
    (htail : tag? none (tail ++ greaterThan :: rest) = some (tail, rest))
    (hlast : (n.bytes ++ tail).getLast? ≠ some slash) :
    Token.next? (lessThan :: (n.bytes ++ (tail ++ greaterThan :: rest))) =
      some (.opening (n.bytes ++ tail), rest) := by
  rw [next?_name, tag?_name, htail]
  exact if_neg hlast

theorem getLast?_bytes_ne : n.bytes.getLast? ≠ some slash := fun h =>
  n.ne_of_mem_bytes (List.mem_of_getLast? h) (by decide) (by decide) rfl

theorem next?_opening (rest : Bytes) :
    Token.next? (lessThan :: (n.bytes ++ greaterThan :: rest)) =
      some (.opening n.bytes, rest) := by
  have hlast : (n.bytes ++ []).getLast? ≠ some slash := by
    rw [List.append_nil]
    exact getLast?_bytes_ne n
  have hstart := next?_start n rest rfl hlast
  rwa [List.append_nil] at hstart

theorem next?_selfClosing (rest : Bytes) :
    Token.next? (lessThan :: (n.bytes ++ slash :: greaterThan :: rest)) =
      some (.selfClosing n.bytes, rest) := by
  have hinside : tag? none (slash :: greaterThan :: rest) = some ([slash], rest) := rfl
  rw [next?_name, tag?_name, hinside]
  simp

theorem next?_endTag {gap : Bytes} (hgap : ∀ b ∈ gap, isBlankByte b = true) (rest : Bytes) :
    Token.next? (lessThan :: slash :: (n.bytes ++ (gap ++ greaterThan :: rest))) =
      some (.closing n.bytes, rest) := by
  have hplain : ∀ b ∈ gap, b ≠ greaterThan ∧ b ≠ doubleQuote ∧ b ≠ singleQuote := by
    intro b hb
    have hblank := hgap b hb
    refine ⟨?_, ?_, ?_⟩
    all_goals
      rintro rfl
      cases hblank
  have htag : tag? none (n.bytes ++ (gap ++ greaterThan :: rest)) =
      some (n.bytes ++ gap, rest) := by
    rw [tag?_name, tag?_plain hplain]
    exact congrArg (fun bs => some (n.bytes ++ bs, rest)) (List.append_nil _)
  have htrim : trimEnd (n.bytes ++ gap) = n.bytes := by
    have hend : ∀ b ∈ n.bytes.reverse.head?, isBlankByte b = false := fun b hb =>
      n.not_blank_of_mem_bytes (List.mem_reverse.mp (List.mem_of_head? hb))
    rw [trimEnd, List.reverse_append,
      dropWhile_run (fun b hb => hgap b (List.mem_reverse.mp hb)) hend, List.reverse_reverse]
  rw [Token.next?, if_pos rfl, markup?, if_neg (by decide), if_pos rfl, htag]
  simp [htrim, n.bytes_ne_nil]

theorem next?_closing (rest : Bytes) :
    Token.next? (lessThan :: slash :: (n.bytes ++ greaterThan :: rest)) =
      some (.closing n.bytes, rest) :=
  next?_endTag n (fun _ hb => absurd hb List.not_mem_nil) rest

end Tags

/-! ## Content -/

/-- What an element holds: elements, each with the text in front of it, and
the text behind the last of them. An element that holds nothing can be written
with one tag. -/
inductive Content where
  | text (s : String)
  | element (front : String) (name : Name) (inside after : Content)
  | void (front : String) (name : Name) (after : Content)

namespace Content

/-- How content is written. -/
def written : Content → String
  | .text s => escape s
  | .element front name inside after =>
    escape front ++ "<" ++ name.text ++ ">" ++ inside.written ++ "</" ++ name.text ++ ">" ++
      after.written
  | .void front name after => escape front ++ "<" ++ name.text ++ "/>" ++ after.written

def events : Content → List Event
  | .text s => textEvents s.toList
  | .element front name inside after =>
    textEvents front.toList ++
      .start name.tag :: (inside.events ++ .finish name.bytes :: after.events)
  | .void front name after =>
    textEvents front.toList ++ .start name.tag :: .finish name.bytes :: after.events

end Content

section Steps

variable (seen : List Event) (opened : List Bytes) {rest : Bytes}

theorem readEvents_escape (s : String) (hrest : Ends rest) :
    readEvents seen opened (Utf8.encode (escape s) ++ rest) =
      readEvents ((textEvents s.toList).reverse ++ seen) opened rest := by
  rw [escape, Utf8.encode_ofList]
  exact readEvents_text s.toList seen hrest

theorem readEvents_opening (n : Name) :
    readEvents seen opened (lessThan :: (n.bytes ++ greaterThan :: rest)) =
      readEvents (.start n.tag :: seen) (n.bytes :: opened) rest := by
  rw [readEvents_eq (next?_opening n rest)]
  dsimp only
  rw [n.ofInside_bytes]
  rfl

theorem readEvents_selfClosing (n : Name) :
    readEvents seen opened (lessThan :: (n.bytes ++ slash :: greaterThan :: rest)) =
      readEvents (.finish n.bytes :: .start n.tag :: seen) opened rest := by
  rw [readEvents_eq (next?_selfClosing n rest)]
  dsimp only
  rw [n.ofInside_bytes]
  rfl

theorem readEvents_closing (n : Name) :
    readEvents seen (n.bytes :: opened) (lessThan :: slash :: (n.bytes ++ greaterThan :: rest)) =
      readEvents (.finish n.bytes :: seen) opened rest := by
  rw [readEvents_eq (next?_closing n rest)]
  exact if_pos rfl

/-- **Content that was written is read as its events.** -/
theorem readEvents_content (k : Content) (hrest : Ends rest) :
    readEvents seen opened (Utf8.encode k.written ++ rest) =
      readEvents (k.events.reverse ++ seen) opened rest := by
  induction k generalizing seen opened rest with
  | text s => exact readEvents_escape seen opened s hrest
  | element front name inside after ihInside ihAfter =>
      simp only [Content.written, Utf8.encode_append, List.append_assoc, encode_open,
        encode_openEnd, encode_close, List.cons_append, List.nil_append]
      rw [readEvents_escape _ _ _ (ends_tag _)]
      rw [show Utf8.encode name.text = name.bytes from rfl, readEvents_opening,
        ihInside _ _ (ends_tag _), readEvents_closing, ihAfter _ _ hrest]
      simp only [Content.events, List.reverse_append, List.reverse_cons, List.append_assoc,
        List.cons_append, List.nil_append]
  | void front name after ihAfter =>
      simp only [Content.written, Utf8.encode_append, List.append_assoc, encode_open,
        encode_closeVoid, List.cons_append, List.nil_append]
      rw [readEvents_escape _ _ _ (ends_tag _)]
      rw [show Utf8.encode name.text = name.bytes from rfl, readEvents_selfClosing,
        ihAfter _ _ hrest]
      simp only [Content.events, List.reverse_append, List.reverse_cons, List.append_assoc,
        List.cons_append, List.nil_append]

end Steps

end ObjectStore.Xml
