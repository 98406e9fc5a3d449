import ObjectStore.Text.Utf8

/-!
# The tokens of an XML document

A document is read token by token: tags, text, references, the document type,
and what carries no content (comments and instructions). A section of character
data is text. Only the outline is checked here. A tag ends at the first `>`
outside quotes, a reference has to be closed by a semicolon, and brackets inside
the document type are balanced. There is no token at the end of the input and
none where the outline is broken; the reader above treats both alike.
-/

namespace ObjectStore.Xml

/-- A token and what it holds, in raw bytes. A tag is everything between its
brackets. -/
inductive Token where
  | opening (tag : Bytes)
  | selfClosing (tag : Bytes)
  | closing (name : Bytes)
  | text (raw : Bytes)
  | reference (name : Bytes)
  | documentType
  | aside
  deriving DecidableEq, Repr

def isBlankByte (b : UInt8) : Bool := b == 0x20 || b == 0x09 || b == 0x0D || b == 0x0A

abbrev lessThan : UInt8 := 0x3C
abbrev greaterThan : UInt8 := 0x3E
abbrev ampersand : UInt8 := 0x26
abbrev semicolon : UInt8 := 0x3B
abbrev slash : UInt8 := 0x2F
abbrev questionMark : UInt8 := 0x3F
abbrev exclamationMark : UInt8 := 0x21
abbrev doubleQuote : UInt8 := 0x22
abbrev singleQuote : UInt8 := 0x27

/-- What stands before the first occurrence of a mark, and what follows it. -/
def before? (mark : Bytes) : Bytes → Option (Bytes × Bytes)
  | [] => none
  | b :: bs =>
    if mark.isPrefixOf (b :: bs) then some ([], (b :: bs).drop mark.length)
    else (before? mark bs).map fun p => (b :: p.1, p.2)

/-- The inside of a tag and what follows its bracket. Inside quotes, `>` is
text. -/
def tag? : Option UInt8 → Bytes → Option (Bytes × Bytes)
  | _, [] => none
  | none, b :: bs =>
    if b = greaterThan then some ([], bs)
    else
      let quote := if b = doubleQuote ∨ b = singleQuote then some b else none
      (tag? quote bs).map fun p => (b :: p.1, p.2)
  | some q, b :: bs =>
    (tag? (if b = q then none else some q) bs).map fun p => (b :: p.1, p.2)

/-- The inside of a document type, up to the bracket that closes it. -/
def balanced? : Nat → Bytes → Option (Bytes × Bytes)
  | _, [] => none
  | depth, b :: bs =>
    if b = greaterThan then
      match depth with
      | 0 => some ([], bs)
      | depth + 1 => (balanced? depth bs).map fun p => (b :: p.1, p.2)
    else
      (balanced? (if b = lessThan then depth + 1 else depth) bs).map fun p => (b :: p.1, p.2)

def strip? (mark bs : Bytes) : Option Bytes :=
  if mark.isPrefixOf bs then some (bs.drop mark.length) else none

def trimEnd (bs : Bytes) : Bytes := (bs.reverse.dropWhile isBlankByte).reverse

def lowerCase (bs : Bytes) : Bytes :=
  bs.map fun b => if 0x41 ≤ b ∧ b ≤ 0x5A then b + 0x20 else b

/-- A token that opens with `<!`. -/
def declaration? (bs : Bytes) : Option (Token × Bytes) :=
  match bs with
  | 0x5B :: _ => do
    let rest ← strip? (Utf8.encode "[CDATA[") bs
    let (raw, rest) ← before? (Utf8.encode "]]>") rest
    return (.text raw, rest)
  | 0x2D :: _ => do
    let rest ← strip? (Utf8.encode "--") bs
    let (_, rest) ← before? (Utf8.encode "-->") rest
    return (.aside, rest)
  | _ => do
    let (inside, rest) ← balanced? 0 bs
    let named := lowerCase (inside.take 7) = Utf8.encode "doctype"
    if named ∧ (inside.drop 7).any (fun b => !isBlankByte b) then return (.documentType, rest)
    else none

/-- A token that opens with `<`. -/
def markup? (bs : Bytes) : Option (Token × Bytes) :=
  match bs with
  | [] => none
  | b :: rest =>
    if b = exclamationMark then declaration? rest
    else if b = slash then do
      let (inside, rest) ← tag? none rest
      let name := trimEnd inside
      return (.closing (if name = [] then inside else name), rest)
    else if b = questionMark then
      if rest.head? = some greaterThan then none
      else do
        let (_, rest) ← before? (Utf8.encode "?>") rest
        return (.aside, rest)
    else do
      let (inside, rest) ← tag? none bs
      if inside.getLast? = some slash then return (.selfClosing inside.dropLast, rest)
      else return (.opening inside, rest)

def isTextByte (b : UInt8) : Bool := b != lessThan && b != ampersand

def isReferenceByte (b : UInt8) : Bool := b != semicolon && isTextByte b

def reference? (bs : Bytes) : Option (Token × Bytes) :=
  match bs.dropWhile isReferenceByte with
  | [] => none
  | b :: rest =>
    if b = semicolon then some (.reference (bs.takeWhile isReferenceByte), rest) else none

/-- The first token of a document, and what follows it. -/
def Token.next? (bs : Bytes) : Option (Token × Bytes) :=
  match bs with
  | [] => none
  | b :: rest =>
    if b = lessThan then markup? rest
    else if b = ampersand then reference? rest
    else some (.text (b :: rest.takeWhile isTextByte), rest.dropWhile isTextByte)

/-! ## Every token takes something -/

theorem length_before?_le {mark bs : Bytes} {p : Bytes × Bytes}
    (h : before? mark bs = some p) : p.2.length ≤ bs.length := by
  induction bs generalizing p with
  | nil => simp [before?] at h
  | cons b bs ih =>
      unfold before? at h
      split at h
      · obtain rfl := Option.some.inj h
        simp
      · obtain ⟨q, hq, rfl⟩ := Option.map_eq_some_iff.mp h
        have := ih hq
        simp only [List.length_cons]
        omega

theorem length_tag?_le {quote : Option UInt8} {bs : Bytes} {p : Bytes × Bytes}
    (h : tag? quote bs = some p) : p.2.length ≤ bs.length := by
  induction bs generalizing quote p with
  | nil => simp [tag?] at h
  | cons b bs ih =>
      cases quote with
      | none =>
          unfold tag? at h
          split at h
          · obtain rfl := Option.some.inj h
            simp
          · obtain ⟨q, hq, rfl⟩ := Option.map_eq_some_iff.mp h
            have := ih hq
            simp only [List.length_cons]
            omega
      | some quote =>
          unfold tag? at h
          obtain ⟨q, hq, rfl⟩ := Option.map_eq_some_iff.mp h
          have := ih hq
          simp only [List.length_cons]
          omega

theorem length_balanced?_le {depth : Nat} {bs : Bytes} {p : Bytes × Bytes}
    (h : balanced? depth bs = some p) : p.2.length ≤ bs.length := by
  induction bs generalizing depth p with
  | nil => simp [balanced?] at h
  | cons b bs ih =>
      unfold balanced? at h
      split at h
      · split at h
        · obtain rfl := Option.some.inj h
          simp
        · obtain ⟨q, hq, rfl⟩ := Option.map_eq_some_iff.mp h
          have := ih hq
          simp only [List.length_cons]
          omega
      · obtain ⟨q, hq, rfl⟩ := Option.map_eq_some_iff.mp h
        have := ih hq
        simp only [List.length_cons]
        omega

theorem length_strip?_le {mark bs rest : Bytes} (h : strip? mark bs = some rest) :
    rest.length ≤ bs.length := by
  unfold strip? at h
  split at h
  · obtain rfl := Option.some.inj h
    simp
  · simp at h

theorem length_dropWhile_le (p : UInt8 → Bool) (bs : Bytes) :
    (bs.dropWhile p).length ≤ bs.length :=
  (List.dropWhile_sublist p).length_le

theorem length_reference?_le {bs : Bytes} {p : Token × Bytes}
    (h : reference? bs = some p) : p.2.length ≤ bs.length := by
  have hle := length_dropWhile_le isReferenceByte bs
  unfold reference? at h
  split at h
  · simp at h
  · next heq =>
      rw [heq] at hle
      split at h
      · obtain rfl := Option.some.inj h
        simp only [List.length_cons] at hle ⊢
        omega
      · simp at h

theorem length_declaration?_le {bs : Bytes} {p : Token × Bytes}
    (h : declaration? bs = some p) : p.2.length ≤ bs.length := by
  unfold declaration? at h
  split at h
  · simp only [Option.bind_eq_bind, Option.bind_eq_some_iff, Option.pure_def,
      Option.some.injEq] at h
    obtain ⟨r, hr, q, hq, rfl⟩ := h
    exact Nat.le_trans (length_before?_le hq) (length_strip?_le hr)
  · simp only [Option.bind_eq_bind, Option.bind_eq_some_iff, Option.pure_def,
      Option.some.injEq] at h
    obtain ⟨r, hr, q, hq, rfl⟩ := h
    exact Nat.le_trans (length_before?_le hq) (length_strip?_le hr)
  · simp only [Option.bind_eq_bind, Option.bind_eq_some_iff] at h
    obtain ⟨q, hq, h⟩ := h
    split at h
    · obtain rfl := Option.some.inj h
      exact length_balanced?_le hq
    · simp at h

theorem length_markup?_le {bs : Bytes} {p : Token × Bytes}
    (h : markup? bs = some p) : p.2.length ≤ bs.length := by
  cases bs with
  | nil => simp [markup?] at h
  | cons b rest =>
      unfold markup? at h
      simp only at h
      split at h
      · exact Nat.le_succ_of_le (length_declaration?_le h)
      · split at h
        · simp only [Option.bind_eq_bind, Option.bind_eq_some_iff, Option.pure_def,
            Option.some.injEq] at h
          obtain ⟨q, hq, rfl⟩ := h
          exact Nat.le_succ_of_le (length_tag?_le hq)
        · split at h
          · split at h
            · simp at h
            · simp only [Option.bind_eq_bind, Option.bind_eq_some_iff, Option.pure_def,
                Option.some.injEq] at h
              obtain ⟨q, hq, rfl⟩ := h
              exact Nat.le_succ_of_le (length_before?_le hq)
          · simp only [Option.bind_eq_bind, Option.bind_eq_some_iff] at h
            obtain ⟨q, hq, h⟩ := h
            split at h <;>
              · obtain rfl := Option.some.inj h
                exact length_tag?_le hq

theorem Token.length_next?_lt {bs : Bytes} {p : Token × Bytes}
    (h : Token.next? bs = some p) : p.2.length < bs.length := by
  cases bs with
  | nil => simp [Token.next?] at h
  | cons b rest =>
      unfold Token.next? at h
      simp only at h
      split at h
      · exact Nat.lt_succ_of_le (length_markup?_le h)
      · split at h
        · exact Nat.lt_succ_of_le (length_reference?_le h)
        · obtain rfl := Option.some.inj h
          exact Nat.lt_succ_of_le (length_dropWhile_le isTextByte rest)

end ObjectStore.Xml
