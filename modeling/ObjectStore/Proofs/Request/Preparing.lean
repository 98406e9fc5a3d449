import ObjectStore.Client.Basic
import ObjectStore.Proofs.Http.HeaderTexts
import ObjectStore.Proofs.Text.Utf8

/-!
# Preparing a request

When an operation becomes a request, and which one. What a client adds to the
headers of an operation is visible text but for the name of its key, so a
request is refused for a header of the operation, for the name of the key, or
because its path would not arrive as it was signed.
-/

namespace ObjectStore

/-! ## Visible text -/

def isPlainChar (c : Char) : Bool := 0x20 ≤ c.toNat && c.toNat < 0x7F

def isPlain (s : String) : Bool := s.toList.all isPlainChar

@[simp] theorem plain_append (s t : String) : isPlain (s ++ t) = (isPlain s && isPlain t) := by
  simp only [isPlain, String.toList_append, List.all_append]

theorem isPlainChar_of_isDigit {c : Char} (h : c.isDigit = true) : isPlainChar c = true := by
  have hc : 0x30 ≤ c.toNat ∧ c.toNat ≤ 0x39 := by
    simpa [Char.isDigit, UInt32.le_iff_toNat_le] using h
  simp only [isPlainChar, Bool.and_eq_true, decide_eq_true_eq]
  omega

theorem isValue_of_plain {s : String} (h : isPlain s = true) :
    (Utf8.encode s).all Header.isValueByte = true := by
  unfold isPlain at h
  unfold Utf8.encode
  rw [List.all_eq_true] at h ⊢
  intro b hb
  obtain ⟨c, hc, hbc⟩ := List.mem_flatMap.mp hb
  have hplain := h c hc
  simp only [isPlainChar, Bool.and_eq_true, decide_eq_true_eq] at hplain
  rw [Utf8.encodeChar_ascii (by omega), List.mem_singleton] at hbc
  subst hbc
  have hto : (UInt8.ofNat c.toNat).toNat = c.toNat := by
    rw [UInt8.toNat_ofNat']
    omega
  have hspace : (0x20 : UInt8) ≤ UInt8.ofNat c.toNat := by
    rw [UInt8.le_iff_toNat_le, hto]
    exact hplain.1
  have hdelete : UInt8.ofNat c.toNat ≠ 0x7F := by
    intro heq
    rw [heq] at hto
    exact absurd hplain.2 (by rw [← hto]; decide)
  simp only [Header.isValueByte, Bool.or_eq_true, Bool.and_eq_true, decide_eq_true_eq,
    bne_iff_ne]
  exact Or.inr ⟨hspace, hdelete⟩

theorem plain_padded (width n : Nat) : isPlain (Decimal.padded width n) = true := by
  simp only [isPlain, Decimal.padded, String.toList_ofList, List.all_append, Bool.and_eq_true]
  constructor
  · rw [List.all_replicate]
    split <;> rfl
  · rw [List.all_eq_true]
    intro c hc
    exact isPlainChar_of_isDigit (Nat.isDigit_of_mem_toDigits (by omega) (by omega) hc)

theorem plain_getD {texts : List String} (h : texts.all isPlain = true) (i : Nat) :
    isPlain (texts.getD i "") = true := by
  rw [List.getD_eq_getElem?_getD]
  cases hi : texts[i]? with
  | none => rfl
  | some s =>
      rw [List.all_eq_true] at h
      exact h s (List.mem_of_getElem? hi)

theorem plain_format (i : Instant) : isPlain (HttpDate.format i) = true := by
  have hyear : isPlain (HttpDate.yearText i.date.year) = true := by
    unfold HttpDate.yearText
    split
    · rw [plain_append, plain_padded]
      rfl
    · exact plain_padded _ _
  have hweekday := plain_getD (show HttpDate.weekdays.all isPlain = true by decide) i.weekday
  have hmonth := plain_getD (show HttpDate.months.all isPlain = true by decide)
    (i.date.month - 1)
  simp only [HttpDate.format, plain_append, plain_padded, hyear, hweekday, hmonth]
  decide

theorem isPlainChar_letter (n : Nat) : isPlainChar (Base64.letter n) = true := by
  have hsmall : ∀ n < 64, isPlainChar (Base64.letter n) = true := by decide
  by_cases h : n < 64
  · exact hsmall n h
  · unfold Base64.letter
    rw [if_neg (by omega), if_neg (by omega), if_neg (by omega), if_neg (by omega)]
    rfl

theorem plain_toString (n : Nat) : isPlain (toString n) = true := by
  show isPlain (Nat.repr n) = true
  simp only [isPlain, Nat.repr, String.toList_ofList, List.all_eq_true]
  intro c hc
  exact isPlainChar_of_isDigit (Nat.isDigit_of_mem_toDigits (by omega) (by omega) hc)

theorem plain_base64 (bs : Bytes) : isPlain (Base64.encode bs) = true := by
  simp only [isPlain, Base64.encode, String.toList_ofList]
  fun_induction Base64.encodeChars bs with
  | case1 => rfl
  | case2 => simp only [List.all_cons, isPlainChar_letter]; rfl
  | case3 => simp only [List.all_cons, isPlainChar_letter]; rfl
  | case4 a b c rest n ih => simp only [List.all_cons, isPlainChar_letter, ih, Bool.and_self]

theorem Url.path_withParameters (u : Url) (ps : List (String × Option String)) :
    (u.withParameters ps).path = u.path := by
  unfold withParameters
  split <;> rfl

/-! ## Headers that are added -/

namespace Header

theorem fault?_of_plain {name value : String} (hname : ValidName name)
    (hvalue : isPlain value = true) : fault? (name, value) = none := by
  rw [fault?, if_pos hname, if_pos (isValue_of_plain hvalue)]

/-- A signature can be sent if the name of the key can. -/
theorem fault?_authorization (who : Credentials) (op : Operation) (now : Instant) :
    fault? ("authorization", Signature.authorization who op now) =
      fault? ("authorization", who.keyId) := by
  have hscheme : (Utf8.encode "AWS ").all isValueByte = true := isValue_of_plain (by decide)
  have hcolon : (Utf8.encode ":").all isValueByte = true := isValue_of_plain (by decide)
  have hsign (text : String) :
      (Utf8.encode (Signature.sign who.secret text)).all isValueByte = true :=
    isValue_of_plain (plain_base64 _)
  simp only [fault?, Signature.authorization, Utf8.encode_append, List.all_append, hscheme,
    hcolon, hsign, Bool.true_and, Bool.and_true]

end Header

/-- The names of the headers that a client adds. -/
def Header.isAdded (name : String) : Bool :=
  name == "date" || name == "authorization" || name == "content-length"

namespace Client

variable {c : Client} {op : Operation} {now : Instant}

/-- A header that a client adds: the date, the signature, or the length of a
stream. -/
inductive AddedHeader (c : Client) (op : Operation) (now : Instant) : String → String → Prop where
  | date : AddedHeader c op now "date" (HttpDate.format now)
  | authorization : AddedHeader c op now "authorization"
      (Signature.authorization c.credentials op now)
  | length (n : Nat) : AddedHeader c op now "content-length" (toString n)

theorem AddedHeader.isAdded {name value : String} (h : AddedHeader c op now name value) :
    Header.isAdded name = true := by
  cases h <;> rfl

theorem sentHeaders_induction {P : SortedMap String → Prop} (hop : P op.headers)
    (hadd : ∀ m name value, P m → AddedHeader c op now name value → P (m.insert name value)) :
    P (c.sentHeaders op now) := by
  have hsigned := hadd _ _ _ (hadd _ _ _ hop .date) .authorization
  unfold sentHeaders
  split
  · next length _ => exact hadd _ _ _ hsigned (.length length)
  · exact hsigned

theorem lowerCase_sentHeaders (h : LowerCase op.headers) : LowerCase (c.sentHeaders op now) := by
  apply sentHeaders_induction (P := LowerCase) h
  intro m name value hm hadded
  refine hm.insert ?_ value
  cases hadded <;> decide

theorem mem_sentHeaders {p : String × String} (h : p ∈ (c.sentHeaders op now).entries) :
    p ∈ op.headers.entries ∨ AddedHeader c op now p.1 p.2 := by
  revert h
  apply sentHeaders_induction
    (P := fun m => p ∈ m.entries → p ∈ op.headers.entries ∨ AddedHeader c op now p.1 p.2)
  · exact Or.inl
  · intro m name value hm hadded h
    rcases SortedMap.mem_insert h with rfl | h
    · exact Or.inr hadded
    · exact hm h

/-- Every other header is sent as the operation has it. -/
theorem get?_sentHeaders {name : String} (h : Header.isAdded name = false) :
    (c.sentHeaders op now).get? name = op.headers.get? name := by
  apply sentHeaders_induction (P := fun m => m.get? name = op.headers.get? name)
  · rfl
  · intro m added value hm hadded
    have hne : name ≠ added := by
      rintro rfl
      rw [hadded.isAdded] at h
      cases h
    rw [SortedMap.get?_insert, if_neg hne, hm]

/-- A header that is looked for is not added, if none is looked for that is. -/
theorem isAdded_eq_false {wanted : String → Bool}
    (h : ∀ name, Header.isAdded name = true → wanted name = false) {name : String}
    (hname : wanted name = true) : Header.isAdded name = false := by
  cases hadded : Header.isAdded name with
  | false => rfl
  | true =>
      rw [h name hadded] at hname
      cases hname

theorem filter_sentHeaders {wanted : String → Bool}
    (h : ∀ name, Header.isAdded name = true → wanted name = false) :
    (c.sentHeaders op now).entries.filter (fun p => wanted p.1) =
      op.headers.entries.filter fun p => wanted p.1 := by
  apply sentHeaders_induction (P := fun m => m.entries.filter (fun p => wanted p.1) =
    op.headers.entries.filter fun p => wanted p.1)
  · rfl
  · intro m name value hm hadded
    rw [SortedMap.filter_insert m (h name hadded.isAdded), hm]

theorem get?_sentHeaders_date :
    (c.sentHeaders op now).get? "date" = some (HttpDate.format now) := by
  unfold sentHeaders
  split
  · rw [SortedMap.get?_insert, if_neg (by decide), SortedMap.get?_insert, if_neg (by decide),
      SortedMap.get?_insert, if_pos rfl]
  · rw [SortedMap.get?_insert, if_neg (by decide), SortedMap.get?_insert, if_pos rfl]

theorem get?_sentHeaders_authorization :
    (c.sentHeaders op now).get? "authorization" =
      some (Signature.authorization c.credentials op now) := by
  unfold sentHeaders
  split
  · rw [SortedMap.get?_insert, if_neg (by decide), SortedMap.get?_insert, if_pos rfl]
  · rw [SortedMap.get?_insert, if_pos rfl]

/-! ## Requests -/

/-- What becomes of an operation: the first fault of its headers, a path
that would not arrive, or a request. -/
theorem prepare_eq (h : LowerCase op.headers) :
    c.prepare op now =
      match (c.sentHeaders op now).entries.findSome? Header.fault? with
      | some e => .error (.header e)
      | none =>
        let placed := c.endpoint.withPath op.path
        if placed.path = op.path then
          .ok ⟨op.verb, placed.withParameters op.query.entries,
            .ofSorted (c.sentHeaders op now), op.body⟩
        else .error (.request (.pathChanged op.path placed.path)) := by
  unfold prepare
  rw [HeaderMap.ofTexts_of_lowerCase (lowerCase_sentHeaders h)]
  cases (c.sentHeaders op now).entries.findSome? Header.fault? <;> rfl

/-- The headers of a request can be sent. -/
def HeadersFit (c : Client) (op : Operation) (now : Instant) : Prop :=
  ∃ headers, HeaderMap.ofTexts (c.sentHeaders op now).entries = .ok headers

/-- A request is refused because of its path if its headers can be sent and its
path does not arrive. -/
theorem prepare_pathChanged_iff :
    (∃ resource sent, c.prepare op now = .error (.request (.pathChanged resource sent))) ↔
      c.HeadersFit op now ∧ (c.endpoint.withPath op.path).path ≠ op.path := by
  unfold prepare HeadersFit
  cases HeaderMap.ofTexts (c.sentHeaders op now).entries with
  | error e => simp
  | ok headers =>
      by_cases hpath : (c.endpoint.withPath op.path).path = op.path <;> simp [hpath]

theorem exists_headers_of_prepare {r : Request} :
    c.prepare op now = .ok r ↔
      ∃ headers, HeaderMap.ofTexts (c.sentHeaders op now).entries = .ok headers ∧
        (c.endpoint.withPath op.path).path = op.path ∧
        r = ⟨op.verb, (c.endpoint.withPath op.path).withParameters op.query.entries, headers,
          op.body⟩ := by
  unfold prepare
  cases HeaderMap.ofTexts (c.sentHeaders op now).entries with
  | error e => simp
  | ok headers =>
      by_cases hpath : (c.endpoint.withPath op.path).path = op.path
      · simp [hpath, eq_comm]
      · simp [hpath]

theorem exists_prepare_iff :
    (∃ r, c.prepare op now = .ok r) ↔
      c.HeadersFit op now ∧ (c.endpoint.withPath op.path).path = op.path := by
  simp only [exists_headers_of_prepare, HeadersFit]
  constructor
  · rintro ⟨r, headers, hheaders, hpath, -⟩
    exact ⟨⟨headers, hheaders⟩, hpath⟩
  · rintro ⟨⟨headers, hheaders⟩, hpath⟩
    exact ⟨_, headers, hheaders, hpath, rfl⟩

theorem path_of_prepare {r : Request} (h : c.prepare op now = .ok r) :
    r.url.path = op.path ∧ (c.endpoint.withPath op.path).path = op.path := by
  obtain ⟨headers, -, hpath, rfl⟩ := exists_headers_of_prepare.mp h
  exact ⟨(Url.path_withParameters _ _).trans hpath, hpath⟩

/-- **When there is a request, and what it is made of.** -/
theorem prepare_eq_ok_iff (h : LowerCase op.headers) {request : Request} :
    c.prepare op now = .ok request ↔
      (∀ p ∈ (c.sentHeaders op now).entries, Header.fault? p = none) ∧
      (c.endpoint.withPath op.path).path = op.path ∧
      request = ⟨op.verb, (c.endpoint.withPath op.path).withParameters op.query.entries,
        .ofSorted (c.sentHeaders op now), op.body⟩ := by
  rw [prepare_eq h, ← List.findSome?_eq_none_iff]
  constructor
  · intro hok
    split at hok
    · cases hok
    · next hfault =>
        dsimp only at hok
        split at hok
        · next hpath => exact ⟨hfault, hpath, (Except.ok.inj hok).symm⟩
        · cases hok
  · rintro ⟨hfault, hpath, rfl⟩
    rw [hfault]
    exact if_pos hpath

theorem fault?_eq_none_of_prepare {r : Request} (hop : LowerCase op.headers)
    (h : c.prepare op now = .ok r) {name value : String} (hkept : Header.isAdded name = false)
    (hget : op.headers.get? name = some value) : Header.fault? (name, value) = none := by
  obtain ⟨hfit, -, -⟩ := (prepare_eq_ok_iff hop).mp h
  refine hfit (name, value) (SortedMap.mem_entries_iff.mpr ?_)
  rw [get?_sentHeaders hkept, hget]

/-- An operation becomes a request if its headers and the name of the key can
be sent and its path arrives. -/
theorem exists_request (h : LowerCase op.headers)
    (hheaders : ∀ p ∈ op.headers.entries, Header.fault? p = none)
    (hkey : Header.fault? ("authorization", c.credentials.keyId) = none)
    (hpath : (c.endpoint.withPath op.path).path = op.path) :
    ∃ request, c.prepare op now = .ok request := by
  refine ⟨_, (prepare_eq_ok_iff h).mpr ⟨?_, hpath, rfl⟩⟩
  rintro ⟨name, value⟩ hp
  rcases mem_sentHeaders hp with hp | hadded
  · exact hheaders _ hp
  · replace hadded : AddedHeader c op now name value := hadded
    cases hadded with
    | date => exact Header.fault?_of_plain (by decide) (plain_format now)
    | authorization => exact (Header.fault?_authorization _ _ _).trans hkey
    | length n => exact Header.fault?_of_plain (by decide) (plain_toString n)

theorem send_eq_sending {request : Request} (h : c.prepare op now = .ok request)
    (wantsBody : Bool) :
    c.send op wantsBody now = .sending request (c.settle op.path wantsBody) := by
  rw [send, h]

def ofLocalService (errorLimit : Nat) : Client :=
  ⟨⟨"key", "secret"⟩, ⟨"http", some ⟨"", "localhost", none⟩, false, "/", none, none⟩, errorLimit⟩

theorem exists_request_ofLocalService (errorLimit : Nat) :
    ∃ request, (ofLocalService errorLimit).prepare (.ofVerb .get) ⟨0⟩ = .ok request := by
  have hkey : Header.fault? ("authorization", "key") = none := by decide
  have hpath : ((ofLocalService 0).endpoint.withPath "/").path = "/" := by decide +kernel
  exact exists_request LowerCase.empty (by decide) hkey hpath

end Client

end ObjectStore
