import ObjectStore.Proofs.Request.Instants

/-!
# Requests without their signatures

The key with which a request is signed goes into the last twenty-eight
characters of one header, and nowhere else. Two clients that differ in this key
alone refuse the same operations for the same reasons, and send the same
requests up to these characters.
-/

namespace ObjectStore

/-! ## Other keys -/

/-- The same name of a key with another key. -/
def Credentials.withSecret (who : Credentials) (secret : String) : Credentials :=
  { who with secret := secret }

def Client.withSecret (c : Client) (secret : String) : Client :=
  { c with credentials := c.credentials.withSecret secret }

/-! ## Signatures in requests -/

def Base64.isLetter (c : Char) : Bool := c.isAlphanum || c == '+' || c == '/' || c == '='

theorem Base64.isLetter_letter (n : Nat) : isLetter (letter n) = true := by
  have hsmall : ∀ n < 64, isLetter (letter n) = true := by decide
  by_cases h : n < 64
  · exact hsmall n h
  · unfold letter
    rw [if_neg (by omega), if_neg (by omega), if_neg (by omega), if_neg (by omega)]
    rfl

theorem Base64.isLetter_encode (bs : Bytes) : (encode bs).toList.all isLetter = true := by
  simp only [encode, String.toList_ofList]
  fun_induction encodeChars bs with
  | case1 => rfl
  | case2 => simp only [List.all_cons, isLetter_letter]; rfl
  | case3 => simp only [List.all_cons, isLetter_letter]; rfl
  | case4 a b c rest n ih => simp only [List.all_cons, isLetter_letter, ih, Bool.and_self]

def Signature.size : Nat := 28

def Header.unsignedValue (value : Bytes) : Bytes := value.take (value.length - Signature.size)

def Header.unsigned (e : String × List Bytes) : String × List Bytes :=
  if e.1 = "authorization" then (e.1, e.2.map unsignedValue) else e

def HeaderMap.unsigned (m : HeaderMap) : HeaderMap := ⟨m.entries.map Header.unsigned⟩

namespace Request

/-- A request without its signature. -/
def unsigned (r : Request) : Request := { r with headers := r.headers.unsigned }

/-- A request is signed: its one header `authorization` names a key and ends
in a signature. -/
def Signed (r : Request) : Prop :=
  ∃ keyId signature : String,
    r.headers.getAll "authorization" = [Utf8.encode ("AWS " ++ keyId ++ ":" ++ signature)] ∧
      signature.length = Signature.size ∧ signature.toList.all Base64.isLetter = true

/-- Two signed requests are the same but for their signatures. -/
structure SameButSignature (r r' : Request) : Prop where
  same : r.unsigned = r'.unsigned
  signed : r.Signed
  signed' : r'.Signed

end Request

/-! ## What the key changes -/

namespace Signature

theorem length_encode_sign (secret text : String) :
    (Utf8.encode (sign secret text)).length = size := by
  have hascii : ∀ c ∈ (sign secret text).toList, c.toNat < 0x80 := by
    intro c hc
    have hplain := List.all_eq_true.mp (plain_base64 _) c hc
    simp only [isPlainChar, Bool.and_eq_true, decide_eq_true_eq] at hplain
    omega
  rw [← String.ofList_toList (s := sign secret text), Utf8.encode_ofList,
    Utf8.encodeChars_ascii hascii, List.length_map, String.length_toList]
  exact length_sign secret text

/-- Without its signature the header shows the name of the key alone. -/
theorem unsignedValue_authorization (who : Credentials) (op : Operation) (now : Instant) :
    Header.unsignedValue (Utf8.encode (authorization who op now)) =
      Utf8.encode ("AWS " ++ who.keyId ++ ":") := by
  rw [authorization, Utf8.encode_append, Header.unsignedValue, List.length_append,
    length_encode_sign, Nat.add_sub_cancel, List.take_left]

end Signature

/-- Two headers that are equally good, and the same but for a signature. -/
def Header.SameButSignature (p q : String × String) : Prop :=
  Header.Alike p q ∧
    Header.unsigned (p.1, [Utf8.encode p.2]) = Header.unsigned (q.1, [Utf8.encode q.2])

theorem Header.SameButSignature.refl (p : String × String) : Header.SameButSignature p p :=
  ⟨.refl p, rfl⟩

theorem Header.sameButSignature_authorization (who : Credentials) (secret : String)
    (op : Operation) (now : Instant) :
    Header.SameButSignature ("authorization", Signature.authorization who op now)
      ("authorization", Signature.authorization (who.withSecret secret) op now) := by
  refine ⟨⟨rfl, ?_, fun h => by cases h⟩, ?_⟩
  · rw [Header.fault?_authorization, Header.fault?_authorization]
    rfl
  · simp only [Header.unsigned, if_true, List.map_cons, List.map_nil,
      Signature.unsignedValue_authorization]
    rfl

namespace Client

variable (c : Client) (secret : String)

theorem sentHeaders_withSecret (op : Operation) (now : Instant) :
    List.Forall₂ Header.SameButSignature (c.sentHeaders op now).entries
      ((c.withSecret secret).sentHeaders op now).entries := by
  have hkey (p q : String × String) (h : Header.SameButSignature p q) : p.1 = q.1 := h.1.1
  have hdated := List.forall₂_same.mpr fun p
    (_ : p ∈ (op.headers.insert "date" (HttpDate.format now)).entries) =>
      Header.SameButSignature.refl p
  have hsigned := SortedMap.forall₂_insertEntry hkey
    (Header.sameButSignature_authorization c.credentials secret op now) hdated
  unfold sentHeaders
  split
  · exact SortedMap.forall₂_insertEntry hkey (Header.SameButSignature.refl _) hsigned
  · exact hsigned

theorem signed_of_prepare {op : Operation} (h : LowerCase op.headers) {now : Instant}
    {r : Request} (hr : c.prepare op now = .ok r) : r.Signed := by
  obtain ⟨-, -, rfl⟩ := (prepare_eq_ok_iff h).mp hr
  let signature := Signature.sign c.credentials.secret
    (Signature.signedText op (HttpDate.format now))
  refine ⟨c.credentials.keyId, signature, ?_, Signature.length_sign _ _,
    Base64.isLetter_encode _⟩
  rw [HeaderMap.getAll_ofSorted, get?_sentHeaders_authorization]
  rfl

theorem unsigned_ofSorted {headers headers' : SortedMap String}
    (h : List.Forall₂ Header.SameButSignature headers.entries headers'.entries) :
    (HeaderMap.ofSorted headers).unsigned = (HeaderMap.ofSorted headers').unsigned := by
  simp only [HeaderMap.unsigned, HeaderMap.ofSorted, List.map_map, HeaderMap.mk.injEq]
  generalize headers.entries = l, headers'.entries = l' at h
  induction h with
  | nil => rfl
  | cons hpq _ ih => exact List.cons_eq_cons.mpr ⟨hpq.2, ih⟩

/-- **With another key an operation is refused alike, or the requests are the
same but for their signatures.** -/
theorem unsigned_prepare {op : Operation} (h : LowerCase op.headers) (now : Instant) :
    ((c.withSecret secret).prepare op now).map Request.unsigned =
      (c.prepare op now).map Request.unsigned := by
  have hsent := c.sentHeaders_withSecret secret op now
  have hfaults := findSome?_fault?_of_alike (hsent.imp fun _ _ hpq => hpq.1)
  have hunsigned := unsigned_ofSorted hsent
  rw [prepare_eq h, prepare_eq h, ← hfaults]
  cases (c.sentHeaders op now).entries.findSome? Header.fault? with
  | some e => rfl
  | none =>
      dsimp only
      rw [show (c.withSecret secret).endpoint = c.endpoint from rfl]
      split
      · simp only [Except.map, Request.unsigned, hunsigned]
      · rfl

end Client

end ObjectStore
