import ObjectStore.Proofs.Request.Verifier
import ObjectStore.Proofs.Text.Trimming

/-!
# Header values as they are received

Whoever receives a header takes the spaces and tabs off the ends of its value. A
verifier therefore signs what is left, while a client signs what was set: the
values of `content-md5` and `content-type` as they stand, and those of the
headers of the service without blanks of any kind at their ends. The two agree
unless a value of the first kind has a space or a tab at an end, or one of the
second kind a blank beyond ASCII.
-/

namespace ObjectStore

/-! ## What is received -/

namespace Header

def isPaddingChar (c : Char) : Bool := c == ' ' || c == '\t'

def isPadding (b : UInt8) : Bool := b == 0x20 || b == 0x09

/-- What is received of a value: the bytes between the padding. -/
def received (value : Bytes) : Bytes := trimBy isPadding value

theorem agree_padding : Utf8.Agree isPaddingChar isPadding :=
  (Utf8.agree_beq (a := ' ') (by decide)).or (Utf8.agree_beq (a := '\t') (by decide))

theorem received_encode (value : String) :
    received (Utf8.encode value) =
      Utf8.encode (String.ofList (trimBy isPaddingChar value.toList)) := by
  rw [Utf8.encode_ofList]
  exact agree_padding.trimBy_flatMap value.toList

theorem isBlank_of_isPaddingChar {c : Char} (h : isPaddingChar c = true) : isBlank c = true := by
  simp only [isPaddingChar, Bool.or_eq_true, beq_iff_eq] at h
  rcases h with rfl | rfl <;> decide

/-- The blanks of ASCII in a value that can be sent are padding. -/
theorem isPaddingChar_of_isBlank {value : String} {c : Char}
    (hvalue : (Utf8.encode value).all isValueByte = true) (hc : c ∈ value.toList)
    (hascii : c.toNat < 0x80) (hblank : isBlank c = true) : isPaddingChar c = true := by
  have hbyte : isValueByte (UInt8.ofNat c.toNat) = true := by
    refine List.all_eq_true.mp hvalue _ (List.mem_flatMap.mpr ⟨c, hc, ?_⟩)
    rw [Utf8.encodeChar_ascii hascii]
    exact List.mem_singleton_self _
  have hall : ∀ n < 0x80, isBlank (Char.ofNat n) = true → isValueByte (UInt8.ofNat n) = true →
      isPaddingChar (Char.ofNat n) = true := by decide
  have hback := hall c.toNat hascii
  rw [Char.ofNat_toNat] at hback
  exact hback hblank hbyte

end Header

/-! ## What is signed -/

namespace Signature

def isSigned (name : String) : Bool :=
  name == "content-md5" || name == "content-type" || isServiceHeader name

/-- What a header adds to the text that is signed. -/
def contribution (name value : String) : String :=
  if isServiceHeader name then trimBlank value else value

def contributedText (op : Operation) (date : String) : String :=
  let contributed (name : String) : String := (op.header? name).elim "" (contribution name)
  let lines := (op.headers.entries.filter fun h => isServiceHeader h.1).map fun h =>
    h.1 ++ ":" ++ contribution h.1 h.2 ++ "\n"
  "\n".intercalate
    [op.verb.text, contributed "content-md5", contributed "content-type",
      if (op.header? "x-amz-date").isSome then "" else date, String.join lines ++ resource op]

theorem signedText_eq_contributedText (op : Operation) (date : String) :
    signedText op date = contributedText op date := by
  have hplain {name : String} (hname : isServiceHeader name = false) (value : Option String) :
      value.elim "" (contribution name) = value.getD "" := by
    cases value with
    | none => rfl
    | some value => exact if_neg (by rw [hname]; decide)
  have hlines : ((op.headers.entries.filter fun h => isServiceHeader h.1).map fun h =>
      h.1 ++ ":" ++ contribution h.1 h.2 ++ "\n") =
        (op.headers.entries.filter fun h => isServiceHeader h.1).map fun h =>
          h.1 ++ ":" ++ trimBlank h.2 ++ "\n" := by
    refine List.map_congr_left fun h hmem => ?_
    rw [contribution, if_pos (List.mem_filter.mp hmem).2]
  unfold contributedText
  dsimp only
  rw [hplain (by decide), hplain (by decide), hlines]
  rfl

/-- Where a header adds what is received of it: a header of the service has no
blank next to its padding, and another header no padding. -/
def ReceivedAsSigned (name value : String) : Prop :=
  if isServiceHeader name then BareEnds isBlank (trimBy Header.isPaddingChar value.toList)
  else BareEnds Header.isPaddingChar value.toList

instance (name value : String) : Decidable (ReceivedAsSigned name value) := by
  unfold ReceivedAsSigned
  infer_instance

theorem encode_contribution_eq_received_iff {name value : String} :
    Utf8.encode (contribution name value) = Header.received (Utf8.encode value) ↔
      ReceivedAsSigned name value := by
  have hinj {s t : String} : Utf8.encode s = Utf8.encode t ↔ s.toList = t.toList :=
    ⟨fun h => congrArg String.toList (Utf8.encode_injective h),
      fun h => congrArg Utf8.encode (String.toList_inj.mp h)⟩
  rw [Header.received_encode, hinj, String.toList_ofList, contribution, ReceivedAsSigned]
  split
  · rw [trimBlank, String.toList_ofList, ← trimBy_eq_self_iff,
      trimBy_trimBy fun c => Header.isBlank_of_isPaddingChar]
  · rw [← trimBy_eq_self_iff]
    exact eq_comm

/-- A header of the service in ASCII adds what is received of it. -/
theorem receivedAsSigned_of_ascii {name value : String} (hname : isServiceHeader name = true)
    (hvalue : (Utf8.encode value).all Header.isValueByte = true)
    (hascii : ∀ c ∈ value.toList, c.toNat < 0x80) : ReceivedAsSigned name value := by
  have hbare := bareEnds_trimBy Header.isPaddingChar value.toList
  have hblank {c : Char} (hc : c ∈ trimBy Header.isPaddingChar value.toList)
      (hpadding : Header.isPaddingChar c = false) : isBlank c = false := by
    have hmem := mem_of_mem_trimBy hc
    cases hb : isBlank c with
    | false => rfl
    | true =>
        rw [Header.isPaddingChar_of_isBlank hvalue hmem (hascii c hmem) hb] at hpadding
        cases hpadding
  rw [ReceivedAsSigned, if_pos hname]
  exact ⟨fun c hc => hblank (List.mem_of_head? hc) (hbare.1 c hc),
    fun c hc => hblank (List.mem_of_getLast? hc) (hbare.2 c hc)⟩

theorem isAdded_of_isSigned {name : String} (h : isSigned name = true) :
    Header.isAdded name = false := by
  have hunsigned (added : String) (hadded : Header.isAdded added = true) :
      isSigned added = false := by
    have hservice := Verifier.isServiceHeader_of_isAdded hadded
    simp only [Header.isAdded, Bool.or_eq_true, beq_iff_eq] at hadded
    rw [isSigned, hservice]
    rcases hadded with (rfl | rfl) | rfl <;> decide
  exact Client.isAdded_eq_false hunsigned h

end Signature

namespace Client

/-- **Which values are received as they were signed.** The text that is signed
takes a contribution from each signed header of an operation. The header is sent
as it was set, and what is received of it is this contribution just if a header
of the service has no blank next to its padding, and another one no padding. So a
header of the service in ASCII is received as it was signed. -/
theorem received_as_signed_iff {c : Client} {op : Operation} {now : Instant} {r : Request}
    (hop : op.Built) (h : c.prepare op now = .ok r) :
    Signature.signedText op (HttpDate.format now) =
        Signature.contributedText op (HttpDate.format now) ∧
      ∀ name value, Signature.isSigned name = true → op.headers.get? name = some value →
        r.headers.getAll name = [Utf8.encode value] ∧
        (Utf8.encode (Signature.contribution name value) = Header.received (Utf8.encode value) ↔
          Signature.ReceivedAsSigned name value) ∧
        (Signature.isServiceHeader name = true → (∀ ch ∈ value.toList, ch.toNat < 0x80) →
          Signature.ReceivedAsSigned name value) := by
  refine ⟨Signature.signedText_eq_contributedText op _, fun name value hsigned hget => ?_⟩
  have hkept := Signature.isAdded_of_isSigned hsigned
  have hfit := fault?_eq_none_of_prepare hop.lowerCase h hkept hget
  refine ⟨?_, Signature.encode_contribution_eq_received_iff, fun hservice hascii => ?_⟩
  · obtain ⟨-, -, rfl⟩ := (prepare_eq_ok_iff hop.lowerCase).mp h
    rw [HeaderMap.getAll_ofSorted, get?_sentHeaders hkept, hget]
    rfl
  · exact Signature.receivedAsSigned_of_ascii hservice (Header.fault?_eq_none hfit).2 hascii

/-- An object with padding before its type, and a note that begins with U+00A0. -/
def paddedPut : Operation :=
  ((((Operation.ofVerb .put).withBucket "logs").withKey "a").withHeader
    "content-type" " text/plain").withHeader "x-amz-meta-note" "\u00a0x"

theorem built_paddedPut : paddedPut.Built :=
  .withHeader _ _ (.withHeader _ _ (.withKey _ (.withBucket _ (.ofVerb _))))

theorem exists_request_paddedPut :
    ∃ r, (ofLocalService 1024).prepare paddedPut ⟨0⟩ = .ok r :=
  exists_request built_paddedPut.lowerCase (by decide +kernel) (by decide +kernel)
    (by decide +kernel)

theorem received_as_signed_iff_paddedPut :
    paddedPut.Built ∧ ∃ r, (ofLocalService 1024).prepare paddedPut ⟨0⟩ = .ok r ∧
      r.headers.getAll "content-type" = [Utf8.encode " text/plain"] ∧
      ¬Utf8.encode (Signature.contribution "content-type" " text/plain") =
        Header.received (Utf8.encode " text/plain") := by
  obtain ⟨r, hr⟩ := exists_request_paddedPut
  obtain ⟨-, hreceived⟩ := received_as_signed_iff built_paddedPut hr
  obtain ⟨hsent, hiff, -⟩ := hreceived "content-type" " text/plain" (by decide) (by decide)
  exact ⟨built_paddedPut, r, hr, hsent, mt hiff.mp (by decide)⟩

/-- Values are signed that nobody receives: a type with its padding, and a note
without a blank that stays. -/
theorem signed_not_received_paddedPut :
    paddedPut.Built ∧ (∃ r, (ofLocalService 1024).prepare paddedPut ⟨0⟩ = .ok r) ∧
      paddedPut.headers.get? "content-type" = some " text/plain" ∧
      Signature.isSigned "content-type" = true ∧
      Utf8.encode (Signature.contribution "content-type" " text/plain") ≠
        Header.received (Utf8.encode " text/plain") ∧
      paddedPut.headers.get? "x-amz-meta-note" = some "\u00a0x" ∧
      Signature.isSigned "x-amz-meta-note" = true ∧
      Utf8.encode (Signature.contribution "x-amz-meta-note" "\u00a0x") ≠
        Header.received (Utf8.encode "\u00a0x") :=
  ⟨built_paddedPut, exists_request_paddedPut, by decide⟩

end Client

end ObjectStore
