import ObjectStore.Proofs.Object.Metadata
import ObjectStore.Proofs.Text.Decimal
import ObjectStore.Proofs.Text.Trimming

/-!
# Which answers describe an object

An answer of success describes an object if its first length and its first entity
tag can be used. Everything else in its headers may be missing or unreadable: a
time or a type is then none, and a value of metadata is passed over. An answer that
does not describe an object fails the call, the length before the tag, and its
connection is released.
-/

namespace ObjectStore

/-! ## Values that can be read -/

namespace Header

def Readable (value : Bytes) : Prop := ∀ b ∈ value, b = 0x09 ∨ (0x20 ≤ b ∧ b ≤ 0x7E)

/-- A value is read as the text that has its bytes, if it can be read. -/
structure ReadAs (value : Bytes) (text : String) : Prop where
  readable : Readable value
  encode_eq : Utf8.encode text = value

theorem all_isTextByte {value : Bytes} : value.all isTextByte = true ↔ Readable value := by
  simp only [List.all_eq_true, isTextByte, Readable, Bool.or_eq_true, Bool.and_eq_true,
    beq_iff_eq, decide_eq_true_eq]

instance (value : Bytes) : Decidable (Readable value) := decidable_of_iff _ all_isTextByte

theorem text?_eq_some_iff {value : Bytes} {text : String} :
    text? value = some text ↔ ReadAs value text := by
  have hvalue (h : Readable value) :
      Utf8.encode (String.ofList (value.map fun b => Char.ofNat b.toNat)) = value := by
    have hsmall : ∀ c ∈ value.map fun b => Char.ofNat b.toNat, c.toNat < 0x80 := by
      intro c hc
      obtain ⟨b, hb, rfl⟩ := List.mem_map.mp hc
      rw [Utf8.toNat_ofNat_byte]
      rcases h b hb with rfl | ⟨-, hle⟩
      · decide
      · exact Nat.lt_of_le_of_lt (UInt8.le_iff_toNat_le.mp hle) (by decide)
    rw [Utf8.encode_ofList, Utf8.encodeChars_ascii hsmall, List.map_map]
    refine (List.map_congr_left fun b _ => ?_).trans (List.map_id _)
    rw [Function.comp_apply, Utf8.toNat_ofNat_byte, UInt8.ofNat_toNat, id_eq]
  unfold text?
  constructor
  · intro h
    split at h
    · next hall =>
        obtain rfl := Option.some.inj h
        exact ⟨all_isTextByte.mp hall, hvalue (all_isTextByte.mp hall)⟩
    · cases h
  · intro h
    rw [if_pos (all_isTextByte.mpr h.readable)]
    exact congrArg some (Utf8.encode_injective ((hvalue h.readable).trans h.encode_eq.symm))

theorem text?_eq_none_iff {value : Bytes} : text? value = none ↔ ¬Readable value := by
  unfold text?
  rw [← all_isTextByte]
  constructor
  · intro h hall
    rw [if_pos hall] at h
    cases h
  · intro h
    exact if_neg h

theorem exists_readAs_iff {value : Bytes} : (∃ text, ReadAs value text) ↔ Readable value := by
  constructor
  · rintro ⟨text, h⟩
    exact h.readable
  · intro h
    obtain ⟨text, htext⟩ := Option.ne_none_iff_exists'.mp (mt text?_eq_none_iff.mp (not_not.mpr h))
    exact ⟨text, text?_eq_some_iff.mp htext⟩

theorem ReadAs.bounds {value : Bytes} {text : String} (h : ReadAs value text) {c : Char}
    (hc : c ∈ text.toList) : c.toNat = 0x09 ∨ (0x20 ≤ c.toNat ∧ c.toNat ≤ 0x7E) := by
  have hbytes {b : UInt8} (hb : b ∈ Utf8.encode text) :
      b.toNat = 0x09 ∨ (0x20 ≤ b.toNat ∧ b.toNat ≤ 0x7E) := by
    rw [h.encode_eq] at hb
    have hread := h.readable b hb
    simp only [UInt8.le_iff_toNat_le, ← UInt8.toNat_inj, UInt8.reduceToNat] at hread
    exact hread
  have hsmall : ∀ c ∈ text.toList, c.toNat < 0x80 := by
    rw [← Utf8.forall_mem_encode_lt]
    intro b hb
    have hb := hbytes hb
    omega
  have hlt := hsmall c hc
  have hmem : UInt8.ofNat c.toNat ∈ Utf8.encode text := by
    rw [Utf8.encode, Utf8.encodeChars_ascii hsmall]
    exact List.mem_map_of_mem hc
  have hbyte := hbytes hmem
  rw [UInt8.toNat_ofNat', Nat.mod_eq_of_lt (by omega)] at hbyte
  exact hbyte

theorem ReadAs.isBlank_iff {value : Bytes} {text : String} (h : ReadAs value text) {c : Char}
    (hc : c ∈ text.toList) : isBlank c = true ↔ c = ' ' ∨ c = '\t' := by
  constructor
  · intro hblank
    have hbounds := h.bounds hc
    simp only [isBlank, Bool.or_eq_true, decide_eq_true_eq, beq_iff_eq] at hblank
    have hcode : c.toNat = 0x20 ∨ c.toNat = 0x09 := by omega
    exact hcode.imp (fun heq => Char.toNat_inj.mp heq) fun heq => Char.toNat_inj.mp heq
  · rintro (rfl | rfl)
    · rfl
    · rfl

/-- A value that states a length: a number below 2^64, written in digits that may
stand behind a plus sign and between spaces and tabs. -/
def StatesLength (value : Bytes) (n : Nat) : Prop :=
  ∃ text front sign digits back, ReadAs value text ∧
    text.toList = front ++ (sign ++ digits) ++ back ∧
    (∀ c ∈ front ++ back, c = ' ' ∨ c = '\t') ∧ (sign = [] ∨ sign = ['+']) ∧
    Decimal.Denotes digits n ∧ n < 2 ^ 64

theorem parse?_limit64_eq_some_iff {value : Bytes} {text : String} (h : ReadAs value text)
    {n : Nat} :
    Decimal.parse? Decimal.limit64 (trimBy isBlank text.toList) = some n ↔
      StatesLength value n := by
  have hbound : 0 < Decimal.limit64 := by decide
  constructor
  · intro hparse
    obtain ⟨sign, digits, htrim, hsign, hdigits⟩ := (Decimal.parse?_eq_some_iff hbound).mp hparse
    obtain ⟨front, back, hfront, hback, htext⟩ := exists_eq_append_trimBy isBlank text.toList
    refine ⟨text, front, sign, digits, back, h, htrim ▸ htext, ?_, hsign, hdigits⟩
    intro c hc
    have hmem : c ∈ text.toList := by
      rw [htext, List.append_assoc, List.mem_append, List.mem_append]
      rcases List.mem_append.mp hc with hc | hc
      · exact .inl hc
      · exact .inr (.inr hc)
    refine (h.isBlank_iff hmem).mp ?_
    rcases List.mem_append.mp hc with hc | hc
    · exact hfront c hc
    · exact hback c hc
  · rintro ⟨text', front, sign, digits, back, h', htext, hends, hsign, hdigits⟩
    obtain rfl : text' = text :=
      Utf8.encode_injective (h'.encode_eq.trans h.encode_eq.symm)
    have hblank {c : Char} (hc : c ∈ front ++ back) : isBlank c = true := by
      rcases hends c hc with rfl | rfl
      · rfl
      · rfl
    have hbare {c : Char} (hc : c ∈ sign ++ digits) : isBlank c = false := by
      rcases List.mem_append.mp hc with hc | hc
      · rcases hsign with rfl | rfl
        · cases hc
        · obtain rfl := List.mem_singleton.mp hc
          rfl
      · exact Decimal.isBlank_of_isDigit (hdigits.1.digit c hc)
    rw [htext, trimBy_surrounded (fun c hc => hblank (List.mem_append_left back hc))
      (fun c hc => hblank (List.mem_append_right front hc)),
      trimBy_of_ends (fun c hc => hbare (List.mem_of_head? hc))
        fun c hc => hbare (List.mem_of_getLast? hc)]
    exact (Decimal.parse?_eq_some_iff hbound).mpr ⟨sign, digits, rfl, hsign, hdigits⟩

end Header

namespace HeaderMap

def values (headers : HeaderMap) (name : String) : List Bytes :=
  headers.toList.filterMap fun h => if h.1 = name then some h.2 else none

theorem text?_eq_some_iff {headers : HeaderMap} {name text : String} :
    headers.text? name = some text ↔
      ∃ value, headers.get? name = some value ∧ Header.ReadAs value text := by
  simp only [text?, Option.bind_eq_some_iff, Header.text?_eq_some_iff]

theorem text?_eq_none_iff {headers : HeaderMap} {name : String} :
    headers.text? name = none ↔
      ∀ value, headers.get? name = some value → ¬Header.Readable value := by
  simp only [text?, Option.bind_eq_none_iff, Header.text?_eq_none_iff]

end HeaderMap

/-! ## What headers say -/

namespace ObjectInfo

/-- What headers say about an object. The first length and the first entity tag
are there. The first time and the first type are told if they can be read, and of
each entry of metadata the last value that can be read. -/
structure ReadFrom (info : ObjectInfo) (headers : HeaderMap) : Prop where
  contentLength : ∃ value, headers.get? "content-length" = some value ∧
    Header.StatesLength value info.contentLength
  eTag : ∃ value, headers.get? "etag" = some value ∧ Header.ReadAs value info.eTag
  lastModified : ∀ time, info.lastModified = some time ↔
    ∃ value text, headers.get? "last-modified" = some value ∧ Header.ReadAs value text ∧
      HttpDate.parse? text = some time
  contentType : ∀ text, info.contentType = some text ↔
    ∃ value, headers.get? "content-type" = some value ∧ Header.ReadAs value text
  custom : ∀ key text, info.custom.get? key = some text ↔
    ∃ before value after, headers.values (metaStart ++ key) = before ++ value :: after ∧
      Header.ReadAs value text ∧ ∀ later ∈ after, ¬Header.Readable later

/-- What headers lack first, if they do not describe an object. -/
inductive Lacks (headers : HeaderMap) : AnswerFault → Prop
  | length (h : ∀ value, headers.get? "content-length" = some value → ¬Header.Readable value) :
      Lacks headers .missingContentLength
  | number {value : Bytes} (h : headers.get? "content-length" = some value)
      (hreadable : Header.Readable value) (hnumber : ∀ n, ¬Header.StatesLength value n) :
      Lacks headers .invalidContentLength
  | tag {value : Bytes} {n : Nat} (h : headers.get? "content-length" = some value)
      (hlength : Header.StatesLength value n)
      (htag : ∀ tag, headers.get? "etag" = some tag → ¬Header.Readable tag) :
      Lacks headers .missingETag

variable {headers : HeaderMap}

theorem lengthOf_eq_ok_iff {n : Nat} :
    lengthOf headers = .ok n ↔
      ∃ value, headers.get? "content-length" = some value ∧ Header.StatesLength value n := by
  unfold lengthOf
  constructor
  · intro h
    split at h
    · cases h
    next text htext =>
    obtain ⟨value, hvalue, hread⟩ := HeaderMap.text?_eq_some_iff.mp htext
    split at h
    · cases h
    next m hm =>
    obtain rfl := Except.ok.inj h
    exact ⟨value, hvalue, (Header.parse?_limit64_eq_some_iff hread).mp hm⟩
  · rintro ⟨value, hvalue, hlength⟩
    have ⟨text, _, _, _, _, hread, _⟩ := hlength
    rw [HeaderMap.text?_eq_some_iff.mpr ⟨value, hvalue, hread⟩]
    dsimp only
    rw [(Header.parse?_limit64_eq_some_iff hread).mpr hlength]

theorem lacks_of_lengthOf_eq_error {fault : AnswerFault} (h : lengthOf headers = .error fault) :
    Lacks headers fault := by
  have hnot (n : Nat) : lengthOf headers ≠ .ok n := by
    rw [h]
    intro heq
    cases heq
  unfold lengthOf at h
  split at h
  · next htext =>
      obtain rfl := Except.error.inj h
      exact .length (HeaderMap.text?_eq_none_iff.mp htext)
  next text htext =>
  obtain ⟨value, hvalue, hread⟩ := HeaderMap.text?_eq_some_iff.mp htext
  split at h
  · obtain rfl := Except.error.inj h
    exact .number hvalue hread.readable fun n hn =>
      hnot n (lengthOf_eq_ok_iff.mpr ⟨value, hvalue, hn⟩)
  · cases h

/-- Of several values for a key the last one that can be read counts. -/
theorem get?_customOf_eq (key : String) :
    (customOf headers).get? key =
      ((headers.values (metaStart ++ key)).filterMap Header.text?).getLast? := by
  have hentries (l : List (String × Bytes)) :
      ((l.filterMap entryOf?).filter fun e => e.1 == key).map Prod.snd =
        (l.filterMap fun h => if h.1 = metaStart ++ key then some h.2 else none).filterMap
          Header.text? := by
    rw [List.filter_filterMap, List.map_filterMap, List.filterMap_filterMap]
    apply List.filterMap_congr
    intro h _
    ext text
    simp only [Option.map_eq_some_iff, Option.filter_eq_some_iff, entryOf?_eq_some, beq_iff_eq,
      Option.bind_eq_some_iff, Option.ite_none_right_eq_some, Option.some.injEq]
    constructor
    · rintro ⟨⟨_, _⟩, ⟨⟨hname, htext⟩, rfl⟩, rfl⟩
      exact ⟨h.2, ⟨hname, rfl⟩, htext⟩
    · rintro ⟨_, ⟨hname, rfl⟩, htext⟩
      exact ⟨(key, text), ⟨⟨hname, htext⟩, rfl⟩, rfl⟩
  have hcustom : customOf headers = .ofList (headers.toList.filterMap entryOf?) := rfl
  rw [hcustom, SortedMap.get?_ofList, SortedMap.last?, ← List.getLast?_map, hentries]
  rfl

theorem get?_customOf_eq_some_iff {key text : String} :
    (customOf headers).get? key = some text ↔
      ∃ before value after, headers.values (metaStart ++ key) = before ++ value :: after ∧
        Header.ReadAs value text ∧ ∀ later ∈ after, ¬Header.Readable later := by
  rw [get?_customOf_eq, List.getLast?_filterMap, List.findSome?_eq_some_iff]
  simp only [Header.text?_eq_some_iff, Header.text?_eq_none_iff]
  constructor
  · rintro ⟨after, value, before, hvalues, hread, hafter⟩
    refine ⟨before.reverse, value, after.reverse, ?_, hread, ?_⟩
    · rw [List.reverse_eq_append_iff.mp hvalues, List.reverse_cons, List.append_assoc,
        List.singleton_append]
    · intro later hlater
      exact hafter later (List.mem_reverse.mp hlater)
  · rintro ⟨before, value, after, hvalues, hread, hafter⟩
    refine ⟨after.reverse, value, before.reverse, ?_, hread, ?_⟩
    · rw [hvalues, List.reverse_append, List.reverse_cons, List.append_assoc,
        List.singleton_append]
    · intro later hlater
      exact hafter later (List.mem_reverse.mp hlater)

theorem readFrom_iff {info : ObjectInfo} :
    info.ReadFrom headers ↔
      lengthOf headers = .ok info.contentLength ∧ headers.text? "etag" = some info.eTag ∧
        info.lastModified = (headers.text? "last-modified").bind HttpDate.parse? ∧
        info.contentType = headers.text? "content-type" ∧ info.custom = customOf headers := by
  have htime (time : Instant) :
      (headers.text? "last-modified").bind HttpDate.parse? = some time ↔
        ∃ value text, headers.get? "last-modified" = some value ∧ Header.ReadAs value text ∧
          HttpDate.parse? text = some time := by
    simp only [Option.bind_eq_some_iff, HeaderMap.text?_eq_some_iff]
    constructor
    · rintro ⟨text, ⟨value, hvalue, hread⟩, hparse⟩
      exact ⟨value, text, hvalue, hread, hparse⟩
    · rintro ⟨value, text, hvalue, hread, hparse⟩
      exact ⟨text, ⟨value, hvalue, hread⟩, hparse⟩
  constructor
  · intro h
    refine ⟨lengthOf_eq_ok_iff.mpr h.contentLength, HeaderMap.text?_eq_some_iff.mpr h.eTag,
      ?_, ?_, ?_⟩
    · ext time
      exact (h.lastModified time).trans (htime time).symm
    · ext text
      exact (h.contentType text).trans HeaderMap.text?_eq_some_iff.symm
    · apply SortedMap.ext_get?
      intro key
      ext text
      exact (h.custom key text).trans get?_customOf_eq_some_iff.symm
  · rintro ⟨hlength, htag, hmodified, htype, hcustom⟩
    refine ⟨lengthOf_eq_ok_iff.mp hlength, HeaderMap.text?_eq_some_iff.mp htag, ?_, ?_, ?_⟩
    · intro time
      rw [hmodified]
      exact htime time
    · intro text
      rw [htype]
      exact HeaderMap.text?_eq_some_iff
    · intro key text
      rw [hcustom]
      exact get?_customOf_eq_some_iff

theorem ofHeaders_eq_ok_iff {info : ObjectInfo} :
    ofHeaders headers = .ok info ↔ info.ReadFrom headers := by
  rw [readFrom_iff]
  unfold ofHeaders
  cases hlength : lengthOf headers with
  | error fault =>
      constructor
      · intro h
        cases h
      · rintro ⟨h, -⟩
        cases h
  | ok n =>
      cases htag : headers.text? "etag" with
      | none =>
          constructor
          · intro h
            cases h
          · rintro ⟨-, h, -⟩
            cases h
      | some tag =>
          constructor
          · intro h
            obtain rfl := Except.ok.inj h
            exact ⟨rfl, rfl, rfl, rfl, rfl⟩
          · obtain ⟨contentLength, eTag, lastModified, contentType, custom⟩ := info
            rintro ⟨hn, heTag, rfl, rfl, rfl⟩
            obtain rfl := Except.ok.inj hn
            obtain rfl := Option.some.inj heTag
            rfl

/-- Headers that do not describe an object are refused for what they lack first. -/
theorem ofHeaders_eq_error_iff {fault : AnswerFault} :
    ofHeaders headers = .error fault ↔ Lacks headers fault := by
  constructor
  · intro h
    unfold ofHeaders at h
    cases hlength : lengthOf headers with
    | error fault' =>
        rw [hlength] at h
        obtain rfl := Except.error.inj h
        exact lacks_of_lengthOf_eq_error hlength
    | ok n =>
        rw [hlength] at h
        obtain ⟨value, hvalue, hstates⟩ := lengthOf_eq_ok_iff.mp hlength
        cases htag : headers.text? "etag" with
        | none =>
            rw [htag] at h
            obtain rfl := Except.error.inj h
            exact .tag hvalue hstates (HeaderMap.text?_eq_none_iff.mp htag)
        | some tag =>
            rw [htag] at h
            cases h
  · intro h
    cases h with
    | length hunread =>
        rw [ofHeaders, lengthOf, HeaderMap.text?_eq_none_iff.mpr hunread]
        rfl
    | @number value hvalue hreadable hnumber =>
        obtain ⟨text, hread⟩ := Header.exists_readAs_iff.mpr hreadable
        have hparse : Decimal.parse? Decimal.limit64 (trimBy isBlank text.toList) = none := by
          rw [Option.eq_none_iff_forall_ne_some]
          intro n hn
          exact hnumber n ((Header.parse?_limit64_eq_some_iff hread).mp hn)
        rw [ofHeaders, lengthOf, HeaderMap.text?_eq_some_iff.mpr ⟨value, hvalue, hread⟩]
        dsimp only
        rw [hparse]
        rfl
    | @tag value n hvalue hstates htag =>
        rw [ofHeaders, lengthOf_eq_ok_iff.mpr ⟨value, hvalue, hstates⟩,
          HeaderMap.text?_eq_none_iff.mpr htag]
        rfl

theorem exists_readFrom_iff :
    (∃ info : ObjectInfo, info.ReadFrom headers) ↔
      (∃ value n, headers.get? "content-length" = some value ∧ Header.StatesLength value n) ∧
        ∃ value, headers.get? "etag" = some value ∧ Header.Readable value := by
  constructor
  · rintro ⟨info, h⟩
    obtain ⟨value, hvalue, hlength⟩ := h.contentLength
    obtain ⟨tag, htag, hread⟩ := h.eTag
    exact ⟨⟨value, _, hvalue, hlength⟩, tag, htag, hread.readable⟩
  · rintro ⟨⟨value, n, hvalue, hlength⟩, tag, htag, hreadable⟩
    obtain ⟨eTag, hread⟩ := Header.exists_readAs_iff.mpr hreadable
    refine ⟨⟨n, eTag, _, _, _⟩, readFrom_iff.mpr ⟨?_, ?_, rfl, rfl, rfl⟩⟩
    · exact lengthOf_eq_ok_iff.mpr ⟨value, hvalue, hlength⟩
    · exact HeaderMap.text?_eq_some_iff.mpr ⟨tag, htag, hread⟩

end ObjectInfo

/-! ## Fetching -/

namespace Client

variable {c : Client} {op : Operation} {now : Instant} {σ : Type} {t : Transport σ}

/-- A result with a body, or a failure that has another reason than a missing body. -/
def HasBody {α : Type} (body : α → Option IncomingBody) : Except Failure α → Prop
  | .ok a => body a ≠ none
  | .error e => ∀ resource, e ≠ .protocol resource .missingBody

theorem hasBody_ask (hverb : op.verb ≠ .head) {s : σ} {r : Except Failure Response}
    (h : (c.ask op now).resultOver t s = some r) : HasBody Response.body r := by
  cases hsent : c.prepare op now with
  | error e =>
      have hfault : r = .error e := by
        rw [ask, send, hsent] at h
        exact (Option.some.inj h).symm
      subst hfault
      rintro resource rfl
      unfold prepare at hsent
      split at hsent
      · cases hsent
      · dsimp only at hsent
        split at hsent
        · cases hsent
        · cases hsent
  | ok request =>
      rcases hsend : t.send s request with ⟨s', a | e | _⟩
      · rw [ask, resultOver_answered hsent hsend] at h
        obtain rfl := Option.some.inj h
        cases hsuccess : isSuccess a.status with
        | true =>
            rw [result_settle_of_success hsuccess, if_pos (decide_eq_true hverb)]
            exact Option.some_ne_none _
        | false =>
            rw [result_settle_of_refusal hsuccess, refusal_firstBytes]
            intro resource heq
            split at heq
            · cases heq
            · split at heq
              · cases heq
              · cases heq
      · rw [ask, resultOver_failed hsent hsend] at h
        obtain rfl := Option.some.inj h
        intro resource heq
        cases heq
      · rw [ask, Exchange.resultOver, send_eq_sending hsent, Exchange.run, hsend] at h
        cases h

theorem hasBody_fetch (hverb : op.verb ≠ .head) {s : σ}
    {r : Except Failure (ObjectInfo × Option IncomingBody)}
    (h : (c.fetch op now).resultOver t s = some r) : HasBody Prod.snd r := by
  rw [fetch, Exchange.resultOver_andThen, Option.map_eq_some_iff] at h
  obtain ⟨asked, hasked, rfl⟩ := h
  have hbody := hasBody_ask hverb hasked
  cases asked with
  | error e => exact hbody
  | ok response =>
      show HasBody Prod.snd (readInfo op.path response).result
      unfold readInfo
      cases hinfo : ObjectInfo.ofHeaders response.headers with
      | ok info => exact hbody
      | error fault =>
          intro resource heq
          injection heq with _ hfault
          subst hfault
          cases ObjectInfo.ofHeaders_eq_error_iff.mp hinfo

/-- Fetching an object never fails for want of a body. -/
theorem getObject_ne_missingBody (bucket key : String) (s : σ) (resource : String) :
    (c.getObject bucket key now).resultOver t s ≠
      some (.error (.protocol resource .missingBody)) := by
  have hchecks (check : Except RequestFault Unit) {next : Exchange FetchedObject}
      (hnext : next.resultOver t s ≠ some (.error (.protocol resource .missingBody))) :
      (Exchange.checking check next).resultOver t s ≠
        some (.error (.protocol resource .missingBody)) := by
    cases check with
    | ok u => exact hnext
    | error fault =>
        intro h
        cases h
  refine hchecks _ (hchecks _ ?_)
  intro h
  rw [Exchange.resultOver_andThen, Option.map_eq_some_iff] at h
  obtain ⟨fetched, hfetched, hresult⟩ := h
  have hverb : (objectOperation .get bucket key).verb ≠ .head := by
    intro h
    cases h
  have hbody := hasBody_fetch hverb hfetched
  rcases fetched with e | ⟨info, _ | body⟩
  · obtain rfl := Except.error.inj hresult
    exact hbody resource rfl
  · exact hbody rfl
  · cases hresult

/-- **An answer of success is accepted just if its required headers can be used.** The
first length has to be a number below 2^64, in digits behind an optional plus sign, and
the first entity tag has to be readable. Then what is known about the object is what the
headers say, and there is a body unless the verb is HEAD. Otherwise the call fails with
what the headers lack first, and the connection is released. Fetching an object never
fails for want of a body. -/
theorem fetch_of_success {request : Request} (hsent : c.prepare op now = .ok request) {s s' : σ}
    {a : Answer} (hanswer : t.send s request = (s', .answered a))
    (hsuccess : isSuccess a.status = true) :
    ∃ settled, (c.fetch op now).run t s = (s', some settled) ∧
      ((∃ fetched, settled.result = .ok fetched) ↔
        (∃ value n, a.headers.get? "content-length" = some value ∧
            Header.StatesLength value n) ∧
          ∃ value, a.headers.get? "etag" = some value ∧ Header.Readable value) ∧
      (∀ info body, settled.result = .ok (info, body) ↔
        info.ReadFrom a.headers ∧
          body = if op.verb = .head then none else some ⟨a.body, a.connection⟩) ∧
      (∀ failure, settled.result = .error failure ↔
        ∃ fault, ObjectInfo.Lacks a.headers fault ∧ failure = .protocol op.path fault) ∧
      (∀ failure, settled.result = .error failure →
        settled.connection = some a.connection.release) ∧
      ∀ (c' : Client) (bucket key : String) (now' : Instant) (τ : Type) (u : Transport τ) (r : τ)
          (resource : String),
        (c'.getObject bucket key now').resultOver u r ≠
          some (.error (.protocol resource .missingBody)) := by
  refine ⟨_, run_fetch_of_success hsent hanswer hsuccess, ?_, ?_, ?_, ?_,
    fun c' bucket key now' τ u r resource => c'.getObject_ne_missingBody bucket key r resource⟩
  · rw [← ObjectInfo.exists_readFrom_iff]
    simp only [← ObjectInfo.ofHeaders_eq_ok_iff]
    cases ObjectInfo.ofHeaders a.headers with
    | ok info => exact ⟨fun _ => ⟨info, rfl⟩, fun _ => ⟨_, rfl⟩⟩
    | error fault =>
        constructor
        · rintro ⟨fetched, h⟩
          cases h
        · rintro ⟨info, h⟩
          cases h
  · intro info body
    rw [← ObjectInfo.ofHeaders_eq_ok_iff]
    cases ObjectInfo.ofHeaders a.headers with
    | ok info' =>
        simp only [Except.ok.injEq, Prod.mk.injEq, eq_comm]
    | error fault =>
        constructor
        · intro h
          cases h
        · rintro ⟨h, -⟩
          cases h
  · intro failure
    simp only [← ObjectInfo.ofHeaders_eq_error_iff]
    cases ObjectInfo.ofHeaders a.headers with
    | ok info =>
        constructor
        · intro h
          cases h
        · rintro ⟨fault, h, -⟩
          cases h
    | error fault =>
        constructor
        · intro h
          exact ⟨fault, rfl, (Except.error.inj h).symm⟩
        · rintro ⟨fault', h, rfl⟩
          rw [Except.error.inj h]
  · intro failure h
    cases hinfo : ObjectInfo.ofHeaders a.headers with
    | ok info =>
        rw [hinfo] at h
        cases h
    | error fault => rfl

/-- An answer with a sign and blanks around its length, and with a second value of
metadata that cannot be read. -/
def paddedAnswer : Answer :=
  ⟨200, ⟨[("content-length", [Utf8.encode " +07\t", Utf8.encode "8"]),
    ("etag", [Utf8.encode "tag"]), ("last-modified", [Utf8.encode "never"]),
    ("x-amz-meta-owner", [Utf8.encode "ops", Utf8.encode "é"])]⟩, none, .acquired⟩

theorem fetch_of_success_padded :
    ∃ request info,
      (ofLocalService 1024).prepare (objectOperation .get "logs" "k") ⟨0⟩ = .ok request ∧
        ((ofLocalService 1024).fetch (objectOperation .get "logs" "k") ⟨0⟩).resultOver
          (answeringWith paddedAnswer) () = some (.ok (info, some ⟨none, .acquired⟩)) ∧
        info.contentLength = 7 ∧ info.lastModified = none ∧
        info.custom.get? "owner" = some "ops" := by
  obtain ⟨request, hsent⟩ : ∃ r,
      (ofLocalService 1024).prepare (objectOperation .get "logs" "k") ⟨0⟩ = .ok r :=
    exists_request LowerCase.empty (by decide) (by decide) (by decide +kernel)
  obtain ⟨settled, hrun, haccepted, hread, -⟩ :=
    fetch_of_success (t := answeringWith paddedAnswer) (s := ()) hsent rfl rfl
  have hlength : Header.StatesLength (Utf8.encode " +07\t") 7 :=
    ⟨" +07\t", [' '], ['+'], ['0', '7'], ['\t'], ⟨Header.all_isTextByte.mp rfl, rfl⟩, rfl,
      by simp, .inr rfl, ⟨List.cons_ne_nil _ _, List.all_eq_true.mp rfl, rfl⟩, by decide⟩
  obtain ⟨⟨info, body⟩, hok⟩ := haccepted.mpr
    ⟨⟨_, 7, rfl, hlength⟩, _, rfl, Header.all_isTextByte.mp rfl⟩
  obtain ⟨hinfo, rfl⟩ := (hread info body).mp hok
  obtain ⟨hseven, -, hmodified, -⟩ := ObjectInfo.readFrom_iff.mp hinfo
  refine ⟨request, info, hsent, ?_, ?_, ?_, ?_⟩
  · rw [Exchange.resultOver, hrun]
    exact congrArg some hok
  · rw [ObjectInfo.lengthOf_eq_ok_iff.mpr ⟨_, rfl, hlength⟩] at hseven
    exact (Except.ok.inj hseven).symm
  · rw [hmodified]
    decide +kernel
  · refine (hinfo.custom "owner" "ops").mpr
      ⟨[], Utf8.encode "ops", [Utf8.encode "é"], by decide +kernel,
        ⟨Header.all_isTextByte.mp rfl, rfl⟩, ?_⟩
    intro later hlater
    rw [List.mem_singleton.mp hlater]
    decide +kernel

end Client

end ObjectStore
