import ObjectStore.Proofs.Client.Answers
import ObjectStore.Proofs.Service.Refusals
import ObjectStore.Proofs.Text.Trimming
import ObjectStore.Proofs.Xml.Grammar
import ObjectStore.Proofs.Xml.Unfinished

/-!
# Error documents that break off

Of an error document a limited number of bytes is read. Wherever it breaks off,
in a tag, a reference or a character, the root does not end any more, so nothing
is read off it: the refusal has no code and no identifiers, and what there is of
the document is its message.
-/

namespace ObjectStore

/-! ## Documents -/

theorem Xml.isMark_replacement {b : UInt8} (h : b ∈ bytesOf [Utf8.replacement]) :
    isMark b = false := by
  have hnone : (bytesOf [Utf8.replacement]).any isMark = false := rfl
  exact eq_false_of_ne_true (List.any_eq_false.mp hnone b h)

/-- A document that begins with a bracket, or with a replacement, does not begin
with the byte order mark. -/
theorem Xml.strip?_byteOrderMark_chars {cs : List Char}
    (h : ∀ c ∈ cs.head?, c = '<' ∨ c = Utf8.replacement) :
    strip? byteOrderMark (bytesOf cs) = none := by
  cases cs with
  | nil => rfl
  | cons c cs =>
      rcases h c rfl with rfl | rfl
      · rfl
      · rfl

section Broken

variable {front behind broken : List Char}
  (hroot : Xml.afterRoot? [] (Xml.bytesOf (front ++ behind)) = some []) (hbehind : behind ≠ [])
  (hopen : ∀ c ∈ (front ++ behind).head?, c = '<')
  (hbroken : broken = [] ∨ broken = [Utf8.replacement])

include hopen hbroken in
/-- What there is of a document begins with its bracket, or is broken at once. -/
theorem Xml.head?_of_broken : ∀ c ∈ (front ++ broken).head?, c = '<' ∨ c = Utf8.replacement := by
  intro c hc
  cases front with
  | nil =>
      rcases hbroken with rfl | rfl
      · cases hc
      · exact .inr (Option.some.inj hc).symm
  | cons d front => exact .inl (hopen c hc)

include hroot hbehind hopen hbroken

/-- Nothing is read off a document that breaks off. -/
theorem RefusalDocument.parse?_of_broken :
    parse? (Utf8.encode (String.ofList (front ++ broken))) = none := by
  have hmark := Xml.strip?_byteOrderMark_chars (Xml.head?_of_broken hopen hbroken)
  have hbehind' : Xml.bytesOf behind ≠ [] := by
    obtain ⟨c, cs, rfl⟩ := List.exists_cons_of_ne_nil hbehind
    obtain ⟨b, bs, hbytes⟩ := Xml.exists_bytesOf_cons c cs
    rw [hbytes]
    exact List.cons_ne_nil b bs
  have hnomark : ∀ b ∈ Xml.bytesOf broken, Xml.isMark b = false := by
    intro b hb
    rcases hbroken with rfl | rfl
    · cases hb
    · exact Xml.isMark_replacement hb
  rw [Xml.bytesOf_append] at hroot
  have hnone := Xml.afterRoot?_truncated hroot hbehind' hnomark
  rw [← Xml.bytesOf_append] at hnone
  rw [parse?, Utf8.encode_ofList, Xml.record?_of_truncated hmark hnone]
  rfl

/-- Blanks that are taken off its end make no difference. -/
theorem RefusalDocument.parse?_of_broken_trimmed :
    parse? (Utf8.encode (String.ofList (trimBy isBlank (front ++ broken)))) = none := by
  have hhead : ∀ c ∈ (front ++ broken).head?, isBlank c = false := by
    intro c hc
    rcases Xml.head?_of_broken hopen hbroken c hc with rfl | rfl
    · rfl
    · rfl
  have hprefix := trimBy_isPrefix hhead
  -- either the replacement is kept, or what is left is a part of what was complete
  have hcases : trimBy isBlank (front ++ broken) = front ++ broken ∨
      trimBy isBlank (front ++ broken) <+: front := by
    rcases hbroken with rfl | rfl
    · rw [List.append_nil] at hprefix ⊢
      exact .inr hprefix
    · exact List.prefix_concat_iff.mp hprefix
  rcases hcases with heq | ⟨dropped, hfront⟩
  · rw [heq]
    exact parse?_of_broken hroot hbehind hopen hbroken
  · generalize trimBy isBlank (front ++ broken) = kept at hfront
    subst hfront
    rw [List.append_assoc] at hroot hopen
    have hrest : dropped ++ behind ≠ [] := fun h => hbehind (List.append_eq_nil_iff.mp h).2
    have hnone := parse?_of_broken hroot hrest hopen (.inl rfl)
    rwa [List.append_nil] at hnone

end Broken

/-! ## Refusals -/

namespace Refusal

/-- The refusal of which nothing is known but what there is of a document: its
bytes as text, with U+FFFD for what is no character, without blanks at the ends. -/
def unread (body : Bytes) : Refusal :=
  ⟨.unknown, none, String.ofList (trimBy isBlank (Utf8.decodeLossy body)), none, none, none, none⟩

/-- A document that breaks off tells nothing. -/
theorem ofBody_take {document : String} (h : Xml.IsElement document) {k : Nat}
    (hk : k < (Utf8.encode document).length) :
    ofBody ((Utf8.encode document).take k) = unread ((Utf8.encode document).take k) := by
  have hroot := h.afterRoot?
  have hopen : ∀ c ∈ document.toList.head?, c = '<' := by
    obtain ⟨root, attributes, inside, gap, -, -, -, hdocument⟩ := h
    intro c hc
    rw [hdocument] at hc
    exact (Option.some.inj hc).symm
  obtain ⟨front, behind, broken, hdocument, hbehind, hbroken, hread⟩ := Utf8.decodeLossy_take hk
  have hread' : Utf8.decodeLossy ((Utf8.encode document).take k) = front ++ broken := hread
  rw [Utf8.encode, hdocument] at hroot
  rw [hdocument] at hopen
  have hnone := RefusalDocument.parse?_of_broken_trimmed hroot hbehind hopen hbroken
  rw [ofBody, unread, hread', hnone]

/-- A document that does not break off is read, with all that is reported in it. -/
theorem ofBody_rootWritten {d : RefusalDocument} {doc : Xml.Document}
    (h : d.WrittenIn doc.content) :
    ofBody (Utf8.encode doc.rootWritten) = d.toRefusal doc.rootWritten := by
  let bare : Xml.Document := { doc with prolog := none }
  have hwritten : bare.written = doc.rootWritten := String.empty_append
  have hparse : RefusalDocument.parse? (Utf8.encode bare.written) = some d :=
    RefusalDocument.parse?_of_writtenIn h
  have htext : trimBy isBlank (Utf8.decodeLossy (Utf8.encode bare.written)) =
      bare.written.toList := by
    obtain ⟨hhead, hlast⟩ := bare.ends_written
    rw [Utf8.decodeLossy_encode]
    refine trimBy_of_ends (fun c hc => ?_) fun c hc => ?_
    · rw [hhead] at hc
      obtain rfl := Option.some.inj hc
      rfl
    · rw [hlast] at hc
      obtain rfl := Option.some.inj hc
      rfl
  rw [← hwritten, ofBody, htext, String.ofList_toList, hparse]

end Refusal

/-! ## Answers -/

namespace Client

/-- **An error document is believed as a whole or not at all.** A document that was
written is an element, and all that is reported in it is read. Wherever the bytes
of an element end before it does, the refusal is one of which nothing is known. So
a service that refuses a request with a document beyond the limit is always
reported in this way, with the status and the resource. -/
theorem documents_believed_whole :
    (∀ (doc : Xml.Document) (d : RefusalDocument), d.WrittenIn doc.content →
      Xml.IsElement doc.rootWritten ∧
        Refusal.ofBody (Utf8.encode doc.rootWritten) = d.toRefusal doc.rootWritten) ∧
    (∀ document, Xml.IsElement document → ∀ k < (Utf8.encode document).length,
      Refusal.ofBody ((Utf8.encode document).take k) =
        Refusal.unread ((Utf8.encode document).take k)) ∧
    ∀ (c : Client) (op : Operation) (now : Instant) (request : Request),
      c.prepare op now = .ok request → 1 ≤ c.errorLimit →
      ∀ {σ : Type} (t : Transport σ) (s s' : σ) (a : Answer),
        t.send s request = (s', .answered a) → isSuccess a.status = false →
        ∀ document, Xml.IsElement document → c.errorLimit < (Utf8.encode document).length →
          (Chunks.delivered (a.body.getD [])).take c.errorLimit =
            (Utf8.encode document).take c.errorLimit →
          ∃ failure, failure = Failure.service
              { Refusal.unread ((Utf8.encode document).take c.errorLimit) with
                status := some a.status, resource := some op.path } ∧
            (c.ask op now).resultOver t s = some (.error failure) ∧
            (c.command op now).resultOver t s = some (.error failure) := by
  refine ⟨fun doc d h => ⟨doc.isElement_rootWritten, Refusal.ofBody_rootWritten h⟩,
    fun document h k hk => Refusal.ofBody_take h hk, ?_⟩
  intro c op now request hsent hlimit σ t s s' a h hrefused document hdocument hlong hkept
  have hlength : c.errorLimit ≤ (Chunks.delivered (a.body.getD [])).length := by
    have hcount := congrArg List.length hkept
    rw [List.length_take, List.length_take] at hcount
    omega
  have hnofailure : Chunks.failureWithin c.errorLimit (a.body.getD []) = none :=
    if_neg (Nat.not_lt.mpr hlength)
  have hnonempty : (Utf8.encode document).take c.errorLimit ≠ [] := by
    rw [ne_eq, List.take_eq_nil_iff]
    rintro (hzero | hempty)
    · omega
    · rw [hempty] at hlong
      exact absurd hlong (Nat.not_lt_zero _)
  have hrefusal : refusal op.path a.status (firstBytes c.errorLimit (a.body.getD [])) =
      .service { Refusal.unread ((Utf8.encode document).take c.errorLimit) with
        status := some a.status, resource := some op.path } := by
    rw [refusal_firstBytes, hnofailure]
    dsimp only
    rw [Chunks.kept, hkept, if_neg hnonempty, Refusal.ofBody_take hdocument hlong]
  refine ⟨_, rfl, ?_, ?_⟩
  · rw [ask, resultOver_answered hsent h, result_settle_of_refusal hrefused, hrefusal]
  · rw [command, resultOver_answered hsent h, result_settle_of_refusal hrefused, hrefusal]

def accentedDocument : Xml.Document :=
  { Refusal.missingKeyDocument with
    content := .element "" ⟨"Message", by decide, by decide⟩ (.text "é")
      Refusal.missingKeyDocument.content }

def refusingAccented : Transport Unit where
  send _ _ :=
    ((), .answered ⟨404, ∅, some [.ok (Utf8.encode accentedDocument.rootWritten)], .acquired⟩)

/-- The code is read as long as nothing is cut off. It is not if the last bracket is missing,
and not if the limit is in the middle of the letter beyond ASCII. -/
theorem documents_believed_whole_accented :
    (Refusal.ofBody (Utf8.encode accentedDocument.rootWritten)).code = some "NoSuchKey" ∧
      (Refusal.ofBody ((Utf8.encode accentedDocument.rootWritten).take 153)).code = none ∧
      ∃ request, (ofLocalService 17).prepare (.ofVerb .get) ⟨0⟩ = .ok request ∧
        ((ofLocalService 17).ask (.ofVerb .get) ⟨0⟩).resultOver refusingAccented () =
          some (.error (.service ⟨.unknown, none, "<Error><Message>\uFFFD", none, none, some 404,
            some "/"⟩)) := by
  have hreported : RefusalDocument.WrittenIn ⟨some "NoSuchKey", some "é", none, some "a<b>"⟩
      accentedDocument.content := by
    refine ⟨⟨rfl, ?_⟩, ⟨rfl, ?_⟩, ⟨rfl, fun s hs => nomatch hs⟩, ⟨rfl, ?_⟩⟩
    all_goals
      intro s hs
      obtain rfl := Option.some.inj hs
      decide
  obtain ⟨hwhole, htruncated, hanswered⟩ := documents_believed_whole
  obtain ⟨hdocument, hread⟩ := hwhole accentedDocument _ hreported
  refine ⟨by rw [hread]; rfl, ?_, ?_⟩
  · rw [htruncated _ hdocument 153 (by decide +kernel)]
    rfl
  · obtain ⟨request, hsent⟩ := exists_request_ofLocalService 17
    obtain ⟨failure, hfailure, hask, -⟩ := hanswered (ofLocalService 17) (.ofVerb .get) ⟨0⟩
      request hsent (by decide) refusingAccented () () _ rfl rfl _ hdocument (by decide +kernel)
      (by decide +kernel)
    have hmessage : Refusal.unread ((Utf8.encode accentedDocument.rootWritten).take 17) =
        ⟨.unknown, none, "<Error><Message>\uFFFD", none, none, none, none⟩ := by decide +kernel
    refine ⟨request, hsent, ?_⟩
    rw [hask, hfailure]
    show some (Except.error (Failure.service
      { Refusal.unread ((Utf8.encode accentedDocument.rootWritten).take 17) with
        status := some 404, resource := some "/" })) = _
    rw [hmessage]

end Client

end ObjectStore
