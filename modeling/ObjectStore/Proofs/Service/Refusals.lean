import ObjectStore.Proofs.Xml.Children
import ObjectStore.Service.Refusal

/-!
# Error documents read back

Whoever writes an error document puts four texts into elements of the root, in
any order and among any others. A refusal has these texts again, the kind that
the table has for the code, and a message in every case. What the other elements
hold, elements with the same names included, makes no difference.
-/

namespace ObjectStore

/-! ## The ends of a document -/

theorem Xml.Document.ends_written (d : Document) :
    d.written.toList.head? = some '<' ∧ d.written.toList.getLast? = some '>' := by
  constructor
  · unfold written
    cases d.prolog with
    | none => simp [rootWritten]
    | some p => simp [Prolog.written]
  · have hend : ">".toList = ['>'] := rfl
    rw [written, rootWritten, String.toList_append, String.toList_append, hend,
      ← List.append_assoc, List.getLast?_concat]

/-! ## The table of codes -/

namespace RefusalKind

theorem ofCode_of_mem_table {row : Row} (h : row ∈ table) : ofCode row.code = row.kind := by
  obtain ⟨front, back, hsplit⟩ := List.append_of_mem h
  have hnodup := nodup_codes
  rw [hsplit, List.map_append, List.map_cons, List.nodup_append] at hnodup
  have hfind : (table.find? fun r => r.code = row.code) = some row := by
    rw [List.find?_eq_some_iff_append]
    refine ⟨decide_eq_true rfl, front, back, hsplit, fun r hr => ?_⟩
    have hne := hnodup.2.2 _ (List.mem_map_of_mem hr) _ List.mem_cons_self
    simpa using hne
  rw [ofCode, hfind]

theorem ne_unknown_of_mem_table : ∀ row ∈ table, row.kind ≠ .unknown := by decide +kernel

theorem description_of_mem_table : ∀ row ∈ table, row.kind.description = row.description := by
  have hmap : (table.map fun row => row.kind.description) = table.map Row.description := rfl
  exact List.map_inj_left.mp hmap

theorem ofCode_eq_unknown {code : String} (h : ∀ row ∈ table, row.code ≠ code) :
    ofCode code = .unknown := by
  have hnone : (table.find? fun row => row.code = code) = none :=
    List.find?_eq_none.mpr fun row hrow => by simpa using h row hrow
  rw [ofCode, hnone]

end RefusalKind

/-! ## Reading back -/

/-- Content that reports a code, a message and two identifiers, or some of
them, each in a child of its own. -/
structure RefusalDocument.WrittenIn (d : RefusalDocument) (k : Xml.Content) : Prop where
  code : k.Holds "Code" d.code
  message : k.Holds "Message" d.message
  requestId : k.Holds "RequestId" d.requestId
  hostId : k.Holds "HostId" d.hostId

/-- The parts are read as they were written. -/
theorem RefusalDocument.parse?_of_writtenIn {d : RefusalDocument} {doc : Xml.Document}
    (h : d.WrittenIn doc.content) : parse? (Utf8.encode doc.written) = some d := by
  have hplaced : Xml.WellPlaced shape doc.content.children := by
    refine Xml.Content.wellPlaced fun p hp => ?_
    simp only [shape, List.map_cons, List.map_nil, List.mem_cons, List.not_mem_nil,
      or_false] at hp
    rcases hp with rfl | rfl | rfl | rfl
    · exact h.code.places rfl
    · exact h.message.places rfl
    · exact h.requestId.places rfl
    · exact h.hostId.places rfl
  have hnone : "".toList.all isXmlBlank = true := rfl
  have hrecord := doc.record?_of_wellPlaced hnone hnone hplaced
  rw [String.empty_append, String.append_empty] at hrecord
  rw [parse?, hrecord, Option.bind_eq_bind, Option.bind_some, h.code.text? rfl,
    h.message.text? rfl, h.requestId.text? rfl, h.hostId.text? rfl]
  rfl

namespace Refusal

/-- A refusal tells what a document reports, whose text is given. -/
structure Tells (r : Refusal) (d : RefusalDocument) (text : String) : Prop where
  code : r.code = d.code
  requestId : r.requestId = d.requestId
  hostId : r.hostId = d.hostId
  /-- The message of the document is the message. -/
  message : ∀ m, d.message = some m → r.message = m
  /-- A code of the table has its kind, and its description stands for a message. -/
  listed : ∀ row ∈ RefusalKind.table, d.code = some row.code →
    r.kind = row.kind ∧ (d.message = none → r.message = row.description)
  /-- Any other code is shown in the message. -/
  unlisted : ∀ code, d.code = some code → (∀ row ∈ RefusalKind.table, row.code ≠ code) →
    r.kind = .unknown ∧
      (d.message = none → r.message = "an unhandled error code was returned: " ++ code)
  /-- Without a code and a message the text is the message. -/
  uncoded : d.code = none → r.kind = .unknown ∧ (d.message = none → r.message = text)

theorem tells_toRefusal (d : RefusalDocument) (text : String) :
    (d.toRefusal text).Tells d text := by
  refine ⟨rfl, rfl, rfl, ?_, ?_, ?_, ?_⟩
  · intro m hm
    simp only [RefusalDocument.toRefusal, hm]
  · intro row hrow hcode
    have hkind := RefusalKind.ofCode_of_mem_table hrow
    have hknown := RefusalKind.ne_unknown_of_mem_table row hrow
    have hdescription := RefusalKind.description_of_mem_table row hrow
    constructor
    · simp only [RefusalDocument.toRefusal, hcode, Option.map_some, Option.getD_some, hkind]
    · intro hmessage
      simp only [RefusalDocument.toRefusal, hcode, hmessage, Option.map_some, Option.getD_some,
        hkind, if_neg hknown, hdescription]
  · intro code hcode hother
    have hkind := RefusalKind.ofCode_eq_unknown hother
    constructor
    · simp only [RefusalDocument.toRefusal, hcode, Option.map_some, Option.getD_some, hkind]
    · intro hmessage
      simp only [RefusalDocument.toRefusal, hcode, hmessage, Option.map_some, Option.getD_some,
        hkind, if_true]
  · intro hcode
    constructor
    · simp only [RefusalDocument.toRefusal, hcode, Option.map_none, Option.getD_none]
    · intro hmessage
      simp only [RefusalDocument.toRefusal, hcode, hmessage]

/-- **Every error document is read back.** The four parts stand in children of
the root, in any order, with any text between them and any other children among
them. The refusal has the parts, the kind that the table has for the code, and
the message, or what stands for it: the description of the code, the code, or
all of the document without the blanks around it. -/
theorem tells_ofBody {d : RefusalDocument} {doc : Xml.Document} (h : d.WrittenIn doc.content)
    {front back : String} (hfront : front.toList.all isBlank = true)
    (hback : back.toList.all isBlank = true) :
    (ofBody (Utf8.encode (front ++ doc.written ++ back))).Tells d doc.written := by
  have htext : trimBy isBlank (Utf8.decodeLossy (Utf8.encode (front ++ doc.written ++ back))) =
      doc.written.toList := by
    obtain ⟨hhead, hlast⟩ := doc.ends_written
    rw [Utf8.decodeLossy_encode, String.toList_append, String.toList_append,
      trimBy_surrounded (List.all_eq_true.mp hfront) (List.all_eq_true.mp hback)]
    refine trimBy_of_ends (fun c hc => ?_) fun c hc => ?_
    · rw [hhead] at hc
      obtain rfl := Option.some.inj hc
      decide
    · rw [hlast] at hc
      obtain rfl := Option.some.inj hc
      decide
  have hbody : ofBody (Utf8.encode (front ++ doc.written ++ back)) =
      d.toRefusal doc.written := by
    rw [ofBody, htext, String.ofList_toList, RefusalDocument.parse?_of_writtenIn h]
  rw [hbody]
  exact tells_toRefusal d doc.written

def missingKey : RefusalDocument := ⟨some "NoSuchKey", none, none, some "a<b>"⟩

def missingKeyDocument : Xml.Document where
  prolog := none
  root := ⟨"Error", by decide, by decide⟩
  namespaceText := none
  content :=
    .element "\n  " ⟨"HostId", by decide, by decide⟩ (.text "a<b>") <|
    .element "\n  " ⟨"Resource", by decide, by decide⟩
      (.element "" ⟨"Code", by decide, by decide⟩ (.text "AccessDenied") (.text "")) <|
    .element "" ⟨"Code", by decide, by decide⟩ (.text "NoSuchKey") <|
    .void "&" ⟨"Message2", by decide, by decide⟩ (.text "\n")

theorem tells_ofBody_missingKey :
    missingKey.WrittenIn missingKeyDocument.content ∧
      (ofBody (Utf8.encode (" " ++ missingKeyDocument.written ++ "\n"))).code =
        some "NoSuchKey" ∧
      (ofBody (Utf8.encode (" " ++ missingKeyDocument.written ++ "\n"))).message =
        "The specified key does not exist." := by
  have hwritten : missingKey.WrittenIn missingKeyDocument.content := by
    have hnone : ∀ s ∈ (none : Option String), Xml.KeepsLines s := fun s hs => by cases hs
    refine ⟨⟨rfl, ?_⟩, ⟨rfl, hnone⟩, ⟨rfl, hnone⟩, ⟨rfl, ?_⟩⟩
    · intro s hs
      obtain rfl := Option.some.inj hs
      decide
    · intro s hs
      obtain rfl := Option.some.inj hs
      decide
  have hspace : " ".toList.all isBlank = true := by decide
  have hline : "\n".toList.all isBlank = true := by decide
  have htells := tells_ofBody hwritten hspace hline
  have hrow : ⟨"NoSuchKey", .noSuchKey, "The specified key does not exist."⟩ ∈
      RefusalKind.table := by simp [RefusalKind.table]
  exact ⟨hwritten, htells.code, (htells.listed _ hrow rfl).2 rfl⟩

end Refusal

end ObjectStore
