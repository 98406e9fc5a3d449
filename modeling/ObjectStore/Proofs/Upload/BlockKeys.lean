import ObjectStore.Proofs.Client.Results
import ObjectStore.Proofs.Request.Resources
import ObjectStore.Proofs.Upload.Schedules

/-!
# The keys of blocks

A block is stored under the name of its stream, a dot and its number. The name
is checked once, with the greatest number there is. Numbers only add digits
behind the last dot, so no other one makes a key longer or adds a segment to it,
and the check holds of all blocks. For the same reason a key tells which block
of which stream it belongs to.
-/

namespace ObjectStore

/-! ## What a key is made of -/

theorem toList_blockKey (name : String) (sequence : Nat) :
    (blockKey name sequence).toList = name.toList ++ '.' :: Nat.toDigits 10 sequence := by
  simp only [blockKey, Nat.toString_eq_ofList_toDigits, String.toList_append, String.toList_ofList,
    List.append_assoc]
  rfl

theorem ne_of_mem_toDigits {c d : Char} {n : Nat} (hc : c ∈ Nat.toDigits 10 n)
    (hd : d.isDigit = false) : c ≠ d := by
  rintro rfl
  rw [Nat.isDigit_of_mem_toDigits (by decide) (by decide) hc] at hd
  cases hd

theorem blockKey_eq_iff {name name' : String} {sequence sequence' : Nat} :
    blockKey name' sequence' = blockKey name sequence ↔
      name' = name ∧ sequence' = sequence := by
  have hdot (n : Nat) : '.' ∉ (Nat.toDigits 10 n).reverse := fun hmem =>
    ne_of_mem_toDigits (List.mem_reverse.mp hmem) rfl rfl
  constructor
  · intro h
    rw [← String.toList_inj, toList_blockKey, toList_blockKey, ← List.reverse_inj,
      List.reverse_append, List.reverse_append, List.reverse_cons, List.reverse_cons,
      List.append_assoc, List.append_assoc] at h
    -- read from the end, the first dot divides the key
    obtain ⟨hdigits, hname⟩ := (append_cons_inj (hdot sequence') (hdot sequence)).mp h
    refine ⟨String.toList_inj.mp (List.reverse_inj.mp hname), ?_⟩
    rw [← @Nat.ofDigitChars_ten_toDigits sequence', List.reverse_inj.mp hdigits,
      Nat.ofDigitChars_ten_toDigits]
  · rintro ⟨rfl, rfl⟩
    rfl

theorem length_encode_blockKey (name : String) (sequence : Nat) :
    (Utf8.encode (blockKey name sequence)).length =
      (Utf8.encode name).length + 1 + (Nat.toDigits 10 sequence).length := by
  have hascii : ∀ c ∈ Nat.toDigits 10 sequence, c.toNat < 0x80 := by
    intro c hc
    have hdigit := Nat.isDigit_of_mem_toDigits (by decide) (by decide) hc
    simp only [Char.isDigit, Bool.and_eq_true, decide_eq_true_eq, UInt32.le_iff_toNat_le] at hdigit
    exact Nat.lt_of_le_of_lt hdigit.2 (by decide)
  simp only [blockKey, Nat.toString_eq_ofList_toDigits, Utf8.encode_append, Utf8.encode_ofList,
    Utf8.encodeChars_ascii hascii, List.length_append, List.length_map]
  rfl

/-- The number of a block opens no segment of its own, and the segment that it
ends is none that a URL would resolve. -/
theorem hasDotSegment_blockKey (name : String) (sequence : Nat) :
    HasDotSegment (blockKey name sequence) ↔
      ∃ segment ∈ (keySegments name).dropLast, segment = ['.'] ∨ segment = ['.', '.'] := by
  have hslash : ∀ c ∈ '.' :: Nat.toDigits 10 sequence, (c == '/') = false := by
    intro c hc
    rcases List.mem_cons.mp hc with rfl | hc
    · rfl
    · exact beq_eq_false_iff_ne.mpr (ne_of_mem_toDigits hc rfl)
  obtain ⟨front, last, hname, hkey⟩ := splitWhere_append_none hslash name.toList
  rw [← toList_blockKey] at hkey
  rw [HasDotSegment, keySegments, keySegments, hname, hkey, List.dropLast_concat]
  constructor
  · rintro ⟨segment, hmem, hdot⟩
    rcases List.mem_append.mp hmem with hmem | hmem
    · exact ⟨segment, hmem, hdot⟩
    · -- a segment that ends in a digit is not made of dots
      obtain ⟨digit, hdigit⟩ := List.exists_mem_of_ne_nil _ (@Nat.toDigits_ne_nil sequence 10)
      have hall : digit = '.' := by
        have hin : digit ∈ segment := by
          rw [List.mem_singleton.mp hmem]
          exact List.mem_append_right _ (List.mem_cons_of_mem _ hdigit)
        rcases hdot with rfl | rfl <;> simpa using hin
      exact absurd hall (ne_of_mem_toDigits hdigit rfl)
  · rintro ⟨segment, hmem, hdot⟩
    exact ⟨segment, List.mem_append_left _ hmem, hdot⟩

/-! ## The check -/

/-- The check of the key of a block looks at the name and at the number of
digits. -/
theorem checkKey_blockKey {name : String} {sequence : Nat} :
    checkKey (blockKey name sequence) = .ok () ↔
      (Utf8.encode name).length + 1 + (Nat.toDigits 10 sequence).length ≤ 1024 ∧
        name.toList.head? ≠ some '/' ∧ (∀ c ∈ name.toList, c ≠ '\r' ∧ c ≠ '\n') ∧
        ¬∃ segment ∈ (keySegments name).dropLast, segment = ['.'] ∨ segment = ['.', '.'] := by
  have hhead : (blockKey name sequence).toList.head? = some '/' ↔
      name.toList.head? = some '/' := by
    rw [toList_blockKey]
    cases name.toList with
    | nil => simp
    | cons c cs => rfl
  have hline : (∀ c ∈ (blockKey name sequence).toList, c ≠ '\r' ∧ c ≠ '\n') ↔
      ∀ c ∈ name.toList, c ≠ '\r' ∧ c ≠ '\n' := by
    rw [toList_blockKey]
    constructor
    · exact fun h c hc => h c (List.mem_append_left _ hc)
    · intro h c hc
      rcases List.mem_append.mp hc with hc | hc
      · exact h c hc
      rcases List.mem_cons.mp hc with rfl | hc
      · decide
      · exact ⟨ne_of_mem_toDigits hc rfl, ne_of_mem_toDigits hc rfl⟩
  rw [checkKey_eq_ok, length_encode_blockKey, hasDotSegment_blockKey, hline, Ne, Ne, Ne, hhead]
  exact and_iff_right (by omega)

theorem length_toDigits_le {sequence : Nat} (h : sequence < Decimal.limit64) :
    (Nat.toDigits 10 sequence).length ≤ (Nat.toDigits 10 Uploader.lastSequence).length := by
  have hlast : (Nat.toDigits 10 Uploader.lastSequence).length = 20 := by decide +kernel
  rw [hlast, Nat.length_toDigits_le_iff (by decide) (by decide)]
  exact Nat.lt_of_lt_of_le h (by decide)

/-- The keys of all blocks pass the check if the name of the stream does. -/
theorem Uploader.checkKey_of_checkName {name : String} (h : checkName name = .ok ())
    {sequence : Nat} (hs : sequence < Decimal.limit64) :
    checkKey (blockKey name sequence) = .ok () := by
  have hlast : checkKey (blockKey name lastSequence) = .ok () := by
    unfold checkName at h
    split at h
    · cases h
    · assumption
  obtain ⟨hlength, hrest⟩ := checkKey_blockKey.mp hlast
  exact checkKey_blockKey.mpr
    ⟨Nat.le_trans (Nat.add_le_add_left (length_toDigits_le hs) _) hlength, hrest⟩

/-! ## What a put can fail with -/

namespace Client

variable {c : Client} {op : Operation} {now : Instant} {fault : RequestFault} {σ : Type}
  {t : Transport σ} {s : σ}

/-- Sending an operation that was built finds fault with a request only because
of its path. -/
theorem pathChanged_of_send {wantsBody : Bool}
    (h : (c.send op wantsBody now).resultOver t s = some (.error (.request fault))) :
    ∃ resource sent, c.prepare op now = .error (.request (.pathChanged resource sent)) := by
  cases hprepare : c.prepare op now with
  | error e =>
      rw [send, hprepare] at h
      obtain rfl : e = .request fault := Except.error.inj (Option.some.inj h)
      unfold prepare at hprepare
      split at hprepare
      · cases hprepare
      · dsimp only at hprepare
        split at hprepare
        · cases hprepare
        · exact ⟨_, _, congrArg Except.error (Except.error.inj hprepare).symm⟩
  | ok request =>
      -- what comes of a request that was sent is no fault of the request
      exfalso
      rcases hsend : t.send s request with ⟨s', a | e | _⟩
      · rw [resultOver_answered hprepare hsend, Option.some.injEq] at h
        cases hsuccess : isSuccess a.status with
        | true =>
            rw [result_settle_of_success hsuccess] at h
            cases h
        | false =>
            rw [result_settle_of_refusal hsuccess, refusal_firstBytes] at h
            split at h
            · cases h
            · split at h <;> cases h
      · rw [resultOver_failed hprepare hsend] at h
        cases h
      · simp only [Exchange.resultOver, send_eq_sending hprepare, Exchange.run, hsend,
          Option.map_none, reduceCtorEq] at h

/-- At an endpoint of the web an operation on an object is not refused because of
its path, if its key passes the check. -/
theorem prepare_ne_pathChanged {bucket key : String} (hweb : c.endpoint.IsWeb)
    (hop : op.OnObject bucket key) (hkey : checkKey key = .ok ()) (resource sent : String) :
    c.prepare op now ≠ .error (.request (.pathChanged resource sent)) := by
  intro hrefused
  obtain ⟨-, hchanged⟩ := prepare_pathChanged_iff.mp ⟨resource, sent, hrefused⟩
  exact hchanged ((hop.path_withPath_eq_iff hweb).mpr (checkKey_eq_ok.mp hkey).2.2.2.2)

end Client

theorem PutBody.onObject_attach {op op' : Operation} {bucket key : String}
    (h : op.OnObject bucket key) {body : PutBody} (hattach : body.attach op = .ok op') :
    op'.OnObject bucket key := by
  obtain ⟨md5, sent, -, rfl⟩ := attach_eq_ok.mp hattach
  exact ⟨h.checked, h.bucket, h.key⟩

theorem PutOptions.onObject_operation {bucket : String} (h : checkBucket bucket = .ok ())
    (o : PutOptions) (key : String) : (o.operation bucket key).OnObject bucket key := by
  rw [o.operation_eq]
  exact ⟨h, rfl, rfl⟩

/-- A put whose key passes the check is not refused, whatever the service
does. -/
theorem Client.putObject_not_refused {c : Client} (hweb : c.endpoint.IsWeb) {bucket key : String}
    (hbucket : checkBucket bucket = .ok ()) (hkey : checkKey key = .ok ()) (o : PutOptions)
    (body : PutBody) (now : Instant) {σ : Type} (t : Transport σ) (s : σ) (fault : RequestFault) :
    (c.putObject o bucket key body now).resultOver t s ≠ some (.error (.request fault)) := by
  intro h
  rw [putObject, Exchange.resultOver_checking hbucket, Exchange.resultOver_checking hkey] at h
  cases hattach : body.attach (o.operation bucket key) with
  | error e =>
      rw [hattach] at h
      cases Except.error.inj (Option.some.inj h)
  | ok op =>
      rw [hattach] at h
      dsimp only at h
      rw [Exchange.map, Exchange.resultOver_andThen, Option.map_eq_some_iff] at h
      obtain ⟨result, hresult, hfault⟩ := h
      cases result with
      | ok response => cases hfault
      | error e =>
          obtain rfl : e = .request fault := Except.error.inj hfault
          obtain ⟨resource, sent, hchanged⟩ := pathChanged_of_send hresult
          have hobject := PutBody.onObject_attach (o.onObject_operation hbucket key) hattach
          exact prepare_ne_pathChanged hweb hobject hkey resource sent hchanged

namespace UploadTask

variable {σ : Type} {task : UploadTask σ}

theorem put_of_storeAll {final : Option CutterEnd} {transport : σ} {total : UploadTotal}
    {blocks : List Block} {sequence : Nat} {key : String} {cause : Failure}
    (h : (task.storeAll final transport total blocks).2 =
      some (.error (.block sequence key cause))) :
    ∃ block s, block.sequence = sequence ∧
      (task.put block).resultOver task.transport s = some (.error cause) := by
  induction blocks generalizing transport total with
  | nil =>
      obtain ⟨exit, -, hexit⟩ := Option.map_eq_some_iff.mp h
      cases exit <;> cases hexit
  | cons block rest ih =>
      simp only [storeAll] at h
      split at h
      · cases h
      · next transport' answer hrun =>
          split at h
          · exact ih h
          · next e hanswer =>
              simp only [Option.some.injEq, Except.error.injEq, blockFailure,
                UploadFailure.block.injEq] at h
              obtain ⟨hsequence, -, rfl⟩ := h
              exact ⟨block, transport, hsequence, by
                rw [Exchange.resultOver, hrun, Option.map_some, hanswer]⟩

end UploadTask

namespace Uploader

/-- **One check of the name is enough for an upload.** If it passes, the key of
every block whose number has 64 bits passes the check of keys, and no operation
on it is refused because of its path at an endpoint of the web. So no upload
there fails because the request for one of these blocks was refused. Two blocks
have the same key only if they are the same block of the same stream. -/
theorem one_check_for_all_blocks (name : String) :
    (checkName name = .ok () →
      (∀ sequence < Decimal.limit64,
        checkKey (blockKey name sequence) = .ok () ∧
        ∀ (c : Client) (op : Operation) (bucket : String) (now : Instant),
          c.endpoint.IsWeb → op.OnObject bucket (blockKey name sequence) →
          ∀ resource sent, c.prepare op now ≠ .error (.request (.pathChanged resource sent))) ∧
      ∀ {σ : Type} (u : Uploader) (source : Source) (clock : Nat → Instant) (t : Transport σ)
        (transport : σ) (r : UploadRun σ), checkBucket u.bucket = .ok () →
        u.client.endpoint.IsWeb → 0 < u.blockSize → 0 < u.capacity →
        UploadRun.Run (u.task name clock t) (u.started source transport).2 r →
        ∀ sequence < Decimal.limit64, ∀ key fault,
          r.result? ≠ some (.error (.block sequence key (.request fault)))) ∧
    ∀ name' sequence sequence', blockKey name' sequence' = blockKey name sequence ↔
      name' = name ∧ sequence' = sequence := by
  refine ⟨fun hname => ⟨?_, ?_⟩, fun _ _ _ => blockKey_eq_iff⟩
  · intro sequence hs
    have hkey := checkKey_of_checkName hname hs
    exact ⟨hkey, fun c op bucket now hweb hop => Client.prepare_ne_pathChanged hweb hop hkey⟩
  · intro σ u source clock t transport r hbucket hweb hsize hcapacity hrun sequence hs key fault
      hresult
    -- what a run returns is what storing the blocks in turn returns
    obtain ⟨-, houtlook⟩ := UploadRun.outlook_run
      (UploadRun.consistent_start hsize hcapacity source transport) hrun
    rw [UploadRun.outlook_returned hresult, UploadRun.outlook_start] at houtlook
    obtain ⟨block, s, hsequence, hput⟩ :=
      UploadTask.put_of_storeAll (congrArg Prod.snd houtlook.symm)
    have hkey : checkKey (blockKey name block.sequence) = .ok () :=
      checkKey_of_checkName hname (hsequence ▸ hs)
    exact Client.putObject_not_refused hweb hbucket hkey _ _ _ t s fault hput

/-- The second block of three bytes that are uploaded under the name `log`. -/
theorem one_check_for_all_blocks_ofTwoBytes :
    checkName "log" = .ok () ∧ checkKey "log.1" = .ok () ∧
      (∀ fault, (UploadRun.settle (ofTwoBytes.serving "log" (fun _ => ⟨0⟩) takesOne)
        (ofTwoBytes.started [.bytes [1, 2, 3], .ended] []).2).result? ≠
          some (.error (.block 1 "log.1" (.request fault)))) ∧
      blockKey "log" 1 ≠ blockKey "log.1" 1 := by
  have hname : checkName "log" = .ok () := by decide +kernel
  obtain ⟨hchecked, hdifferent⟩ := one_check_for_all_blocks "log"
  obtain ⟨hkeys, huploads⟩ := hchecked hname
  have hkey : blockKey "log" 1 = "log.1" := by decide +kernel
  refine ⟨hname, hkey ▸ (hkeys 1 (by decide)).1, fun fault => ?_, fun h => ?_⟩
  · exact huploads ofTwoBytes _ _ _ _ _ (by decide +kernel) (Or.inl rfl) (by decide) (by decide)
      (UploadRun.run_settle _ _) 1 (by decide) "log.1" fault
  · exact absurd ((hdifferent "log.1" 1 1).mp h.symm).1 (by decide)

end Uploader
end ObjectStore
