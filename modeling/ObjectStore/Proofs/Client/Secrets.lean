import ObjectStore.Proofs.Client.Usage
import ObjectStore.Proofs.Request.Building
import ObjectStore.Proofs.Request.Unsigned

/-!
# The key shows in signatures alone

Two clients that differ in their keys alone are used for the same things, of a
service that does not look at signatures. They fail alike and succeed alike,
give connections back at the same moments, and send the same requests up to
their signatures. A call is settled the same way with either key; from there
one thing that is done keeps two usages the same, and so does everything.
-/

namespace ObjectStore

variable {α β σ : Type}

/-! ## Calls -/

/-- Two exchanges are the same but for the signature of the request that
they send, if they send one. -/
inductive Exchange.SameButSignature : Exchange α → Exchange α → Prop where
  | settled (s : Settled α) : SameButSignature (.settled s) (.settled s)
  | sending {r r' : Request} (settle : Except DeliveryError Answer → Settled α) :
      r.SameButSignature r' → SameButSignature (.sending r settle) (.sending r' settle)

namespace Exchange.SameButSignature

theorem refused (e : Failure) : SameButSignature (α := α) (.refused e) (.refused e) :=
  .settled _

theorem andThen {x x' : Exchange α} (h : x.SameButSignature x') (f : α → Settled β) :
    (x.andThen f).SameButSignature (x'.andThen f) := by
  cases h with
  | settled s => exact .settled _
  | sending settle hr => exact .sending _ hr

theorem map {x x' : Exchange α} (h : x.SameButSignature x') (f : α → β) :
    (x.map f).SameButSignature (x'.map f) :=
  h.andThen _

theorem checking {x x' : Exchange α} (h : x.SameButSignature x')
    (check : Except RequestFault Unit) :
    (Exchange.checking check x).SameButSignature (Exchange.checking check x') := by
  cases check with
  | ok _ => exact h
  | error fault => exact .refused _

end Exchange.SameButSignature

/-- A call whose operation, if it comes with one, can be built. -/
def Call.Built : Call → Prop
  | .ask op => op.Built
  | .command op => op.Built
  | .fetch op => op.Built
  | _ => True

section Calls

variable (c : Client) (secret : String) (now : Instant)

theorem Client.send_withSecret {op : Operation} (h : op.Built) (wantsBody : Bool) :
    (c.send op wantsBody now).SameButSignature
      ((c.withSecret secret).send op wantsBody now) := by
  have hprepare := c.unsigned_prepare secret h.lowerCase now
  unfold Client.send
  -- both are refused, or both become requests
  cases hr : c.prepare op now with
  | error e =>
      cases hr' : (c.withSecret secret).prepare op now with
      | error e' =>
          rw [hr, hr'] at hprepare
          obtain rfl := Except.error.inj hprepare
          exact .refused e'
      | ok r' =>
          rw [hr, hr'] at hprepare
          cases hprepare
  | ok r =>
      cases hr' : (c.withSecret secret).prepare op now with
      | error e' =>
          rw [hr, hr'] at hprepare
          cases hprepare
      | ok r' =>
          rw [hr, hr'] at hprepare
          have hsame : r.unsigned = r'.unsigned := (Except.ok.inj hprepare).symm
          exact .sending _ ⟨hsame, c.signed_of_prepare h.lowerCase hr,
            (c.withSecret secret).signed_of_prepare h.lowerCase hr'⟩

theorem Client.ask_withSecret {op : Operation} (h : op.Built) :
    (c.ask op now).SameButSignature ((c.withSecret secret).ask op now) :=
  c.send_withSecret secret now h _

theorem Client.fetch_withSecret {op : Operation} (h : op.Built) :
    (c.fetch op now).SameButSignature ((c.withSecret secret).fetch op now) :=
  (c.ask_withSecret secret now h).andThen _

theorem Client.putObject_withSecret (o : PutOptions) (bucket key : String) (body : PutBody) :
    (c.putObject o bucket key body now).SameButSignature
      ((c.withSecret secret).putObject o bucket key body now) := by
  unfold Client.putObject
  refine (Exchange.SameButSignature.checking ?_ _).checking _
  cases hattach : body.attach (o.operation bucket key) with
  | error e => exact .refused _
  | ok op =>
      have hbuilt := PutBody.built_attach (o.built_operation bucket key) hattach
      exact (c.send_withSecret secret now hbuilt _).map _

theorem ListQuery.built_operation (q : ListQuery) (bucket : String) :
    (q.operation bucket).Built := by
  unfold ListQuery.operation
  have hbucket : ((Operation.ofVerb .get).withBucket bucket).Built := .withBucket _ (.ofVerb _)
  generalize (Operation.ofVerb .get).withBucket bucket = op at hbucket
  induction q.parameters generalizing op with
  | nil => exact hbucket
  | cons p rest ih => exact ih _ (.withQuery _ _ hbucket)

theorem Client.built_objectOperation (verb : Verb) (bucket key : String) :
    (Client.objectOperation verb bucket key).Built :=
  .withKey _ (.withBucket _ (.ofVerb _))

theorem Call.exchange_withSecret {call : Call} (h : call.Built) :
    (call.exchange c now).SameButSignature (call.exchange (c.withSecret secret) now) := by
  have hobject (verb : Verb) (bucket key : String) :=
    Client.built_objectOperation verb bucket key
  cases call with
  | putObject o bucket key body => exact (c.putObject_withSecret secret now o bucket key body).map _
  | getObject bucket key =>
      have hfetch := c.fetch_withSecret secret now (hobject .get bucket key)
      exact (((hfetch.andThen _).checking _).checking _).map _
  | headObject bucket key =>
      have hfetch := c.fetch_withSecret secret now (hobject .head bucket key)
      exact (((hfetch.andThen _).checking _).checking _).map _
  | deleteObject bucket key =>
      have hsend := c.send_withSecret secret now (hobject .delete bucket key) false
      exact (((hsend.map _).checking _).checking _).map _
  | createBucket bucket acl =>
      have hsend := c.send_withSecret secret now
        (.withHeader CannedAcl.header acl.text (.withBucket bucket (.ofVerb .put))) false
      exact ((hsend.map _).checking _).map _
  | deleteBucket bucket =>
      have hsend := c.send_withSecret secret now (.withBucket bucket (.ofVerb .delete)) false
      exact ((hsend.map _).checking _).map _
  | listObjects bucket query =>
      have hask := c.ask_withSecret secret now (query.built_operation bucket)
      exact ((hask.andThen _).checking _).map _
  | ask op => exact (c.ask_withSecret secret now h).map _
  | command op => exact (c.send_withSecret secret now h _).map _
  | fetch op => exact (c.fetch_withSecret secret now h).map _

end Calls

/-! ## The service -/

/-- A service that does not look at signatures, and keeps the requests. -/
def Transport.unaware (answer : σ → Request → σ × Delivery) : Transport (Recorded σ) :=
  .recorded fun service r => answer service r.unsigned

/-- The service is in the same state and received the same but for signatures. -/
structure Recorded.SameButSignature (s s' : Recorded σ) : Prop where
  service : s.service = s'.service
  received : List.Forall₂ Request.SameButSignature s.received s'.received

/-- Over the same service, exchanges that are the same but for a signature
settle alike. -/
theorem Exchange.SameButSignature.run {x x' : Exchange α} (h : x.SameButSignature x')
    (answer : σ → Request → σ × Delivery) {s s' : Recorded σ} (hs : s.SameButSignature s') :
    (x.run (.unaware answer) s).1.SameButSignature (x'.run (.unaware answer) s').1 ∧
      (x.run (.unaware answer) s).2 = (x'.run (.unaware answer) s').2 := by
  cases h with
  | settled settled => exact ⟨hs, rfl⟩
  | @sending r r' settle hr =>
      have hkept : List.Forall₂ Request.SameButSignature (s.received ++ [r])
          (s'.received ++ [r']) :=
        List.rel_append hs.received (.cons hr .nil)
      unfold Exchange.run Transport.unaware Transport.recorded
      dsimp only
      rw [hs.service, hr.same]
      rcases answer s'.service r'.unsigned with ⟨service, a | e | _⟩
      · exact ⟨⟨rfl, hkept⟩, rfl⟩
      · exact ⟨⟨rfl, hkept⟩, rfl⟩
      · exact ⟨⟨rfl, hkept⟩, rfl⟩

/-! ## Uploads -/

def UploadTask.withSecret (task : UploadTask σ) (secret : String) : UploadTask σ :=
  { task with client := task.client.withSecret secret }

/-- The uploader of the client that signs with another key. -/
def Uploader.withSecret (u : Uploader) (secret : String) : Uploader :=
  { u with client := u.client.withSecret secret }

/-- Two uploads over the same service are otherwise the same. -/
structure UploadRun.SameButSignature (r r' : UploadRun (Recorded σ)) : Prop where
  rest : { r with transport := r'.transport } = r'
  transport : r.transport.SameButSignature r'.transport

section Uploads

variable (answer : σ → Request → σ × Delivery) (secret : String)
  {task : UploadTask (Recorded σ)} {r r' : UploadRun (Recorded σ)}

namespace UploadRun

theorem SameButSignature.of_eq (h : r.SameButSignature r') {s s' : UploadRun (Recorded σ)}
    (hs : s.transport = r.transport) (hs' : { s with transport := r'.transport } = s') :
    s.SameButSignature s' := by
  subst hs'
  exact ⟨rfl, hs ▸ h.transport⟩

theorem SameButSignature.cutterStep (h : r.SameButSignature r') :
    (r.cutterStep.getD r).SameButSignature (r'.cutterStep.getD r') := by
  have hstep : r'.cutterStep = r.cutterStep.map fun s => { s with transport := r'.transport } := by
    rw [← h.rest]
    unfold UploadRun.cutterStep
    rw [Option.map_map]
    rfl
  rw [hstep]
  cases hr : r.cutterStep with
  | none => exact h
  | some s =>
      obtain ⟨p, -, rfl⟩ := Option.map_eq_some_iff.mp hr
      exact h.of_eq rfl rfl

theorem SameButSignature.store (h : r.SameButSignature r')
    (htask : task.transport = .unaware answer) (block : Block) :
    (r.store task block).SameButSignature (r'.store (task.withSecret secret) block) := by
  have hput : (task.put block).SameButSignature ((task.withSecret secret).put block) :=
    task.client.putObject_withSecret secret _ _ _ _ _
  obtain ⟨hservice, hanswer⟩ := hput.run answer h.transport
  unfold UploadRun.store
  rw [← h.rest, htask, show (task.withSecret secret).transport = .unaware answer from htask]
  refine ⟨?_, hservice⟩
  dsimp only
  rw [hanswer]

theorem SameButSignature.uploaderStep (h : r.SameButSignature r')
    (htask : task.transport = .unaware answer) :
    ((r.uploaderStep task).getD r).SameButSignature
      ((r'.uploaderStep (task.withSecret secret)).getD r') := by
  have hphase : r'.phase = r.phase := by rw [← h.rest]
  have hcutter : r'.cutter = r.cutter := by rw [← h.rest]
  have hchannel : r'.channel = r.channel := by rw [← h.rest]
  unfold UploadRun.uploaderStep
  rw [hphase, hcutter, hchannel]
  -- only a put reaches the service
  cases r.phase with
  | sending block => exact h.store answer secret htask block
  | receiving =>
      dsimp only
      split
      · exact h.of_eq rfl (by rw [← h.rest]; rfl)
      · split
        · exact h.of_eq rfl (by rw [← h.rest]; rfl)
        · exact h
  | storing block a =>
      cases a with
      | none => exact h
      | some a =>
          dsimp only [Option.map_some, Option.getD_some]
          unfold stored
          cases a.result with
          | ok receipt => exact h.of_eq rfl (by rw [← h.rest])
          | error cause => exact h.of_eq rfl (by rw [← h.rest])
  | cancelling sequence cause => exact h.of_eq rfl (by rw [← h.rest]; rfl)
  | dropping sequence cause => exact h.of_eq rfl (by rw [← h.rest]; rfl)
  | stopping sequence cause =>
      dsimp only
      split
      · exact h.of_eq rfl (by rw [← h.rest]; rfl)
      · exact h
  | joining =>
      cases r.cutter.exit? with
      | none => exact h
      | some exit => exact h.of_eq rfl (by rw [← h.rest]; rfl)
  | returned result => exact h
  | abandoned => exact h

theorem SameButSignature.move (h : r.SameButSignature r')
    (htask : task.transport = .unaware answer) (m : Move) :
    (r.move task m).SameButSignature (r'.move (task.withSecret secret) m) := by
  cases m with
  | cutter => exact h.cutterStep
  | uploader => exact h.uploaderStep answer secret htask
  | fed event => exact h.of_eq rfl (by rw [← h.rest]; rfl)

theorem SameButSignature.moveAll (h : r.SameButSignature r')
    (htask : task.transport = .unaware answer) (moves : List Move) :
    (r.moveAll task moves).SameButSignature (r'.moveAll (task.withSecret secret) moves) := by
  induction moves generalizing r r' with
  | nil => exact h
  | cons m rest ih => exact ih (h.move answer secret htask m)

end UploadRun

/-- The uploader has another key, and the service is in the same state; the rest
of two reports is the same. -/
structure UploadReport.SameButSignature (report report' : UploadReport (Recorded σ)) : Prop where
  rest : { report with
    uploader := report.uploader.withSecret secret
    transport := report'.transport } = report'
  transport : report.transport.SameButSignature report'.transport

namespace Uploader

theorem report_sameButSignature (u : Uploader) (h : r.SameButSignature r') :
    (u.report r).SameButSignature secret ((u.withSecret secret).report r') := by
  have hresult : r'.result? = r.result? := by rw [← h.rest]; rfl
  unfold report
  rw [hresult]
  cases r.result? with
  | some result => exact ⟨by rw [← h.rest]; rfl, h.transport⟩
  | none => exact ⟨by rw [← h.rest]; rfl, h.transport⟩

theorem uploadBy_withSecret (u : Uploader) (name : String) (source : Source)
    (clock : Nat → Instant) {s s' : Recorded σ} (hs : s.SameButSignature s')
    (moves : List UploadRun.Move) :
    (u.uploadBy name source clock (.unaware answer) s moves).SameButSignature secret
      ((u.withSecret secret).uploadBy name source clock (.unaware answer) s' moves) := by
  unfold uploadBy
  cases checkName name with
  | error e => exact ⟨rfl, hs⟩
  | ok _ =>
      have hstart : (u.started source s).2.SameButSignature (u.started source s').2 := ⟨rfl, hs⟩
      have htask : (u.task name clock (.unaware answer)).transport = .unaware answer := rfl
      have hmoved := hstart.moveAll answer secret htask moves
      exact report_sameButSignature secret (u.started source s).1 hmoved

theorem ofSettings_withSecret (c : Client) (bucket : String) (blockSize capacity : Nat)
    (acl : CannedAcl) :
    ofSettings (c.withSecret secret) bucket blockSize capacity acl =
      (ofSettings c bucket blockSize capacity acl).map (withSecret · secret) := by
  unfold ofSettings
  split
  · rfl
  · split
    · rfl
    · cases checkBucket bucket <;> rfl

end Uploader
end Uploads

/-! ## Usages -/

namespace Usage

/-- Two usages with two keys: the service is in the same state, the uploaders
have the other key, and the rest is the same. -/
structure SameButSignature (secret : String) (w w' : Usage σ) : Prop where
  rest : { w with
    transport := w'.transport
    uploaders := w.uploaders.map (·.withSecret secret) } = w'
  transport : w.transport.SameButSignature w'.transport

def Act.Built : Act → Prop
  | .call c _ => c.Built
  | _ => True

variable (answer : σ → Request → σ × Delivery) {secret : String} {w w' : Usage σ}

section Same

variable (h : w.SameButSignature secret w')

include h

/-- Usages with two keys show the same and have the same bodies and connections. -/
theorem SameButSignature.shown : w'.shown = w.shown := by rw [← h.rest]

theorem SameButSignature.bodies : w'.bodies = w.bodies := by rw [← h.rest]

theorem SameButSignature.releases : w'.releases = w.releases := by
  rw [← h.rest]
  rfl

end Same

theorem SameButSignature.showing (h : w.SameButSignature secret w') (shown : Shown) :
    (w.showing shown).SameButSignature secret (w'.showing shown) :=
  ⟨by rw [← h.rest]; rfl, h.transport⟩

theorem SameButSignature.called (h : w.SameButSignature secret w') {s s' : Recorded σ}
    (hs : s.SameButSignature s') (settled : Option (Settled Returned)) :
    (w.called s settled).SameButSignature secret (w'.called s' settled) := by
  unfold Usage.called
  cases settled with
  | none => exact ⟨by rw [← h.rest]; rfl, hs⟩
  | some settled => exact ⟨by rw [← h.rest]; rfl, hs⟩

theorem SameButSignature.read (h : w.SameButSignature secret w') (index : Nat)
    (step : IncomingBody.Step) :
    (w.read index step).SameButSignature secret (w'.read index step) := by
  unfold Usage.read
  rw [h.bodies]
  cases w.bodies[index]? with
  | none => exact h
  | some body => exact ⟨by rw [← h.rest]; rfl, h.transport⟩

theorem SameButSignature.made (h : w.SameButSignature secret w')
    (result : Except UploadFailure Uploader) :
    (w.made result).SameButSignature secret (w'.made (result.map (·.withSecret secret))) := by
  cases result with
  | error e => exact h.showing _
  | ok u =>
      have hadded : SameButSignature secret { w with uploaders := w.uploaders ++ [u] }
          { w' with uploaders := w'.uploaders ++ [u.withSecret secret] } := by
        refine ⟨?_, h.transport⟩
        rw [← h.rest, List.map_append]
        rfl
      exact hadded.showing _

theorem SameButSignature.reported (h : w.SameButSignature secret w') (index : Nat)
    {report report' : UploadReport (Recorded σ)}
    (hreport : report.SameButSignature secret report') :
    (w.reported index report).SameButSignature secret (w'.reported index report') := by
  refine ⟨?_, hreport.transport⟩
  rw [← h.rest, ← hreport.rest]
  unfold Usage.reported Usage.showing
  dsimp only
  rw [List.map_set]
  rfl

theorem SameButSignature.act (h : w.SameButSignature secret w') (c : Client) {a : Act}
    (ha : a.Built) :
    (w.act c (.unaware answer) a).SameButSignature secret
      (w'.act (c.withSecret secret) (.unaware answer) a) := by
  cases a with
  | call call now =>
      have hcall : call.Built := ha
      obtain ⟨hservice, hanswer⟩ :=
        (Call.exchange_withSecret c secret now hcall).run answer h.transport
      unfold Usage.act
      dsimp only
      rw [← hanswer]
      exact h.called hservice _
  | read index step => exact h.read index step
  | makeUploader bucket blockSize capacity acl =>
      unfold Usage.act
      dsimp only
      rw [Uploader.ofSettings_withSecret]
      exact h.made _
  | upload index name source clock moves =>
      have huploaders : w'.uploaders = w.uploaders.map (·.withSecret secret) := by rw [← h.rest]
      unfold Usage.act
      dsimp only
      rw [huploaders, List.getElem?_map]
      cases w.uploaders[index]? with
      | none => exact h
      | some u =>
          exact h.reported index
            (u.uploadBy_withSecret answer secret name source clock h.transport moves)

theorem SameButSignature.run (h : w.SameButSignature secret w') (c : Client) {acts : List Act}
    (hacts : ∀ a ∈ acts, a.Built) :
    (w.run c (.unaware answer) acts).SameButSignature secret
      (w'.run (c.withSecret secret) (.unaware answer) acts) := by
  induction acts generalizing w w' with
  | nil => exact h
  | cons a rest ih =>
      obtain ⟨ha, hrest⟩ := List.forall_mem_cons.mp hacts
      exact ih (h.act answer c ha) hrest

end Usage

/-! ## What shows of the key -/

namespace Client

/-- How the part of a client is shown that carries out operations. -/
def executorShown (c : Client) : String :=
  Quoted.record "RequestExecutor"
    [("credentials", c.credentials.shown), ("endpoint", Quoted.text c.endpoint.text),
      ("max_error_body", toString c.errorLimit)]

theorem shown_eq (c : Client) :
    c.shown = Quoted.record "Client" [("executor", c.executorShown)] := rfl

/-- **The key shows in signatures alone.** Two clients that differ in it are used
for the same things, of a service that does not look at signatures. All that
shows is the same, failures with their texts included, at the same counts of
releases. The service received the same requests up to the signatures, which
are all there. The clients, what carries out their operations and their
credentials are shown alike, and whether an operation can be sent is the same
for both, and why not. -/
theorem secret_only_in_signatures (c : Client) (secret : String)
    (answer : σ → Request → σ × Delivery) (service : σ) (acts : List Usage.Act)
    (hacts : ∀ a ∈ acts, a.Built) :
    let w := (Usage.start service).run c (.unaware answer) acts
    let w' := (Usage.start service).run (c.withSecret secret) (.unaware answer) acts
    (w'.shown = w.shown ∧ w'.releases = w.releases ∧ w'.bodies = w.bodies ∧
      w'.transport.service = w.transport.service ∧
      List.Forall₂ Request.SameButSignature w.transport.received w'.transport.received) ∧
    ((c.withSecret secret).shown = c.shown ∧
      (c.withSecret secret).executorShown = c.executorShown ∧
      (c.credentials.withSecret secret).shown = c.credentials.shown) ∧
    ∀ op : Operation, op.Built → ∀ now,
      ((c.withSecret secret).prepare op now).map Request.unsigned =
        (c.prepare op now).map Request.unsigned := by
  have hstart : (Usage.start service).SameButSignature secret (Usage.start service) :=
    ⟨rfl, rfl, .nil⟩
  have hrun := hstart.run answer c hacts
  refine ⟨?_, ⟨rfl, rfl, rfl⟩, fun op h now => c.unsigned_prepare secret h.lowerCase now⟩
  exact ⟨hrun.shown, hrun.releases, hrun.bodies, hrun.transport.service.symm,
    hrun.transport.received⟩

/-- A service that counts its answers, each of which is an empty body. -/
def answeringEmpty : Nat → Request → Nat × Delivery :=
  fun count _ => (count + 1, .answered ⟨200, ∅, some [], .acquired⟩)

def readingEmpty : List Usage.Act :=
  [.call (.ask (.ofVerb .get)) ⟨0⟩, .read 0 .next, .makeUploader "" 1 1 default]

theorem secret_only_in_signatures_readingEmpty :
    ∃ r r' : Request, r.SameButSignature r' ∧
      ((Usage.start 0).run (.ofLocalService 1024) (.unaware answeringEmpty)
        readingEmpty).transport.received = [r] ∧
      ((Usage.start 0).run ((ofLocalService 1024).withSecret "another")
        (.unaware answeringEmpty) readingEmpty).transport.received = [r'] := by
  have hacts : ∀ a ∈ readingEmpty, a.Built := by
    simp only [readingEmpty, List.forall_mem_cons]
    exact ⟨.ofVerb .get, trivial, trivial, fun _ h => by cases h⟩
  obtain ⟨r, hsent⟩ := exists_request_ofLocalService 1024
  have hask : (ofLocalService 1024).ask (.ofVerb .get) ⟨0⟩ =
      .sending r ((ofLocalService 1024).settle (Operation.ofVerb .get).path true) :=
    send_eq_sending hsent true
  have hreceived : ((Usage.start 0).run (.ofLocalService 1024) (.unaware answeringEmpty)
      readingEmpty).transport.received = [r] := by
    rw [Usage.run, readingEmpty, List.foldl_cons, Usage.act, Call.exchange, hask]
    rfl
  obtain ⟨⟨-, -, -, -, hsame⟩, -⟩ :=
    secret_only_in_signatures (ofLocalService 1024) "another" answeringEmpty 0 readingEmpty hacts
  rw [hreceived, List.forall₂_cons_left_iff] at hsame
  obtain ⟨r', rest, hr, hrest, hreceived'⟩ := hsame
  rw [List.forall₂_nil_left_iff.mp hrest] at hreceived'
  exact ⟨r, r', hr, hreceived, hreceived'⟩

end Client
end ObjectStore
