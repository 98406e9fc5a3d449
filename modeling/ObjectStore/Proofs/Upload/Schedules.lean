import ObjectStore.Proofs.Request.Building
import ObjectStore.Proofs.Transport.Answering
import ObjectStore.Proofs.Upload.InTurn
import ObjectStore.Upload.Uploader

/-!
# Uploads under every schedule

The outcome of an upload is a matter of its source and of the service alone.
Over a service whose answers are a function of the requests that it received,
the blocks of the source are stored in order up to the first one that is not
stored, whatever steps the two parties take and in whatever order.

Requests are compared up to their dates and signatures, since two uploads do
not make the same put at the same instant. Unless the instants agree, the
service must not look at them.
-/

namespace ObjectStore

/-! ## Puts -/

namespace UploadTask

section Turns

variable {σ : Type} (task : UploadTask σ) (answers : Answers)

/-- The requests of the puts of blocks, in order. -/
def requests (blocks : List Block) : List Request :=
  blocks.filterMap fun b => (task.put b).request?

variable {task answers}

end Turns

section Answered

variable {task : UploadTask (List Request)} {answers : Answers}

theorem storeAll_cons (htransport : task.transport = .answering answers)
    (final : Option CutterEnd) (received : List Request) (total : UploadTotal) (block : Block)
    (rest : List Block) :
    task.storeAll final received total (block :: rest) =
      match ((task.put block).outcome answers received).result with
      | .ok _ =>
        task.storeAll final (received ++ (task.put block).request?.toList) (total.add block) rest
      | .error cause =>
        (received ++ (task.put block).request?.toList,
          some (.error (task.blockFailure block.sequence cause))) := by
  cases hresult : ((task.put block).outcome answers received).result with
  | ok v => simp only [storeAll, htransport, Exchange.run_answering, hresult]
  | error cause => simp only [storeAll, htransport, Exchange.run_answering, hresult]

theorem storeAll_returns (htransport : task.transport = .answering answers) (exit : CutterEnd)
    (received : List Request) (total : UploadTotal) (blocks : List Block) :
    ∃ result, (task.storeAll (some exit) received total blocks).2 = some result := by
  induction blocks generalizing received total with
  | nil => exact ⟨_, rfl⟩
  | cons first rest ih =>
      rw [storeAll_cons htransport]
      cases ((task.put first).outcome answers received).result with
      | ok receipt => exact ih _ _
      | error cause => exact ⟨_, rfl⟩

end Answered

end UploadTask

/-! ## The blocks of a source in numbers -/

namespace Uploader

theorem report_of_returned {σ : Type} (u : Uploader) {r : UploadRun σ}
    {result : Except UploadFailure UploadTotal} (h : r.result? = some result) :
    u.report r = ⟨.returned result, { u with status := u.status.after result }, r.transport,
      r.connections, r.cutter.consumed⟩ := by
  rw [report, h]

def serving (u : Uploader) (name : String) (clock : Nat → Instant) (answers : Answers) :
    UploadTask (List Request) :=
  u.task name clock (.answering answers)

section Runs

variable {u : Uploader} {name : String} {source : Source} {stop : SourceStop}
  {clock : Nat → Instant} {answers : Answers} {received : List Request}
  {r : UploadRun (List Request)}

/-- A run is on its way to what the plain program comes to. -/
theorem outlook_started (hsize : 0 < u.blockSize) (hcapacity : 0 < u.capacity)
    (hstop : source.stop? = some stop)
    (hrun : UploadRun.Run (u.serving name clock answers) (u.started source received).2 r) :
    r.Consistent ∧ r.outlook (u.serving name clock answers) =
      (u.serving name clock answers).storeAll
        (some (.ofStop (source.blocks u.blockSize).length stop)) received ⟨0, 0⟩
        (source.blocks u.blockSize) := by
  have hstart := UploadRun.consistent_start hsize hcapacity source received
  obtain ⟨hconsistent, houtlook⟩ := UploadRun.outlook_run hstart hrun
  refine ⟨hconsistent, ?_⟩
  rw [houtlook, UploadRun.outlook_start, hstop]
  rfl

theorem returned_of_atRest (hsize : 0 < u.blockSize) (hcapacity : 0 < u.capacity)
    (hstop : source.stop? = some stop)
    (hrun : UploadRun.Run (u.serving name clock answers) (u.started source received).2 r)
    (hrest : UploadRun.AtRest (u.serving name clock answers) r) :
    ∃ result, r.result? = some result := by
  obtain ⟨hconsistent, houtlook⟩ := outlook_started hsize hcapacity hstop hrun
  have htransport : (u.serving name clock answers).transport = .answering answers := rfl
  have hresult := UploadTask.storeAll_returns htransport
    (.ofStop (source.blocks u.blockSize).length stop) received ⟨0, 0⟩ (source.blocks u.blockSize)
  rw [← houtlook, UploadRun.outlook_atRest hconsistent hrest] at hresult
  exact hresult

end Runs

def ofTwoBytes : Uploader := ⟨.ofLocalService 1024, "logs", 2, 1, default, .idle⟩

def takesOne : Answers := fun received =>
  if received.length = 1 then .ok ⟨200, ∅, none, .acquired⟩ else .error ⟨"down", none⟩

end Uploader

end ObjectStore
