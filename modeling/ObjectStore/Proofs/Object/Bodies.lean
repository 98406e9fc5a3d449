import ObjectStore.Object.Put
import ObjectStore.Proofs.Digest.Parts

/-!
# Bodies of objects that are stored

What is sent of a body, and which digest goes with it. A file is read twice, in
parts that need not be the same. Both times the parts make up its content, so the
digest and the length that are announced are those of what is sent.
-/

namespace ObjectStore

/-- The digest of a content does not depend on the parts in which it is read. -/
theorem contentMd5OfParts_eq (parts : List Bytes) :
    contentMd5OfParts parts = contentMd5 parts.flatten :=
  congrArg Base64.encode (Md5.digestParts_eq parts)

theorem Chunks.collect_map_ok (parts : List Bytes) :
    collect (parts.map .ok) = .ok parts.flatten := by
  induction parts with
  | nil => rfl
  | cons part parts ih =>
      rw [List.map_cons, collect, ih]
      rfl

namespace FileContent

variable (k : FileContent)

theorem contentMd5_digested : contentMd5OfParts k.digested = contentMd5 k.bytes := by
  rw [contentMd5OfParts_eq, k.flatten_digested]

theorem collect_sent : Chunks.collect (k.sent.map .ok) = .ok k.bytes := by
  rw [Chunks.collect_map_ok, k.flatten_sent]

end FileContent

namespace PutBody

/-- What is sent of a body, behind the digest that goes with it. Nothing is
sent where there is no file. -/
def sent? : PutBody → Option (String × OutgoingBody)
  | .bytes bs => some (contentMd5 bs, .bytes bs)
  | .file f =>
    f.content.map fun k => (contentMd5 k.bytes, .stream (k.sent.map .ok) k.bytes.length)
  | .stream chunks length md5 => some (md5, .stream chunks length)

theorem attach_eq (op : Operation) (body : PutBody) :
    body.attach op =
      match body.sent? with
      | none => .error File.notFound
      | some (md5, sent) => .ok ((op.withHeader "content-md5" md5).withBody sent) := by
  cases body with
  | bytes bs => rfl
  | file f =>
      obtain ⟨path, _ | k⟩ := f
      · rfl
      · show Except.ok ((op.withHeader "content-md5" (contentMd5OfParts k.digested)).withBody _) = _
        rw [k.contentMd5_digested]
        rfl
  | stream chunks length md5 => rfl

theorem attach_eq_ok {op op' : Operation} {body : PutBody} :
    body.attach op = .ok op' ↔
      ∃ md5 sent, body.sent? = some (md5, sent) ∧
        op' = (op.withHeader "content-md5" md5).withBody sent := by
  rw [attach_eq]
  constructor
  · intro h
    split at h
    · cases h
    · next md5 sent hsent => exact ⟨md5, sent, hsent, (Except.ok.inj h).symm⟩
  · rintro ⟨md5, sent, hsent, rfl⟩
    rw [hsent]

end PutBody

end ObjectStore
