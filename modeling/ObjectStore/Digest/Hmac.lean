import ObjectStore.Digest.Sha1

/-!
# Keyed digests

HMAC over SHA-1. A key longer than a block is replaced by its digest, so every
key is a usable one.
-/

namespace ObjectStore.Hmac

/-- The key filled up to one block of 64 bytes. -/
def blockKey (key : Bytes) : Bytes :=
  let short := if key.length ≤ 64 then key else Sha1.digest key
  short ++ List.replicate (64 - short.length) 0

def sha1 (key message : Bytes) : Bytes :=
  let k := blockKey key
  Sha1.digest (k.map (· ^^^ 0x5c) ++ Sha1.digest (k.map (· ^^^ 0x36) ++ message))

@[simp] theorem length_sha1 (key message : Bytes) : (sha1 key message).length = 20 := rfl

end ObjectStore.Hmac
