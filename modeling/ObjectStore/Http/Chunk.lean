import ObjectStore.Text.Utf8

/-!
# Chunks

A body arrives in chunks, and a read may fail. What counts of a body are the
bytes before the first failure, however they are cut.
-/

namespace ObjectStore

/-- A read or write that failed, with what the system says about it. -/
structure IoError where
  text : String
  deriving DecidableEq, Repr

/-- One read: bytes, of which there may be none, or a failure. -/
abbrev Chunk := Except IoError Bytes

namespace Chunks

/-- The whole of a body, or its first failure. -/
def collect : List Chunk → Except IoError Bytes
  | [] => .ok []
  | .error e :: _ => .error e
  | .ok bs :: rest => (collect rest).map (bs ++ ·)

/-- The bytes before the first failure. -/
def delivered : List Chunk → Bytes
  | .ok bs :: rest => bs ++ delivered rest
  | _ => []

def failure? : List Chunk → Option IoError
  | [] => none
  | .error e :: _ => some e
  | .ok _ :: rest => failure? rest

/-- How much there is to read: each chunk counts, and each byte. -/
def weight : List Chunk → Nat
  | [] => 0
  | .error _ :: rest => 1 + weight rest
  | .ok bs :: rest => bs.length + 1 + weight rest

def dropEmpty : List Chunk → List Chunk
  | .ok [] :: rest => dropEmpty rest
  | chunks => chunks

theorem weight_dropEmpty_le (chunks : List Chunk) : weight (dropEmpty chunks) ≤ weight chunks := by
  fun_induction dropEmpty chunks with
  | case1 rest ih =>
      simp only [weight, List.length_nil]
      omega
  | case2 => exact Nat.le_refl _

end Chunks
end ObjectStore
