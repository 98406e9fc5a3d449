import ObjectStore.Text.Utf8

/-!
# Blocks and the channel they go through

A source is uploaded in blocks, which are numbered from zero. They wait in a
channel that has room for so many of them. Its receiver can stop new blocks
from coming in and still take those that wait, or it can go away together with
them.
-/

namespace ObjectStore

structure Block where
  sequence : Nat
  payload : Bytes
  deriving DecidableEq, Repr

def Block.length (b : Block) : Nat := b.payload.length

def Block.isEmpty (b : Block) : Bool := b.payload.isEmpty

inductive Receiver where
  | listening
  | closed
  | dropped
  deriving DecidableEq, Repr

/-- A channel: the blocks that wait, the first one first. -/
structure Channel where
  capacity : Nat
  queue : List Block
  receiver : Receiver
  deriving DecidableEq, Repr

namespace Channel

def ofCapacity (capacity : Nat) : Channel := ⟨capacity, [], .listening⟩

def hasRoom (c : Channel) : Bool := c.queue.length < c.capacity

/-- Puts a block behind those that wait. It is lost if the receiver went away. -/
def send (c : Channel) (b : Block) : Channel :=
  if c.receiver = .dropped then c else { c with queue := c.queue ++ [b] }

def take (c : Channel) : Option (Block × Channel) :=
  match c.queue with
  | [] => none
  | b :: rest => some (b, { c with queue := rest })

def close (c : Channel) : Channel :=
  { c with receiver := if c.receiver = .dropped then .dropped else .closed }

/-- The receiver goes away, and the blocks that wait with it. -/
def drop (c : Channel) : Channel := { c with queue := [], receiver := .dropped }

theorem length_send_le (c : Channel) (b : Block) :
    (c.send b).queue.length ≤ c.queue.length + 1 := by
  unfold send
  split <;> simp

theorem take_eq_some {c d : Channel} {b : Block} (h : c.take = some (b, d)) :
    c.queue = b :: d.queue ∧ d.capacity = c.capacity ∧ d.receiver = c.receiver := by
  unfold take at h
  split at h
  · simp at h
  · next heq =>
      simp only [Option.some.injEq, Prod.mk.injEq] at h
      obtain ⟨rfl, rfl⟩ := h
      exact ⟨heq, rfl, rfl⟩

@[simp] theorem take_eq_none {c : Channel} : c.take = none ↔ c.queue = [] := by
  unfold take
  split <;> simp_all

end Channel
end ObjectStore
