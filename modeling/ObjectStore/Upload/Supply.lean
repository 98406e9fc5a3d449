import ObjectStore.Upload.Cutter

/-!
# Cutters on their own

A cutter and its channel, with someone else at the other end of it, who takes
blocks at any moment, tells the cutter to stop, or goes away. Between two
such actions the cutter runs until it waits.
-/

namespace ObjectStore

/-- A cutter with its channel, and whether it was told to stop. -/
structure Supply where
  cutter : Cutter
  channel : Channel
  cancelled : Bool
  deriving DecidableEq, Repr

namespace Supply

def start (blockSize capacity : Nat) (source : Source) : Supply :=
  ⟨.start blockSize source, .ofCapacity capacity, false⟩

inductive Action where
  | feed (event : SourceEvent)
  | cancel
  | receive
  | close
  | dropReceiver
  deriving DecidableEq, Repr

inductive Reply where
  | done
  | block (b : Block)
  | empty
  | disconnected
  | gone
  deriving DecidableEq, Repr

/-- Takes a block out of the channel. Without a block, it depends on
whether one can still come. -/
def receive (s : Supply) : Reply × Supply :=
  if s.channel.receiver = .dropped then (.gone, s)
  else
    match s.channel.take with
    | some (block, channel) => (.block block, { s with channel := channel })
    | none =>
      if s.cutter.exit?.isSome ∨ s.channel.receiver = .closed then (.disconnected, s)
      else (.empty, s)

def act (s : Supply) : Action → Reply × Supply
  | .feed event =>
    (.done, { s with cutter := { s.cutter with source := s.cutter.source ++ [event] } })
  | .cancel => (.done, { s with cancelled := true })
  | .receive => s.receive
  | .close => (.done, { s with channel := s.channel.close })
  | .dropReceiver => (.done, { s with channel := s.channel.drop })

def settle (s : Supply) : Supply :=
  let (cutter, channel) := s.cutter.settle s.cancelled s.channel
  ⟨cutter, channel, s.cancelled⟩

/-- Does something and lets the cutter run. -/
def perform (s : Supply) (action : Action) : Reply × Supply :=
  let (reply, s) := s.act action
  (reply, s.settle)

/-- How many blocks wait, unless the receiver went away. -/
def queued (s : Supply) : Option Nat :=
  if s.channel.receiver = .dropped then none else some s.channel.queue.length

end Supply
end ObjectStore
