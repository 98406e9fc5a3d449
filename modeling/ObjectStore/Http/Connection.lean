import ObjectStore.Text.Quoted

/-!
# Connections

An answer holds a connection until it is released. Releasing runs an action
that gives the connection back; however often a connection is released, the
action runs once. A connection may also have no action, and is then released
from the beginning.
-/

namespace ObjectStore

/-- A connection: whether its action is still to run, and how often it
ran. -/
structure Connection where
  pending : Bool
  runs : Nat
  deriving DecidableEq, Repr

namespace Connection

def acquired : Connection := ⟨true, 0⟩

def unbound : Connection := ⟨false, 0⟩

/-- Gives the connection back, unless that was done before. -/
def release (c : Connection) : Connection :=
  if c.pending then ⟨false, c.runs + 1⟩ else c

def isReleased (c : Connection) : Bool := !c.pending

def shown (c : Connection) : String :=
  Quoted.record "ConnectionGuard" [("released", Quoted.flag c.isReleased)]

/-- Releasing twice is releasing once. -/
@[simp] theorem release_release (c : Connection) : c.release.release = c.release := by
  unfold release
  split <;> simp_all

/-- One thing done with a connection. A connection that goes out of use is
released. -/
inductive Step where
  | release
  | ask
  | view
  | leave
  deriving DecidableEq, Repr

inductive Reply where
  | done
  | flag (b : Bool)
  | text (s : String)
  | gone
  deriving DecidableEq, Repr

structure Held where
  connection : Connection
  gone : Bool
  deriving DecidableEq, Repr

/-- Does one step. Nothing can be done with a connection out of use. -/
def Held.perform (h : Held) (step : Step) : Reply × Held :=
  if h.gone then (.gone, h)
  else
    match step with
    | .release => (.done, ⟨h.connection.release, false⟩)
    | .ask => (.flag h.connection.isReleased, h)
    | .view => (.text h.connection.shown, h)
    | .leave => (.done, ⟨h.connection.release, true⟩)

end Connection
end ObjectStore
