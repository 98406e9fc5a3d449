import ObjectStore.Http.Incoming

/-!
# When a body gives its connection back

What is done with a body can be followed by its steps and by what they gave.
A body ends with the first step that finds its end, fails to read it, closes
it, drops it or uses it up. Up to this step its connection is held, and from
then on it is released. The steps behind the first one release nothing more.
-/

namespace ObjectStore.IncomingBody

/-- The step closes a body or uses it up, whatever the body is. -/
def Step.closes : Step → Bool
  | .close => true
  | .leave => true
  | .collect => true
  | .copyTo _ => true
  | .readPieces _ => true
  | _ => false

/-- The step ends a body, told by what the step gave. -/
def ends (step : Step) : Reply → Bool
  | .gone => false
  | .ended => true
  | .failed _ => true
  | _ => step.closes

/-- The next chunk releases the connection unless it has bytes to give. -/
theorem connection_next (b : IncomingBody) :
    b.next.2.connection =
      match b.next.1 with
      | some (.ok _) => b.connection
      | _ => b.connection.release := by
  unfold next
  split <;> rfl

theorem connection_nextFilled (b : IncomingBody) :
    b.nextFilled.2.connection =
      match b.nextFilled.1 with
      | some (.ok _) => b.connection
      | _ => b.connection.release :=
  connection_next _

end IncomingBody

theorem IncomingBody.ne_nil_of_nextFilled {b body : IncomingBody} {bs : Bytes}
    (h : b.nextFilled = (some (.ok bs), body)) : bs ≠ [] := by
  have hfront := BodyReader.nextFilled_eq_ok h
  rintro rfl
  generalize b.remaining = chunks at hfront
  fun_induction Chunks.dropEmpty chunks with
  | case1 rest ih => exact ih hfront
  | case2 chunks hne => exact hne _ hfront

/-- A read through a buffer releases the connection at the end and at a
failure, and at nothing else. -/
theorem BodyReader.connection_read (size : Nat) (r : BodyReader) :
    (r.read size).2.body.connection =
      match (r.read size).1 with
      | .ok bs => if bs = [] ∧ size ≠ 0 then r.body.connection.release else r.body.connection
      | .error _ => r.body.connection.release := by
  have hnext := r.body.connection_nextFilled
  unfold BodyReader.read
  split
  · next hsize => simp [hsize]
  split
  · next hsize hleft =>
      -- bytes of the chunk at hand are given without a look at the body
      have hne : r.left.take size ≠ [] := by
        rw [Ne, List.take_eq_nil_iff, not_or]
        exact ⟨hsize, hleft⟩
      simp [hne]
  · next hsize hleft =>
      split
      · next heq =>
          rw [heq] at hnext
          simpa [hsize] using hnext
      · next heq =>
          rw [heq] at hnext
          exact hnext
      · next bs body heq =>
          have hne : bs.take size ≠ [] := by
            rw [Ne, List.take_eq_nil_iff, not_or]
            exact ⟨hsize, IncomingBody.ne_nil_of_nextFilled heq⟩
          rw [heq] at hnext
          simpa [hne] using hnext

/-- Whatever a read did, a release behind it leaves the connection released
once. -/
theorem BodyReader.release_read (size : Nat) (r : BodyReader) :
    (r.read size).2.body.connection.release = r.body.connection.release := by
  rw [BodyReader.connection_read]
  split
  · split
    · exact Connection.release_release _
    · rfl
  · exact Connection.release_release _

theorem BodyReader.release_readAll (size : Nat) (r : BodyReader) :
    (r.readAll size).2.body.connection.release = r.body.connection.release := by
  fun_induction BodyReader.readAll size r with
  | case1 r e next h =>
      have hread := BodyReader.release_read size r
      rwa [h] at hread
  | case2 r next h =>
      have hread := BodyReader.release_read size r
      rwa [h] at hread
  | case3 r bs next h hne _ read last hrec ih =>
      -- a read that gave bytes kept the connection as it was up to a release
      have hread := BodyReader.release_read size r
      rw [h] at hread
      rw [hrec] at ih
      exact ih.trans hread

namespace IncomingBody

/-! ## One step -/

theorem connection_performBody (b : IncomingBody) (step : Step) :
    (Held.performBody b step).2.connection =
      if ends step (Held.performBody b step).1 then b.connection.release else b.connection := by
  cases step with
  | next =>
      have hnext := b.connection_next
      rcases hb : b.next with ⟨_ | e | bs, body⟩
      · simpa [Held.performBody, Held.connection, ends, hb] using hnext
      · simpa [Held.performBody, Held.connection, ends, hb] using hnext
      · simpa [Held.performBody, Held.connection, ends, Step.closes, hb] using hnext
  | readPieces size => exact BodyReader.release_readAll size (.ofBody b)
  | close => rfl
  | ask => rfl
  | view => rfl
  | leave => rfl
  | collect => rfl
  | copyTo room => rfl
  | toReader => rfl
  | read size => rfl

theorem connection_performReader (r : BodyReader) (step : Step) :
    (Held.performReader r step).2.connection =
      if ends step (Held.performReader r step).1 then r.body.connection.release
      else r.body.connection := by
  cases step with
  | read size =>
      have hread := BodyReader.connection_read size r
      rcases hr : r.read size with ⟨e | bs, next⟩
      · simpa [Held.performReader, Held.connection, ends, hr] using hread
      · by_cases hend : bs = [] ∧ size ≠ 0
        · simpa [Held.performReader, Held.connection, ends, hr, hend] using hread
        · simpa [Held.performReader, Held.connection, ends, Step.closes, hr, hend] using hread
  | next => rfl
  | close => rfl
  | ask => rfl
  | view => rfl
  | leave => rfl
  | collect => rfl
  | copyTo room => rfl
  | readPieces size => rfl
  | toReader => rfl

/-- One step releases the connection if it ends the body, and leaves it
alone otherwise. -/
theorem connection_perform (h : Held) (step : Step) :
    (h.perform step).2.connection =
      if ends step (h.perform step).1 then h.connection.release else h.connection := by
  cases h with
  | body b => exact connection_performBody b step
  | reader r => exact connection_performReader r step
  | gone connection => rfl

/-- Steps to the last one, with which a body goes out of use, release its
connection. -/
theorem connection_performAll (h : Held) (steps : List Step) :
    (h.performAll steps).2.connection = h.connection.release := by
  induction steps generalizing h with
  | nil => rfl
  | cons step rest ih =>
      show ((h.perform step).2.performAll rest).2.connection = h.connection.release
      rw [ih, connection_perform]
      split
      · exact Connection.release_release _
      · rfl

/-! ## All steps so far -/

/-- A body that a call returned, and what was done with it since. -/
structure Tracked where
  held : Held
  steps : List (Step × Reply)

namespace Tracked

def fresh (b : IncomingBody) : Tracked := ⟨.body b, []⟩

def perform (t : Tracked) (step : Step) : Tracked :=
  let (reply, held) := t.held.perform step
  ⟨held, t.steps ++ [(step, reply)]⟩

def ended (t : Tracked) : Bool := t.steps.any fun p => ends p.1 p.2

/-- The connection of a body that arrived on `c`, by whether the body ended. -/
def Sound (c : Connection) (t : Tracked) : Prop :=
  t.held.connection = if t.ended then c.release else c

theorem sound_fresh (b : IncomingBody) : (fresh b).Sound b.connection := rfl

theorem ended_perform (t : Tracked) (step : Step) :
    (t.perform step).ended = (t.ended || ends step (t.held.perform step).1) := by
  simp only [perform, ended, List.any_append, List.any_cons, List.any_nil, Bool.or_false]

/-- **Each step keeps the connection in line with the steps so far.** -/
theorem Sound.perform {c : Connection} {t : Tracked} (h : t.Sound c) (step : Step) :
    (t.perform step).Sound c := by
  unfold Sound at h ⊢
  have hstep := connection_perform t.held step
  rw [ended_perform]
  show (t.held.perform step).2.connection = _
  rw [hstep, h]
  cases t.ended with
  | false => simp only [Bool.false_or, Bool.false_eq_true, if_false]
  | true =>
      simp only [Bool.true_or, if_true, Connection.release_release]
      exact ite_self _

theorem Sound.ask {t : Tracked} (h : t.Sound .acquired) {b : IncomingBody}
    (hbody : t.held = .body b) : t.held.perform .ask = (.flag t.ended, t.held) := by
  unfold Sound at h
  rw [hbody] at h
  have hask : b.isReleased = t.ended := by
    rw [isReleased, show b.connection = _ from h]
    cases t.ended <;> rfl
  rw [hbody]
  simp only [Held.perform, Held.performBody, hask]

end Tracked
end IncomingBody
end ObjectStore
