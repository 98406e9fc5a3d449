import ObjectStore.Calendar.Date

/-!
# Instants

An instant is a number of nanoseconds since the beginning of 1970 in UTC. It
is read off a date and a time of day at some offset from UTC, and shown as the
date and time of day in UTC.
-/

namespace ObjectStore

/-- A point in time, in nanoseconds since 1970-01-01 00:00:00 UTC. -/
structure Instant where
  nanoseconds : Int
  deriving DecidableEq, Repr

structure TimeOfDay where
  hour : Nat
  minute : Nat
  second : Nat
  nanosecond : Nat
  deriving DecidableEq, Repr

/-- The time of day exists; no minute has a sixty-first second. -/
def TimeOfDay.Valid (t : TimeOfDay) : Prop :=
  t.hour < 24 ∧ t.minute < 60 ∧ t.second < 60 ∧ t.nanosecond < 1000000000

namespace Instant

/-- The instant so many whole seconds after the beginning of 1970. -/
def ofSeconds (s : Int) : Instant := ⟨s * 1000000000⟩

/-- The whole seconds since the beginning of 1970, rounded down. -/
def seconds (i : Instant) : Int := i.nanoseconds / 1000000000

/-- The instant whose date and time of day are these at an offset of so
many seconds east of UTC. -/
def ofLocal (d : Date) (t : TimeOfDay) (offset : Int) : Instant :=
  let s := d.dayNumber * 86400 +
    ((t.hour * 3600 + t.minute * 60 + t.second : Nat) : Int) - offset
  ⟨s * 1000000000 + t.nanosecond⟩

/-- The date in UTC. -/
def date (i : Instant) : Date := Date.ofDayNumber (i.seconds / 86400)

def timeOfDay (i : Instant) : TimeOfDay :=
  let s := (i.seconds % 86400).toNat
  ⟨s / 3600, s / 60 % 60, s % 60, (i.nanoseconds % 1000000000).toNat⟩

def weekday (i : Instant) : Nat := Date.weekday (i.seconds / 86400)

end Instant
end ObjectStore
