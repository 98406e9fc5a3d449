import ObjectStore.Calendar.Instant
import ObjectStore.Text.Scan

/-!
# Timestamps

The form of RFC 3339: `2024-03-01T08:30:00.000Z`. Any one ASCII character may
stand between date and time, fractions of a second are kept to the nanosecond,
and the offset is `Z` or hours and minutes. A sixty-first second is read as the
last nanosecond of the minute, but only where a leap second can be: at the end
of a month in UTC.
-/

namespace ObjectStore.Timestamp

/-- The nanoseconds that a row of fractional digits denotes; digits after the
ninth are dropped. -/
def fraction (ds : List Nat) : Nat :=
  (ds.take 9).foldl (fun n d => n * 10 + d) 0 * Nat.pow 10 (9 - ds.length)

def digitRow : Scan (List Nat) := fun cs =>
  some ((cs.takeWhile Decimal.isDigit).map fun c => c.toNat - '0'.toNat,
    cs.dropWhile Decimal.isDigit)

/-- A point and at least one digit, or nothing. -/
def optionalFraction : Scan Nat := do
  match ← Scan.peek with
  | some '.' =>
    Scan.char '.'
    match ← digitRow with
    | [] => failure
    | ds => return fraction ds
  | _ => return 0

def offset : Scan Int := do
  let sign ← Scan.charWhere fun c => c == 'Z' || c == 'z' || c == '+' || c == '-'
  if sign == 'Z' || sign == 'z' then return 0
  let hours ← Scan.number 2 0 23
  Scan.char ':'
  let minutes ← Scan.number 2 0 59
  let east : Int := Int.ofNat (hours * 3600 + minutes * 60)
  return if sign == '-' then -east else east

/-- The instant is in the last second of a month in UTC. -/
def endsMonth (i : Instant) : Bool :=
  let d := i.date
  let t := i.timeOfDay
  t.hour == 23 && t.minute == 59 && t.second == 59 && d.day == daysInMonth d.year d.month

def form : Scan Instant := do
  let year ← Scan.digits 4
  Scan.char '-'
  let month ← Scan.number 2 1 12
  Scan.char '-'
  let day ← Scan.number 2 1 31
  let _ ← Scan.charWhere fun c => c.toNat < 128
  let hour ← Scan.number 2 0 23
  Scan.char ':'
  let minute ← Scan.number 2 0 59
  Scan.char ':'
  let second ← Scan.number 2 0 60
  let nanosecond ← optionalFraction
  let offset ← offset
  let date : Date := ⟨Int.ofNat year, month, day⟩
  if ¬ date.Valid then failure
  if second = 60 then
    let i := Instant.ofLocal date ⟨hour, minute, 59, 999999999⟩ offset
    if endsMonth i then return i else failure
  else return Instant.ofLocal date ⟨hour, minute, second, nanosecond⟩ offset

def parse? (cs : List Char) : Option Instant := form.run? cs

end ObjectStore.Timestamp
