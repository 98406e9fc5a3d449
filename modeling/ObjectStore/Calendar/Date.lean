/-!
# Dates of the Gregorian calendar

Dates and day numbers, one for the other. Day 0 is 1 January 1970. The
calendar is extended to all years, with a year 0 before year 1. Years are
counted from 1 March, so that a leap day is the last day of its year.
-/

namespace ObjectStore

structure Date where
  year : Int
  month : Nat
  day : Nat
  deriving DecidableEq, Repr

/-- Every fourth year, of the centuries only every fourth. -/
def isLeapYear (year : Int) : Bool :=
  year % 4 = 0 && (year % 100 ≠ 0 || year % 400 = 0)

def daysInMonth (year : Int) (month : Nat) : Nat :=
  if month = 2 then (if isLeapYear year then 29 else 28)
  else if month = 4 ∨ month = 6 ∨ month = 9 ∨ month = 11 then 30
  else 31

namespace Date

def Valid (d : Date) : Prop :=
  1 ≤ d.month ∧ d.month ≤ 12 ∧ 1 ≤ d.day ∧ d.day ≤ daysInMonth d.year d.month

instance (d : Date) : Decidable d.Valid := by unfold Valid; infer_instance

def dayNumber (d : Date) : Int :=
  let year := if 2 < d.month then d.year else d.year - 1
  let month := if 2 < d.month then d.month - 3 else d.month + 9
  365 * year + year / 4 - year / 100 + year / 400 +
    (((153 * month + 2) / 5 + d.day : Nat) : Int) - 719469

/-- The date of a day number. The day is taken apart into cycles of 400,
100, 4 years and single years; the last day of a cycle belongs to its last
part. -/
def ofDayNumber (n : Int) : Date :=
  let fromMarch := n + 719468
  let inCycle := (fromMarch % 146097).toNat
  let century := min 3 (inCycle / 36524)
  let inCentury := inCycle - century * 36524
  let inFour := inCentury % 1461
  let single := min 3 (inFour / 365)
  let inYear := inFour - single * 365
  let year : Int :=
    fromMarch / 146097 * 400 + ((century * 100 + inCentury / 1461 * 4 + single : Nat) : Int)
  let month := (5 * inYear + 2) / 153
  let day := inYear - (153 * month + 2) / 5 + 1
  if month < 10 then ⟨year, month + 3, day⟩ else ⟨year + 1, month - 9, day⟩

/-- The day of the week of a day number, Sunday first. -/
def weekday (n : Int) : Nat := ((n + 4) % 7).toNat

end Date

example : (Date.mk 1970 1 1).dayNumber = 0 := by decide
example : Date.ofDayNumber 0 = ⟨1970, 1, 1⟩ := by decide
example : Date.ofDayNumber 11016 = ⟨2000, 2, 29⟩ := by decide
example : (Date.mk 2000 2 29).dayNumber = 11016 := by decide
example : Date.ofDayNumber (-719529) = ⟨-1, 12, 31⟩ := by decide
example : (Date.mk (-1) 12 31).dayNumber = -719529 := by decide

end ObjectStore
