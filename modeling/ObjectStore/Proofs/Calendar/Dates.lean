import Mathlib.Data.Int.Init
import Mathlib.Tactic.IntervalCases
import ObjectStore.Calendar.Instant

/-!
# Every day has one date

Day numbers and the dates of the calendar are the same thing told in two ways, and
so are instants and the dates and times of day in UTC. The day after a date is the
date of the next number, and the week goes round with the numbers: the weekday of
a date is the one that is found by counting on or back from a day that is known.
-/

namespace ObjectStore

/-! ## Years and months -/

theorem isLeapYear_iff {year : Int} :
    isLeapYear year = true ↔ year % 4 = 0 ∧ (year % 100 ≠ 0 ∨ year % 400 = 0) := by
  simp only [isLeapYear, Bool.and_eq_true, Bool.or_eq_true, decide_eq_true_eq]

theorem daysInMonth_bounds (year : Int) (month : Nat) :
    1 ≤ daysInMonth year month ∧ daysInMonth year month ≤ 31 := by
  unfold daysInMonth
  split
  · split <;> decide
  · split <;> decide

/-- From March to December a month is as long as its first day and the first day of
the next one are apart. -/
theorem daysInMonth_add_three (year : Int) {month : Nat} (h : month < 10) :
    daysInMonth year (month + 3) = (153 * (month + 1) + 2) / 5 - (153 * month + 2) / 5 := by
  interval_cases month <;> rfl

def firstOfMarch (year : Int) : Int :=
  365 * year + year / 4 - year / 100 + year / 400 - 719468

theorem firstOfMarch_eq (year : Int) :
    firstOfMarch year = firstOfMarch (year - 1) + if isLeapYear year then 366 else 365 := by
  simp only [firstOfMarch, isLeapYear_iff]
  split <;> omega

/-- A day by its year and its place in the year, the years being counted from 1
March. A leap day is the last one of its year. -/
structure YearDay where
  year : Int
  day : Nat
  fits : day < 365 ∨ (day = 365 ∧ isLeapYear (year + 1) = true)

namespace YearDay

variable (p : YearDay)

def number : Int := firstOfMarch p.year + p.day

def date : Date :=
  let month := (5 * p.day + 2) / 153
  let day := p.day - (153 * month + 2) / 5 + 1
  if month < 10 then ⟨p.year, month + 3, day⟩ else ⟨p.year + 1, month - 9, day⟩

theorem day_le : p.day ≤ 365 := by
  have hfits := p.fits
  omega

theorem dayNumber_date : p.date.dayNumber = p.number := by
  have hday := p.day_le
  unfold date
  dsimp only
  split
  · simp only [Date.dayNumber, number, firstOfMarch]
    rw [if_pos (by omega), if_pos (by omega)]
    omega
  · simp only [Date.dayNumber, number, firstOfMarch]
    rw [if_neg (by omega), if_neg (by omega)]
    omega

theorem valid_date : p.date.Valid := by
  have hday := p.day_le
  unfold date
  dsimp only
  split
  · next hmonth =>
      refine ⟨Nat.le_add_left 1 _, by dsimp only; omega, Nat.le_add_left 1 _, ?_⟩
      dsimp only
      rw [daysInMonth_add_three p.year hmonth]
      omega
  · have hlast : (5 * p.day + 2) / 153 = 10 ∨ (5 * p.day + 2) / 153 = 11 := by omega
    rcases hlast with hjanuary | hfebruary
    · rw [hjanuary]
      refine ⟨Nat.le_refl 1, Nat.le_add_left 1 11, Nat.le_add_left 1 _, ?_⟩
      show p.day - 306 + 1 ≤ 31
      omega
    · rw [hfebruary]
      refine ⟨Nat.le_add_left 1 1, Nat.le_add_left 2 10, Nat.le_add_left 1 _, ?_⟩
      show p.day - 337 + 1 ≤ if isLeapYear (p.year + 1) then 29 else 28
      rcases p.fits with hlt | ⟨heq, hleap⟩
      · split <;> omega
      · rw [if_pos hleap, heq]

theorem exists_date {d : Date} (h : d.Valid) : ∃ p : YearDay, p.date = d := by
  obtain ⟨year, month, day⟩ := d
  obtain ⟨hmonth, hmonth', hday, hday'⟩ := h
  dsimp only at hmonth hmonth' hday hday'
  by_cases hlate : 3 ≤ month
  · obtain ⟨m, rfl⟩ := Nat.exists_eq_add_of_le' hlate
    rw [daysInMonth_add_three year (by omega)] at hday'
    have hm : (5 * ((153 * m + 2) / 5 + (day - 1)) + 2) / 153 = m := by omega
    refine ⟨⟨year, (153 * m + 2) / 5 + (day - 1), .inl (by omega)⟩, ?_⟩
    simp only [date, hm]
    rw [if_pos (by omega), Date.mk.injEq]
    omega
  -- January and February belong to the year before
  have hearly : month = 1 ∨ month = 2 := by omega
  rcases hearly with rfl | rfl
  · replace hday' : day ≤ 31 := hday'
    have hm : (5 * (306 + (day - 1)) + 2) / 153 = 10 := by omega
    refine ⟨⟨year - 1, 306 + (day - 1), .inl (by omega)⟩, ?_⟩
    simp only [date, hm]
    rw [if_neg (by decide), Date.mk.injEq]
    omega
  · replace hday' : day ≤ if isLeapYear year then 29 else 28 := hday'
    have hfits : 337 + (day - 1) < 365 ∨
        (337 + (day - 1) = 365 ∧ isLeapYear (year - 1 + 1) = true) := by
      rw [Int.sub_add_cancel]
      split at hday'
      · next hleap =>
          rw [and_iff_left hleap]
          omega
      · omega
    have hm : (5 * (337 + (day - 1)) + 2) / 153 = 11 := by
      split at hday' <;> omega
    refine ⟨⟨year - 1, 337 + (day - 1), hfits⟩, ?_⟩
    simp only [date, hm]
    rw [if_neg (by decide), Date.mk.injEq]
    omega

end YearDay

/-! ## Cycles of years -/

/-- A year by its place in the cycles: the cycle of 400 years, the century in
it, the four years in that, and the year of the four. -/
structure CycleYear where
  cycle : Int
  century : Nat
  four : Nat
  single : Nat
  century_le : century ≤ 3
  four_le : four ≤ 24
  single_le : single ≤ 3

namespace CycleYear

variable (c : CycleYear)

def year : Int := 400 * c.cycle + (100 * c.century + 4 * c.four + c.single : Nat)

theorem exists_year (y : Int) : ∃ c : CycleYear, c.year = y := by
  refine ⟨⟨y / 400, (y % 400 / 100).toNat, (y % 100 / 4).toNat, (y % 4).toNat, ?_, ?_, ?_⟩, ?_⟩
  · omega
  · omega
  · omega
  · rw [year]
    dsimp only
    omega

/-- A leap day ends the last of four years, and the last of a century only if it
ends the cycle. -/
theorem isLeapYear_year :
    isLeapYear (c.year + 1) = true ↔ c.single = 3 ∧ (c.four = 24 → c.century = 3) := by
  have hcentury := c.century_le
  have hfour := c.four_le
  have hsingle := c.single_le
  rw [isLeapYear_iff, year]
  omega

/-- A year begins after the cycles, centuries, fours and single years before it. -/
theorem firstOfMarch_year :
    firstOfMarch c.year = 146097 * c.cycle +
      (36524 * c.century + 1461 * c.four + 365 * c.single : Nat) - 719468 := by
  have hcentury := c.century_le
  have hfour := c.four_le
  have hsingle := c.single_le
  rw [firstOfMarch, year]
  omega

end CycleYear

/-- The date of a day number is the date of the day with this number. -/
theorem YearDay.ofDayNumber_number (p : YearDay) : Date.ofDayNumber p.number = p.date := by
  obtain ⟨year, day, hfits⟩ := p
  obtain ⟨c, rfl⟩ := CycleYear.exists_year year
  have hleap := hfits
  rw [c.isLeapYear_year] at hleap
  have hcentury := c.century_le
  have hfour := c.four_le
  have hsingle := c.single_le
  obtain ⟨inFour, hinFour⟩ : ∃ n, n = 365 * c.single + day := ⟨_, rfl⟩
  obtain ⟨inCentury, hinCentury⟩ : ∃ n, n = 1461 * c.four + inFour := ⟨_, rfl⟩
  obtain ⟨inCycle, hinCycle⟩ : ∃ n, n = 36524 * c.century + inCentury := ⟨_, rfl⟩
  have hnumber : number ⟨c.year, day, hfits⟩ + 719468 = 146097 * c.cycle + inCycle := by
    rw [number, c.firstOfMarch_year]
    dsimp only
    omega
  -- each cycle is found again, on its last day too
  have hcycle : (146097 * c.cycle + (inCycle : Int)) / 146097 = c.cycle := by omega
  have hin : ((146097 * c.cycle + (inCycle : Int)) % 146097).toNat = inCycle := by omega
  have hcentury' : min 3 (inCycle / 36524) = c.century := by omega
  have hinCentury' : inCycle - c.century * 36524 = inCentury := by omega
  have hfour' : inCentury / 1461 = c.four := by omega
  have hinFour' : inCentury % 1461 = inFour := by omega
  have hsingle' : min 3 (inFour / 365) = c.single := by omega
  have hday : inFour - c.single * 365 = day := by omega
  have hyear : c.cycle * 400 + ((c.century * 100 + c.four * 4 + c.single : Nat) : Int) =
      c.year := by
    rw [CycleYear.year]
    omega
  simp only [Date.ofDayNumber, hnumber, hcycle, hin, hcentury', hinCentury', hfour', hinFour',
    hsingle', hday, hyear, date]

theorem YearDay.exists_number (n : Int) : ∃ p : YearDay, p.number = n := by
  have hpos : (0 : Int) < 146097 := by decide
  have hlt := Int.emod_lt_of_pos (n + 719468) hpos
  obtain ⟨inCycle, hin⟩ :=
    Int.eq_ofNat_of_zero_le (Int.emod_nonneg (n + 719468) (Int.ne_of_gt hpos))
  obtain ⟨century, hcentury⟩ : ∃ k, k = min 3 (inCycle / 36524) := ⟨_, rfl⟩
  obtain ⟨inCentury, hinCentury⟩ : ∃ k, k = inCycle - century * 36524 := ⟨_, rfl⟩
  obtain ⟨single, hsingle⟩ : ∃ k, k = min 3 (inCentury % 1461 / 365) := ⟨_, rfl⟩
  let c : CycleYear := ⟨(n + 719468) / 146097, century, inCentury / 1461, single,
    by omega, by omega, by omega⟩
  refine ⟨⟨c.year, inCentury % 1461 - single * 365, ?_⟩, ?_⟩
  · rw [c.isLeapYear_year]
    dsimp only [c]
    omega
  · rw [number, c.firstOfMarch_year]
    dsimp only [c]
    omega

/-! ## Dates and their numbers -/

namespace Date

theorem valid_ofDayNumber (n : Int) : (ofDayNumber n).Valid := by
  obtain ⟨p, rfl⟩ := YearDay.exists_number n
  rw [p.ofDayNumber_number]
  exact p.valid_date

theorem dayNumber_ofDayNumber (n : Int) : (ofDayNumber n).dayNumber = n := by
  obtain ⟨p, rfl⟩ := YearDay.exists_number n
  rw [p.ofDayNumber_number, p.dayNumber_date]

theorem ofDayNumber_dayNumber {d : Date} (h : d.Valid) : ofDayNumber d.dayNumber = d := by
  obtain ⟨p, rfl⟩ := YearDay.exists_date h
  rw [p.dayNumber_date, p.ofDayNumber_number]

def next (d : Date) : Date :=
  if d.day < daysInMonth d.year d.month then ⟨d.year, d.month, d.day + 1⟩
  else if d.month < 12 then ⟨d.year, d.month + 1, 1⟩
  else ⟨d.year + 1, 1, 1⟩

theorem dayNumber_add_three (year : Int) (month day : Nat) :
    (Date.mk year (month + 3) day).dayNumber =
      firstOfMarch year + ((153 * month + 2) / 5 + day : Nat) - 1 := by
  simp only [dayNumber, firstOfMarch]
  rw [if_pos (by omega), if_pos (by omega), Nat.add_sub_cancel]
  omega

theorem dayNumber_january (year : Int) (day : Nat) :
    (Date.mk year 1 day).dayNumber = firstOfMarch (year - 1) + (306 + day : Nat) - 1 := by
  simp only [dayNumber, firstOfMarch, Nat.reduceLT, if_false]
  omega

theorem dayNumber_february (year : Int) (day : Nat) :
    (Date.mk year 2 day).dayNumber = firstOfMarch (year - 1) + (337 + day : Nat) - 1 := by
  simp only [dayNumber, firstOfMarch, Nat.reduceLT, if_false]
  omega

/-- On the first of a month the month before has gone by. -/
theorem dayNumber_nextMonth (year : Int) {month : Nat} (h : 1 ≤ month) (h' : month < 12) :
    (Date.mk year (month + 1) 1).dayNumber =
      (Date.mk year month 1).dayNumber + daysInMonth year month := by
  by_cases hlate : 3 ≤ month
  · obtain ⟨m, rfl⟩ := Nat.exists_eq_add_of_le' hlate
    rw [Nat.add_right_comm, dayNumber_add_three, dayNumber_add_three,
      daysInMonth_add_three year (by omega)]
    omega
  have hearly : month = 1 ∨ month = 2 := by omega
  rcases hearly with rfl | rfl
  · have hdays : daysInMonth year 1 = 31 := rfl
    rw [dayNumber_february, dayNumber_january, hdays]
    omega
  · have hdays : daysInMonth year 2 = if isLeapYear year then 29 else 28 := rfl
    rw [dayNumber_february, dayNumber_add_three year 0, firstOfMarch_eq, hdays]
    split <;> omega

/-- The day after a date has the next number. -/
theorem dayNumber_next {d : Date} (h : d.Valid) : d.next.dayNumber = d.dayNumber + 1 := by
  obtain ⟨year, month, day⟩ := d
  obtain ⟨hmonth, hmonth', -, hday⟩ := h
  dsimp only at hmonth hmonth' hday
  unfold next
  dsimp only
  split
  · simp only [dayNumber]
    omega
  -- the day is the last one of its month
  obtain rfl : day = daysInMonth year month := by omega
  split
  · next hnext =>
      rw [dayNumber_nextMonth year hmonth hnext]
      simp only [dayNumber]
      omega
  · obtain rfl : month = 12 := by omega
    have hdays : daysInMonth year 12 = 31 := rfl
    rw [dayNumber_january, dayNumber_add_three year 9, hdays, Int.add_sub_cancel]
    omega

theorem valid_next {d : Date} (h : d.Valid) : d.next.Valid := by
  obtain ⟨hmonth, hmonth', -, -⟩ := h
  have hfirst (year : Int) (month : Nat) := (daysInMonth_bounds year month).1
  unfold next
  split
  · next hlt => exact ⟨hmonth, hmonth', Nat.le_add_left 1 _, hlt⟩
  · split
    · next hnext => exact ⟨Nat.le_add_left 1 _, hnext, Nat.le_refl 1, hfirst _ _⟩
    · exact ⟨Nat.le_refl 1, Nat.le_add_left 1 11, Nat.le_refl 1, hfirst _ _⟩

/-- **The date of the next number is the day after.** -/
theorem ofDayNumber_succ (n : Int) : ofDayNumber (n + 1) = (ofDayNumber n).next := by
  have hvalid := valid_ofDayNumber n
  have hnext := dayNumber_next hvalid
  rw [dayNumber_ofDayNumber] at hnext
  rw [← hnext, ofDayNumber_dayNumber (valid_next hvalid)]

/-! ## Weekdays -/

/-- A date falls on a day of the week, Sunday being 0. The first day of 1970 was
a Thursday, and from there the days are counted on and back. -/
inductive FallsOn : Date → Nat → Prop where
  | start : FallsOn ⟨1970, 1, 1⟩ 4
  | on {d : Date} {w : Nat} (h : FallsOn d w) : FallsOn d.next ((w + 1) % 7)
  | back {d : Date} {w : Nat} (hd : d.Valid) (hw : w < 7) (h : FallsOn d.next ((w + 1) % 7)) :
    FallsOn d w

theorem weekday_lt (n : Int) : weekday n < 7 := by
  unfold weekday
  omega

theorem weekday_succ (n : Int) : weekday (n + 1) = (weekday n + 1) % 7 := by
  unfold weekday
  omega

theorem fallsOn_ofDayNumber (n : Int) : FallsOn (ofDayNumber n) (weekday n) := by
  induction n using Int.induction_on with
  | zero => exact .start
  | succ n ih =>
      rw [ofDayNumber_succ, weekday_succ]
      exact ih.on
  | pred n ih =>
      refine .back (valid_ofDayNumber _) (weekday_lt _) ?_
      rw [← ofDayNumber_succ, ← weekday_succ, Int.sub_add_cancel]
      exact ih

/-- Each date of the calendar falls on one day of the week, which its number tells. -/
theorem fallsOn_iff {d : Date} {w : Nat} :
    FallsOn d w ↔ d.Valid ∧ w = weekday d.dayNumber := by
  constructor
  · intro h
    induction h with
    | start => exact ⟨by decide, by decide⟩
    | on h ih =>
        obtain ⟨hvalid, rfl⟩ := ih
        exact ⟨valid_next hvalid, by rw [dayNumber_next hvalid, weekday_succ]⟩
    | @back d w hd hw h ih =>
        have hnext := ih.2
        rw [dayNumber_next hd, weekday_succ] at hnext
        have hlt := weekday_lt d.dayNumber
        exact ⟨hd, by omega⟩
  · rintro ⟨hvalid, rfl⟩
    have hfalls := fallsOn_ofDayNumber d.dayNumber
    rwa [ofDayNumber_dayNumber hvalid] at hfalls

end Date

/-! ## Instants -/

namespace Instant

theorem valid_date (i : Instant) : i.date.Valid := Date.valid_ofDayNumber _

theorem valid_timeOfDay (i : Instant) : i.timeOfDay.Valid := by
  unfold timeOfDay
  refine ⟨?_, ?_, ?_, ?_⟩ <;> dsimp only <;> omega

/-- An instant is the one whose date and time of day in UTC it has. -/
theorem ofLocal_date_timeOfDay (i : Instant) : ofLocal i.date i.timeOfDay 0 = i := by
  obtain ⟨n⟩ := i
  simp only [ofLocal, date, Date.dayNumber_ofDayNumber, timeOfDay, seconds, Instant.mk.injEq]
  omega

theorem ofLocal_whole (i : Instant) :
    ofLocal i.date ⟨i.timeOfDay.hour, i.timeOfDay.minute, i.timeOfDay.second, 0⟩ 0 =
      ofSeconds i.seconds := by
  simp only [ofLocal, date, Date.dayNumber_ofDayNumber, timeOfDay, ofSeconds, Instant.mk.injEq]
  omega

theorem date_ofLocal {d : Date} {t : TimeOfDay} (hd : d.Valid) (ht : t.Valid) :
    (ofLocal d t 0).date = d := by
  obtain ⟨hhour, hminute, hsecond, hnanosecond⟩ := ht
  have hday : (ofLocal d t 0).seconds / 86400 = d.dayNumber := by
    simp only [ofLocal, seconds]
    omega
  rw [date, hday, Date.ofDayNumber_dayNumber hd]

end Instant

/-- A date and a time of day at an offset from UTC: the way an instant is given. -/
structure LocalTime where
  date : Date
  time : TimeOfDay
  offset : Int
  dateValid : date.Valid
  timeValid : time.Valid

namespace LocalTime

def instant (m : LocalTime) : Instant := .ofLocal m.date m.time m.offset

/-- The same time in UTC. -/
def inUtc (m : LocalTime) : LocalTime :=
  ⟨m.instant.date, m.instant.timeOfDay, 0, m.instant.valid_date, m.instant.valid_timeOfDay⟩

theorem instant_inUtc (m : LocalTime) : m.inUtc.instant = m.instant :=
  m.instant.ofLocal_date_timeOfDay

end LocalTime

end ObjectStore
