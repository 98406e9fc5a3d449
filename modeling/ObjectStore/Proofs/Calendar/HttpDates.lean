import ObjectStore.Calendar.HttpDate
import ObjectStore.Proofs.Calendar.Dates
import ObjectStore.Proofs.Text.Scan

/-!
# HTTP dates read back

An instant is written with its date and time of day in UTC, and with the weekday
that the date falls on. What is written is read as the instant without the fraction
of its second. Whatever else is read as a date, a wrong weekday or not, is one of
these instants, so it may be written and read again.
-/

namespace ObjectStore.HttpDate

/-! ## What is written -/

/-- An HTTP date as it is written: the name of a weekday, be it the right one or
not, a date of the calendar with a year of four digits, and a time of day. -/
structure Written where
  weekday : Nat
  date : Date
  hour : Nat
  minute : Nat
  second : Nat
  weekdayFits : weekday < 7
  yearFits : date.year.natAbs < 10000
  valid : date.Valid
  hourFits : hour < 24
  minuteFits : minute < 60
  secondFits : second < 60

namespace Written

variable (w : Written)

def instant : Instant := .ofLocal w.date ⟨w.hour, w.minute, w.second, 0⟩ 0

def text : String :=
  weekdays.getD w.weekday "" ++ ", " ++ Decimal.padded 2 w.date.day ++ " " ++
    months.getD (w.date.month - 1) "" ++ " " ++ yearText w.date.year ++ " " ++
    Decimal.padded 2 w.hour ++ ":" ++ Decimal.padded 2 w.minute ++ ":" ++
    Decimal.padded 2 w.second ++ " GMT"

end Written

def Written.of (i : Instant) (h : i.date.year.natAbs < 10000) : Written where
  weekday := i.weekday
  date := i.date
  hour := i.timeOfDay.hour
  minute := i.timeOfDay.minute
  second := i.timeOfDay.second
  weekdayFits := Date.weekday_lt _
  yearFits := h
  valid := i.valid_date
  hourFits := i.valid_timeOfDay.1
  minuteFits := i.valid_timeOfDay.2.1
  secondFits := i.valid_timeOfDay.2.2.1

theorem format_eq {i : Instant} (h : i.date.year.natAbs < 10000) :
    format i = (Written.of i h).text := rfl

/-- A date that is written denotes the instant without the fraction of its second. -/
theorem instant_of {i : Instant} (h : i.date.year.natAbs < 10000) :
    (Written.of i h).instant = .ofSeconds i.seconds :=
  i.ofLocal_whole

/-! ## Reading what is written -/

theorem year_yearText {y : Int} (h : y.natAbs < 10000) (rest : List Char) :
    year ((yearText y).toList ++ rest) = some (y, rest) := by
  have hpeek (cs : List Char) : Scan.peek cs = some (cs.head?, cs) := rfl
  have hdigits : Scan.digits 4 ((Decimal.padded 4 y.natAbs).toList ++ rest) =
      some (y.natAbs, rest) := Scan.digits_padded (by decide) h rest
  unfold yearText
  split
  · next hneg =>
      have hminus : ("-" ++ Decimal.padded 4 y.natAbs).toList ++ rest =
          '-' :: ((Decimal.padded 4 y.natAbs).toList ++ rest) := by
        rw [String.toList_append]
        rfl
      rw [hminus, year, Scan.bind_of_eq (hpeek _)]
      show (Scan.char '-' >>= _) _ = _
      have hvalue : -(y.natAbs : Int) = y := by omega
      rw [Scan.bind_of_eq (Scan.char_cons _ _), Scan.bind_of_eq hdigits]
      show some (-(y.natAbs : Int), rest) = _
      rw [hvalue]
  · next hpos =>
      -- the first character is a digit and no sign
      have hlength : (Decimal.padded 4 y.natAbs).toList.length = 4 :=
        Decimal.length_padded (by decide) h
      obtain ⟨c, cs, hcons⟩ := List.exists_cons_of_length_pos (by rw [hlength]; decide)
      have hc : Decimal.isDigit c = true :=
        Decimal.isDigit_of_mem_padded (hcons ▸ List.mem_cons_self)
      have hminus : c ≠ '-' := by rintro rfl; cases hc
      have hplus : c ≠ '+' := by rintro rfl; cases hc
      rw [hcons] at hdigits ⊢
      rw [year, Scan.bind_of_eq (hpeek _), List.cons_append, List.head?_cons]
      simp only [Option.some.injEq, hminus, hplus, imp_self]
      have hvalue : (y.natAbs : Int) = y := by omega
      rw [← List.cons_append, Scan.bind_of_eq hdigits]
      show some ((y.natAbs : Int), rest) = _
      rw [hvalue]

theorem form_text (w : Written) : form w.text.toList = some (w.instant, []) := by
  obtain ⟨hmonth, hmonth', hday, hday'⟩ := w.valid
  have hdays := (daysInMonth_bounds w.date.year w.date.month).2
  have hhour := w.hourFits
  have hminute := w.minuteFits
  have hsecond := w.secondFits
  have hmonths : w.date.month - 1 < months.length := by
    show w.date.month - 1 < 12
    omega
  have hend : Scan.literal " GMT" (" GMT".toList ++ []) = some ((), []) := Scan.literal_append _ _
  rw [List.append_nil] at hend
  rw [Written.text]
  simp only [String.toList_append, List.append_assoc]
  rw [form,
    Scan.bind_of_eq (Scan.oneOf_append 3 (by decide) (by decide) w.weekdayFits _),
    Scan.bind_of_eq (Scan.literal_append _ _),
    Scan.bind_of_eq (Scan.number_padded (by decide) (by omega) hday (by omega) _),
    Scan.bind_of_eq (Scan.literal_append _ _),
    Scan.bind_of_eq (Scan.oneOf_append 3 (by decide) (by decide) hmonths _),
    Scan.bind_of_eq (Scan.literal_append _ _),
    Scan.bind_of_eq (year_yearText w.yearFits _),
    Scan.bind_of_eq (Scan.literal_append _ _),
    Scan.bind_of_eq (Scan.number_padded (by decide) (by omega) (by omega) (by omega) _),
    Scan.bind_of_eq (Scan.literal_append _ _),
    Scan.bind_of_eq (Scan.number_padded (by decide) (by omega) (by omega) (by omega) _),
    Scan.bind_of_eq (Scan.literal_append _ _),
    Scan.bind_of_eq (Scan.number_padded (by decide) (by omega) (by omega) (by omega) _),
    Scan.bind_of_eq hend]
  -- all is scanned, what is left is whether there is such a date
  rw [Nat.sub_add_cancel hmonth, if_pos w.valid]
  rfl

theorem trimBy_text (w : Written) : trimBy isBlank w.text.toList = w.text.toList := by
  have hname : ∀ i < 7, (weekdays.getD i "").toList ≠ [] ∧
      (weekdays.getD i "").toList.Forall (isBlank · = false) := by decide
  obtain ⟨hne, hblank⟩ := hname w.weekday w.weekdayFits
  refine trimBy_of_ends (fun c hc => ?_) fun c hc => ?_
  · simp only [Written.text, String.toList_append, List.append_assoc] at hc
    rw [List.head?_append_of_ne_nil _ hne] at hc
    exact List.forall_iff_forall_mem.mp hblank c (List.mem_of_head? hc)
  · rw [Written.text, String.toList_append,
      List.getLast?_append_of_ne_nil _ (show " GMT".toList ≠ [] by decide)] at hc
    obtain rfl := Option.some.inj hc
    decide

theorem parse?_text (w : Written) {front back : String}
    (hfront : ∀ c ∈ front.toList, isBlank c = true)
    (hback : ∀ c ∈ back.toList, isBlank c = true) :
    parse? (front ++ w.text ++ back) = some w.instant := by
  rw [parse?, String.toList_append, String.toList_append, trimBy_surrounded hfront hback,
    trimBy_text]
  exact Scan.run?_of_eq (form_text w)

theorem parse?_format {i : Instant} (h : i.date.year.natAbs < 10000) :
    parse? (format i) = some (.ofSeconds i.seconds) := by
  have hread : parse? ("" ++ (Written.of i h).text ++ "") = some (Written.of i h).instant :=
    parse?_text _ (fun _ hc => by cases hc) fun _ hc => by cases hc
  rwa [String.empty_append, String.append_empty, instant_of] at hread

/-! ## What can have been read -/

theorem yields_year : Scan.Yields year fun y => y.natAbs < 10000 := by
  refine (Scan.Yields.any _).bind fun sign _ => ?_
  have hdigits := Scan.Yields.digits 4
  split
  · refine (Scan.Yields.any _).bind fun _ _ => hdigits.bind fun n hn => .pure ?_
    rw [Int.natAbs_neg]
    exact hn
  · exact (Scan.Yields.any _).bind fun _ _ => hdigits.bind fun n hn => .pure hn
  · exact hdigits.bind fun n hn => .pure hn

theorem yields_form : Scan.Yields form fun i => ∃ w : Written, w.instant = i := by
  have hany {α : Type} (p : Scan α) := Scan.Yields.any p
  refine (Scan.Yields.oneOf _).bind fun weekday hweekday => (hany _).bind fun _ _ => ?_
  refine (hany _).bind fun day _ => (hany _).bind fun _ _ => ?_
  refine (hany _).bind fun month _ => (hany _).bind fun _ _ => ?_
  refine yields_year.bind fun year hyear => (hany _).bind fun _ _ => ?_
  refine (Scan.Yields.number _ _ _).bind fun hour hhour => (hany _).bind fun _ _ => ?_
  refine (Scan.Yields.number _ _ _).bind fun minute hminute => (hany _).bind fun _ _ => ?_
  refine (Scan.Yields.number _ _ _).bind fun second hsecond => (hany _).bind fun _ _ => ?_
  dsimp only
  split
  · next hvalid =>
      exact .pure ⟨⟨weekday, ⟨year, month + 1, day⟩, hour, minute, second, hweekday, hyear,
        hvalid, Nat.lt_succ_of_le hhour.2, Nat.lt_succ_of_le hminute.2,
        Nat.lt_succ_of_le hsecond.2⟩, rfl⟩
  · exact .failure

/-- Whatever is read as a date is the instant of one that can be written. -/
theorem exists_written_of_parse? {s : String} {i : Instant} (h : parse? s = some i) :
    ∃ w : Written, w.instant = i :=
  yields_form.of_run? h

theorem Written.date_instant (w : Written) : w.instant.date = w.date :=
  Instant.date_ofLocal w.valid ⟨w.hourFits, w.minuteFits, w.secondFits, Nat.zero_lt_succ _⟩

theorem Written.ofSeconds_instant (w : Written) : .ofSeconds w.instant.seconds = w.instant := by
  simp only [instant, Instant.ofLocal, Instant.ofSeconds, Instant.seconds, Instant.mk.injEq]
  omega

/-- What was read is a whole second, and it is read again where it is written. -/
theorem parse?_format_of_parse? {s : String} {i : Instant} (h : parse? s = some i) :
    .ofSeconds i.seconds = i ∧ parse? (format i) = some i := by
  obtain ⟨w, rfl⟩ := exists_written_of_parse? h
  have hyear : w.instant.date.year.natAbs < 10000 := by
    rw [w.date_instant]
    exact w.yearFits
  have hread := parse?_format hyear
  rw [w.ofSeconds_instant] at hread
  exact ⟨w.ofSeconds_instant, hread⟩

/-! ## There and back -/

theorem format_eq_iff {i j : Instant} (hi : i.date.year.natAbs < 10000)
    (hj : j.date.year.natAbs < 10000) : format i = format j ↔ i.seconds = j.seconds := by
  constructor
  · intro h
    have hread := parse?_format hi
    rw [h, parse?_format hj] at hread
    have hsame := congrArg Instant.nanoseconds (Option.some.inj hread)
    simp only [Instant.ofSeconds] at hsame
    omega
  · intro h
    simp only [format, Instant.date, Instant.timeOfDay, Instant.weekday, h]

/-- **HTTP dates go there and back.** An instant in the years that have four digits,
given at whatever offset, is written as its date and time of day in UTC with the
weekday that this date falls on. Two instants are written alike just if they are in
the same second, and what is written is read as the instant rounded down to it,
also with blanks around. Whatever is read as a date is a whole second, and written
and read again it stays the same, so that writing what was read settles a text. -/
theorem dates_there_and_back :
    (∀ m : LocalTime, 0 ≤ m.inUtc.date.year → m.inUtc.date.year ≤ 9999 →
      m.inUtc.instant = m.instant ∧
      (∃ w : Written, format m.instant = w.text ∧ w.date = m.inUtc.date ∧
        w.hour = m.inUtc.time.hour ∧ w.minute = m.inUtc.time.minute ∧
        w.second = m.inUtc.time.second ∧ Date.FallsOn w.date w.weekday) ∧
      (∀ m' : LocalTime, 0 ≤ m'.inUtc.date.year → m'.inUtc.date.year ≤ 9999 →
        (format m'.instant = format m.instant ↔ m'.instant.seconds = m.instant.seconds)) ∧
      ∀ front back : String, (∀ c ∈ front.toList, isBlank c = true) →
        (∀ c ∈ back.toList, isBlank c = true) →
        parse? (front ++ format m.instant ++ back) = some (.ofSeconds m.instant.seconds)) ∧
    (∀ s i, parse? s = some i → .ofSeconds i.seconds = i ∧ parse? (format i) = some i) ∧
    ∀ s t, (parse? s).map format = some t → (parse? t).map format = some t := by
  have hfits {m : LocalTime} (hfirst : 0 ≤ m.inUtc.date.year) (hlast : m.inUtc.date.year ≤ 9999) :
      m.instant.date.year.natAbs < 10000 := by
    have hyear : m.inUtc.date.year = m.instant.date.year := rfl
    omega
  refine ⟨fun m hfirst hlast => ?_, fun s i h => parse?_format_of_parse? h, ?_⟩
  · have hm := hfits hfirst hlast
    refine ⟨m.instant_inUtc, ⟨.of m.instant hm, rfl, rfl, rfl, rfl, rfl, ?_⟩, ?_, ?_⟩
    · exact Date.fallsOn_ofDayNumber _
    · intro m' hfirst' hlast'
      exact format_eq_iff (hfits hfirst' hlast') hm
    · intro front back hfront hback
      rw [format_eq hm, parse?_text _ hfront hback, instant_of]
  · intro s t h
    obtain ⟨i, hi, rfl⟩ := Option.map_eq_some_iff.mp h
    rw [(parse?_format_of_parse? hi).2]
    rfl

/-- A quarter past midnight on 1 March 1900, half an hour east of UTC, and a half
second. The year had no leap day. -/
def afterMidnight : LocalTime where
  date := ⟨1900, 3, 1⟩
  time := ⟨0, 15, 0, 500000000⟩
  offset := 1800
  dateValid := by decide
  timeValid := ⟨by decide, by decide, by decide, by decide⟩

theorem dates_there_and_back_afterMidnight :
    afterMidnight.inUtc.date = ⟨1900, 2, 28⟩ ∧
      format afterMidnight.instant = "Wed, 28 Feb 1900 23:45:00 GMT" ∧
      parse? ("\t" ++ format afterMidnight.instant ++ " ") = some (.ofSeconds (-2203892100)) ∧
      parse? "Sun, 28 Feb 1900 23:45:00 GMT" = some (.ofSeconds (-2203892100)) ∧
      parse? (format (.ofSeconds (-2203892100))) = some (.ofSeconds (-2203892100)) := by
  obtain ⟨hwritten, hread, -⟩ := dates_there_and_back
  have hdate : afterMidnight.inUtc.date = ⟨1900, 2, 28⟩ := by decide
  obtain ⟨-, -, -, hback⟩ := hwritten afterMidnight (by rw [hdate]; decide) (by rw [hdate]; decide)
  have hsunday : parse? "Sun, 28 Feb 1900 23:45:00 GMT" = some (.ofSeconds (-2203892100)) := by
    decide +kernel
  exact ⟨hdate, by decide +kernel,
    hback "\t" " " (List.all_eq_true.mp (by decide)) (List.all_eq_true.mp (by decide)), hsunday,
    (hread _ _ hsunday).2⟩

end ObjectStore.HttpDate
