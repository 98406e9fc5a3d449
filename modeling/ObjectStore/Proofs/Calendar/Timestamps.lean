import Mathlib.Data.List.Basic
import ObjectStore.Calendar.Timestamp
import ObjectStore.Proofs.Text.Scan

/-!
# Timestamps read back

A time is written as its date, its time of day, a fraction of the second, and
the offset at which these are meant. Together they denote an instant. Reading
gives this instant again, whatever stands between date and time and however long
the fraction is.
-/

namespace ObjectStore.Timestamp

/-! ## What is written -/

/-- The offset from UTC as it is written: as a letter, small or not, or in hours
and minutes to the east or west. -/
inductive Zone where
  | utc (small : Bool)
  | shifted (west : Bool) (hours minutes : Nat) (hoursFit : hours < 24) (minutesFit : minutes < 60)

namespace Zone

def seconds : Zone → Int
  | utc _ => 0
  | shifted west hours minutes _ _ =>
    let shift : Int := hours * 3600 + minutes * 60
    if west then -shift else shift

def written : Zone → List Char
  | utc small => [if small then 'z' else 'Z']
  | shifted west hours minutes _ _ =>
    (if west then '-' else '+') ::
      ((Decimal.padded 2 hours).toList ++ ':' :: (Decimal.padded 2 minutes).toList)

end Zone

/-- A time as it is written: a date of the calendar, a time of day, the digits
of a fraction of the second, if there are any, and an offset. -/
structure Written where
  year : Nat
  month : Nat
  day : Nat
  separator : Char
  hour : Nat
  minute : Nat
  second : Nat
  fraction : List Char
  zone : Zone
  yearFits : year < 10000
  valid : Date.Valid ⟨year, month, day⟩
  ascii : separator.toNat < 128
  hourFits : hour < 24
  minuteFits : minute < 60
  digits : fraction.all Decimal.isDigit = true
  /-- A sixty-first second ends a month in UTC. -/
  secondFits : second < 60 ∨ (second = 60 ∧ endsMonth
    (.ofLocal ⟨year, month, day⟩ ⟨hour, minute, 59, 999999999⟩ zone.seconds) = true)

namespace Written

variable (w : Written)

/-- The fraction in nanoseconds, rounded down. -/
def nanosecond : Nat := Decimal.value w.fraction * 10 ^ 9 / 10 ^ w.fraction.length

/-- The instant that is denoted. A sixty-first second has no instant of its
own and counts as the last nanosecond before it. -/
def instant : Instant :=
  if w.second = 60 then
    .ofLocal ⟨w.year, w.month, w.day⟩ ⟨w.hour, w.minute, 59, 999999999⟩ w.zone.seconds
  else
    .ofLocal ⟨w.year, w.month, w.day⟩ ⟨w.hour, w.minute, w.second, w.nanosecond⟩ w.zone.seconds

def fractionWritten : List Char := if w.fraction = [] then [] else '.' :: w.fraction

/-- What is written in front of the offset. -/
def clock : List Char :=
  (Decimal.padded 4 w.year).toList ++ '-' :: ((Decimal.padded 2 w.month).toList ++
    '-' :: ((Decimal.padded 2 w.day).toList ++ w.separator :: ((Decimal.padded 2 w.hour).toList ++
      ':' :: ((Decimal.padded 2 w.minute).toList ++ ':' :: ((Decimal.padded 2 w.second).toList ++
        w.fractionWritten)))))

def text : String := String.ofList (w.clock ++ w.zone.written)

end Written

/-! ## Fractions -/

theorem fraction_digits {cs : List Char} (h : ∀ c ∈ cs, Decimal.isDigit c = true) :
    fraction (cs.map fun c => c.toNat - '0'.toNat) =
      Decimal.value cs * 10 ^ 9 / 10 ^ cs.length := by
  have htaken : ((cs.map fun c => c.toNat - '0'.toNat).take 9).foldl (fun n d => n * 10 + d) 0 =
      Decimal.value (cs.take 9) := by
    rw [← List.map_take, List.foldl_map]
    rfl
  rw [fraction, htaken, List.length_map]
  rcases Nat.le_total cs.length 9 with hshort | hlong
  · have hpow : 10 ^ 9 = 10 ^ (9 - cs.length) * 10 ^ cs.length := by
      rw [← Nat.pow_add, Nat.sub_add_cancel hshort]
    rw [List.take_of_length_le hshort, hpow, ← Nat.mul_assoc,
      Nat.mul_div_cancel _ (Nat.pow_pos (by decide))]
    rfl
  · -- the digits after the ninth are less than a nanosecond
    have hsplit := Decimal.value_append (cs.take 9) (cs.drop 9)
    rw [List.take_append_drop] at hsplit
    have hrest : Decimal.value (cs.drop 9) < 10 ^ (cs.drop 9).length :=
      Decimal.value_lt fun c hc => h c (List.mem_of_mem_drop hc)
    have hlength : cs.length = (cs.drop 9).length + 9 := by
      rw [List.length_drop]
      omega
    have hpow : 10 ^ cs.length = 10 ^ (cs.drop 9).length * 10 ^ 9 := by
      rw [← Nat.pow_add, ← hlength]
    have hnone : 9 - cs.length = 0 := by omega
    rw [hpow, Nat.mul_div_mul_right _ _ (by decide), hsplit, hnone, Nat.add_comm,
      Nat.add_mul_div_right _ _ (Nat.pow_pos (by decide)), Nat.div_eq_of_lt hrest, Nat.zero_add]
    exact Nat.mul_one _

/-- A fraction is read in front of what is no digit and no point. -/
theorem optionalFraction_written (w : Written) {rest : List Char}
    (hrest : ∀ c ∈ rest.head?, Decimal.isDigit c = false ∧ c ≠ '.') :
    optionalFraction (w.fractionWritten ++ rest) = some (w.nanosecond, rest) := by
  have hpeek (cs : List Char) : Scan.peek cs = some (cs.head?, cs) := rfl
  unfold Written.fractionWritten
  by_cases hnone : w.fraction = []
  · have hzero : w.nanosecond = 0 := by
      rw [Written.nanosecond, hnone]
      rfl
    rw [if_pos hnone, List.nil_append, optionalFraction, Scan.bind_of_eq (hpeek rest), hzero]
    cases rest with
    | nil => rfl
    | cons c rest =>
        have hpoint : c ≠ '.' := (hrest c rfl).2
        simp only [List.head?_cons, Option.some.injEq, hpoint, imp_self]
        rfl
  · have hall := List.all_eq_true.mp w.digits
    have hrow : digitRow (w.fraction ++ rest) =
        some (w.fraction.map fun c => c.toNat - '0'.toNat, rest) := by
      have hend : ∀ c ∈ rest.head?, Decimal.isDigit c = false := fun c hc => (hrest c hc).1
      rw [digitRow, takeWhile_run hall hend, dropWhile_run hall hend]
    rw [if_neg hnone, optionalFraction, List.cons_append, Scan.bind_of_eq (hpeek _)]
    show (Scan.char '.' >>= _) _ = _
    rw [Scan.bind_of_eq (Scan.char_cons '.' _), Scan.bind_of_eq hrow, Written.nanosecond,
      ← fraction_digits hall]
    cases hdigits : w.fraction with
    | nil => exact absurd hdigits hnone
    | cons c cs => rfl

/-! ## Offsets -/

theorem bind_hoursMinutes {α : Type} {hours minutes : Nat} (hhours : hours < 24)
    (hminutes : minutes < 60) (f : Nat → Nat → Scan α) :
    (do
      let hours ← Scan.number 2 0 23
      Scan.char ':'
      let minutes ← Scan.number 2 0 59
      f hours minutes : Scan α)
      ((Decimal.padded 2 hours).toList ++ ':' :: (Decimal.padded 2 minutes).toList) =
      f hours minutes [] := by
  have hlast : Scan.number 2 0 59 ((Decimal.padded 2 minutes).toList ++ []) = some (minutes, []) :=
    Scan.number_padded (by decide) (by omega) (by omega) (by omega) []
  rw [List.append_nil] at hlast
  rw [Scan.bind_of_eq (Scan.number_padded (by decide) (by omega) (by omega) (by omega) _),
    Scan.bind_of_eq (Scan.char_cons ':' _), Scan.bind_of_eq hlast]

theorem offset_written (z : Zone) : offset z.written = some (z.seconds, []) := by
  cases z with
  | utc small => cases small <;> rfl
  | shifted west hours minutes hhours hminutes =>
      cases west with
      | false =>
          rw [offset, Zone.written, Scan.bind_of_eq (Scan.charWhere_cons rfl _),
            if_neg (by decide), bind_hoursMinutes hhours hminutes]
          rfl
      | true =>
          rw [offset, Zone.written, Scan.bind_of_eq (Scan.charWhere_cons rfl _),
            if_neg (by decide), bind_hoursMinutes hhours hminutes]
          rfl

theorem head?_zone (z : Zone) : ∀ c ∈ z.written.head?, Decimal.isDigit c = false ∧ c ≠ '.' := by
  intro c hc
  cases z with
  | utc small =>
      obtain rfl := Option.some.inj hc
      cases small <;> decide
  | shifted west hours minutes _ _ =>
      obtain rfl := Option.some.inj hc
      cases west <;> decide

/-! ## Times -/

theorem form_text (w : Written) : form w.text.toList = some (w.instant, []) := by
  obtain ⟨hmonth, hmonth', hday, hday'⟩ := w.valid
  have hdays : daysInMonth w.year w.month ≤ 31 := by
    unfold daysInMonth
    split <;> split <;> decide
  have hsecond : w.second ≤ 60 := by
    rcases w.secondFits with h | ⟨h, -⟩ <;> omega
  have hhour := w.hourFits
  have hminute := w.minuteFits
  dsimp only at hmonth hmonth' hday hday'
  rw [Written.text, String.toList_ofList, Written.clock]
  simp only [List.append_assoc, List.cons_append]
  rw [form,
    Scan.bind_of_eq (Scan.digits_padded (by decide) w.yearFits _),
    Scan.bind_of_eq (Scan.char_cons _ _),
    Scan.bind_of_eq (Scan.number_padded (by decide) (by omega) hmonth hmonth' _),
    Scan.bind_of_eq (Scan.char_cons _ _),
    Scan.bind_of_eq (Scan.number_padded (by decide) (by omega) hday (by omega) _),
    Scan.bind_of_eq (Scan.charWhere_cons (decide_eq_true w.ascii) _),
    Scan.bind_of_eq (Scan.number_padded (by decide) (by omega) (by omega) (by omega) _),
    Scan.bind_of_eq (Scan.char_cons _ _),
    Scan.bind_of_eq (Scan.number_padded (by decide) (by omega) (by omega) (by omega) _),
    Scan.bind_of_eq (Scan.char_cons _ _),
    Scan.bind_of_eq (Scan.number_padded (by decide) (by omega) (by omega) hsecond _),
    Scan.bind_of_eq (optionalFraction_written w (head?_zone w.zone)),
    Scan.bind_of_eq (offset_written w.zone)]
  -- all is scanned, what is left is whether there is such a time
  simp only [Int.ofNat_eq_natCast]
  rw [if_neg (not_not_intro w.valid)]
  unfold Written.instant
  split
  · next hleap =>
      rcases w.secondFits with hlt | ⟨-, hends⟩
      · omega
      · rw [if_pos hends]
        rfl
  · rfl

/-- **Every time is read back** as the instant that it denotes. -/
theorem parse?_text (w : Written) : parse? w.text.toList = some w.instant :=
  Scan.run?_of_eq (form_text w)

theorem isBlank_of_mem_zone {c : Char} {z : Zone} (h : c ∈ z.written) : isBlank c = false := by
  have hdigit {width n : Nat} (hc : c ∈ (Decimal.padded width n).toList) : isBlank c = false :=
    Decimal.isBlank_of_isDigit (Decimal.isDigit_of_mem_padded hc)
  cases z with
  | utc small =>
      rw [List.mem_singleton.mp h]
      cases small <;> decide
  | shifted west hours minutes _ _ =>
      rw [Zone.written, List.mem_cons, List.mem_append, List.mem_cons] at h
      rcases h with rfl | hhours | rfl | hminutes
      · cases west <;> decide
      · exact hdigit hhours
      · decide
      · exact hdigit hminutes

theorem trimBy_text (w : Written) : trimBy isBlank w.text.toList = w.text.toList := by
  have hyear : (Decimal.padded 4 w.year).toList ≠ [] := by
    rw [← List.length_pos_iff, Decimal.length_padded (by decide) w.yearFits]
    decide
  have hzone : w.zone.written ≠ [] := by
    cases w.zone <;> exact List.cons_ne_nil _ _
  rw [Written.text, String.toList_ofList]
  refine trimBy_of_ends (fun c hc => ?_) fun c hc => ?_
  · rw [Written.clock, List.append_assoc, List.head?_append_of_ne_nil _ hyear] at hc
    exact Decimal.isBlank_of_isDigit (Decimal.isDigit_of_mem_padded (List.mem_of_head? hc))
  · rw [List.getLast?_append_of_ne_nil _ hzone] at hc
    exact isBlank_of_mem_zone (List.mem_of_getLast? hc)

end ObjectStore.Timestamp
