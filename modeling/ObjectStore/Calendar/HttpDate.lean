import ObjectStore.Calendar.Instant
import ObjectStore.Text.Blank
import ObjectStore.Text.Decimal
import ObjectStore.Text.Scan

/-!
# HTTP dates

The fixed form `Tue, 27 Mar 2007 19:36:42 GMT`. An instant is written as the
whole second it falls into. Reading takes blanks off the ends, and takes the
name of any weekday: the date alone says which day it was.
-/

namespace ObjectStore.HttpDate

def weekdays : List String := ["Sun", "Mon", "Tue", "Wed", "Thu", "Fri", "Sat"]

def months : List String :=
  ["Jan", "Feb", "Mar", "Apr", "May", "Jun", "Jul", "Aug", "Sep", "Oct", "Nov", "Dec"]

/-- A year has at least four digits, after a minus sign if it is before
year 0. -/
def yearText (year : Int) : String :=
  if year < 0 then "-" ++ Decimal.padded 4 year.natAbs else Decimal.padded 4 year.natAbs

def format (i : Instant) : String :=
  let d := i.date
  let t := i.timeOfDay
  weekdays.getD i.weekday "" ++ ", " ++ Decimal.padded 2 d.day ++ " " ++
    months.getD (d.month - 1) "" ++ " " ++ yearText d.year ++ " " ++
    Decimal.padded 2 t.hour ++ ":" ++ Decimal.padded 2 t.minute ++ ":" ++
    Decimal.padded 2 t.second ++ " GMT"

def year : Scan Int := do
  match ← Scan.peek with
  | some '-' =>
    Scan.char '-'
    return -(Int.ofNat (← Scan.digits 4))
  | some '+' =>
    Scan.char '+'
    return Int.ofNat (← Scan.digits 4)
  | _ => return Int.ofNat (← Scan.digits 4)

def form : Scan Instant := do
  let _ ← Scan.oneOf weekdays
  Scan.literal ", "
  let day ← Scan.number 2 1 31
  Scan.literal " "
  let month ← Scan.oneOf months
  Scan.literal " "
  let year ← year
  Scan.literal " "
  let hour ← Scan.number 2 0 23
  Scan.literal ":"
  let minute ← Scan.number 2 0 59
  Scan.literal ":"
  let second ← Scan.number 2 0 59
  Scan.literal " GMT"
  let date : Date := ⟨year, month + 1, day⟩
  if date.Valid then return Instant.ofLocal date ⟨hour, minute, second, 0⟩ 0 else failure

def parse? (s : String) : Option Instant :=
  form.run? (trimBy isBlank s.toList)

end ObjectStore.HttpDate
