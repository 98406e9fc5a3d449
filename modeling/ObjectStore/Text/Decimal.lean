/-!
# Decimal numbers

Reading a number that has to stay below a bound, and writing one with a least
number of digits.
-/

namespace ObjectStore.Decimal

def isDigit (c : Char) : Bool := '0' ≤ c && c ≤ '9'

/-- The number that a row of digits denotes. -/
def value (cs : List Char) : Nat :=
  cs.foldl (fun n c => n * 10 + (c.toNat - '0'.toNat)) 0

def below? (bound : Nat) (digits : List Char) : Option Nat :=
  digits.foldlM (fun n c =>
    let n := n * 10 + (c.toNat - '0'.toNat)
    if n < bound then some n else none) 0

/-- Reads a number below `bound`: an optional plus sign and one or more
digits, leading zeros allowed. -/
def parse? (bound : Nat) (cs : List Char) : Option Nat :=
  let digits := match cs with
    | '+' :: rest => rest
    | _ => cs
  if digits.isEmpty || !digits.all isDigit then none else below? bound digits

def limit32 : Nat := 4294967296

def limit64 : Nat := 18446744073709551616

def padded (width n : Nat) : String :=
  let digits := Nat.toDigits 10 n
  String.ofList (List.replicate (width - digits.length) '0' ++ digits)

/-! ## What is below a bound -/

theorem le_foldl_digits (n : Nat) (cs : List Char) :
    n ≤ cs.foldl (fun n c => n * 10 + (c.toNat - '0'.toNat)) n := by
  induction cs generalizing n with
  | nil => exact Nat.le_refl n
  | cons c cs ih => exact Nat.le_trans (by omega) (ih (n * 10 + (c.toNat - '0'.toNat)))

/-- Digits on the right only make a number larger, so it can be given up as
soon as it reaches the bound. -/
theorem below?_eq {bound : Nat} (hbound : 0 < bound) (digits : List Char) :
    below? bound digits = if value digits < bound then some (value digits) else none := by
  have general (n : Nat) (hn : n < bound) (cs : List Char) :
      cs.foldlM (fun n c =>
        let n := n * 10 + (c.toNat - '0'.toNat)
        if n < bound then some n else none) n =
      if cs.foldl (fun n c => n * 10 + (c.toNat - '0'.toNat)) n < bound then
        some (cs.foldl (fun n c => n * 10 + (c.toNat - '0'.toNat)) n)
      else none := by
    induction cs generalizing n with
    | nil => simp [hn]
    | cons c cs ih =>
        rw [List.foldlM_cons, List.foldl_cons]
        by_cases h : n * 10 + (c.toNat - '0'.toNat) < bound
        · simp only [h, if_true, Option.bind_eq_bind, Option.bind_some]
          exact ih _ h
        · have hle := le_foldl_digits (n * 10 + (c.toNat - '0'.toNat)) cs
          simp only [h, if_false]
          rw [if_neg (by omega)]
          rfl
  exact general 0 hbound digits

end ObjectStore.Decimal
