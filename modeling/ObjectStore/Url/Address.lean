import ObjectStore.Encoding.Hex
import ObjectStore.Text.Decimal
import ObjectStore.Text.Split

/-!
# Addresses

Hosts that are numbers. The parts of an IPv4 address may be decimal, octal
after a leading zero or hexadecimal after `0x`, and the last part fills the
bytes that are left. An IPv6 address is eight pieces, of which one run of
zeros may be written as `::`, and the last two may be an IPv4 address.
-/

namespace ObjectStore

namespace Ipv4

/-- The number that a part denotes. Nothing behind the base is zero, and numbers of
more than 32 bits are all the same. -/
def part? (cs : List Char) : Option Nat :=
  match cs with
  | [] => none
  | '0' :: 'x' :: rest => Hex.value? 16 Decimal.limit32 rest
  | '0' :: 'X' :: rest => Hex.value? 16 Decimal.limit32 rest
  | '0' :: c :: rest => Hex.value? 8 Decimal.limit32 (c :: rest)
  | _ => Hex.value? 10 Decimal.limit32 cs

/-- The parts of a host; a last empty part does not count. -/
def parts (cs : List Char) : List (List Char) :=
  let all := splitWhere (· == '.') cs
  if 1 < all.length ∧ all.getLast? = some [] then all.dropLast else all

/-- A host whose last part is a number has to be an address. -/
def endsInNumber (cs : List Char) : Bool :=
  match (parts cs).getLast? with
  | none => false
  | some last => (!last.isEmpty && last.all Decimal.isDigit) || (part? last).isSome

def parse? (cs : List Char) : Option Nat := do
  let numbers ← (parts cs).mapM part?
  let last ← numbers.getLast?
  let leading := numbers.dropLast
  if leading.length ≤ 3 ∧ (∀ n ∈ leading, n ≤ 255) ∧ last < Nat.pow 256 (4 - leading.length) then
    return leading.foldr (fun n sum => n * 16777216 + sum / 256) 0 + last
  else none

def text (a : Nat) : String :=
  ".".intercalate ([3, 2, 1, 0].map fun i => toString ((a >>> (8 * i)) % 256))

end Ipv4

namespace Ipv6

def piece? (cs : List Char) : Option Nat :=
  if cs.isEmpty ∨ 4 < cs.length then none else Hex.value? 16 Decimal.limit32 cs

/-- A byte of an IPv4 tail: decimal, without leading zeros. -/
def byte? (cs : List Char) : Option Nat :=
  if cs = ['0'] then some 0
  else if cs.head? = some '0' then none
  else if cs.all Decimal.isDigit then Decimal.parse? 256 cs else none

/-- The pieces of a part: groups of digits between colons, of which the last
one may be an IPv4 address. -/
def pieces? (tail : Bool) : List (List Char) → Option (List Nat)
  | [] => some []
  | [last] =>
    if tail ∧ '.' ∈ last then
      match splitWhere (· == '.') last with
      | [a, b, c, d] => do
        let a ← byte? a
        let b ← byte? b
        let c ← byte? c
        let d ← byte? d
        return [a * 256 + b, c * 256 + d]
      | _ => none
    else do return [← piece? last]
  | group :: rest => do return (← piece? group) :: (← pieces? tail rest)

def side? (tail : Bool) (cs : List Char) : Option (List Nat) :=
  if cs = [] then some [] else pieces? tail (splitWhere (· == ':') cs)

/-- What stands on the two sides of the first `::`. -/
def sides? : List Char → Option (List Char × List Char)
  | ':' :: ':' :: rest => some ([], rest)
  | c :: rest => (sides? rest).map fun s => (c :: s.1, s.2)
  | [] => none

def parse? (cs : List Char) : Option (List Nat) :=
  match sides? cs with
  | some (left, right) => do
    let l ← side? false left
    let r ← side? true right
    if l.length + r.length ≤ 7 then
      return l ++ List.replicate (8 - l.length - r.length) 0 ++ r
    else none
  | none => do
    let ps ← pieces? true (splitWhere (· == ':') cs)
    if ps.length = 8 then return ps else none

def zeros (ps : List Nat) : Nat := (ps.takeWhile (· == 0)).length

/-- Where the first of the longest runs of zeros starts, and its length. -/
def longestZeros (ps : List Nat) : Nat × Nat :=
  (List.range ps.length).foldl
    (fun best i => if best.2 < zeros (ps.drop i) then (i, zeros (ps.drop i)) else best) (0, 0)

def colonText (ps : List Nat) : String :=
  ":".intercalate (ps.map fun p => String.ofList (Nat.toDigits 16 p))

/-- The shortest form of an address. A single zero is not left out. -/
def text (ps : List Nat) : String :=
  let (start, length) := longestZeros ps
  if length < 2 then colonText ps
  else colonText (ps.take start) ++ "::" ++ colonText (ps.drop (start + length))

end Ipv6

example : Ipv4.parse? "1.2.3.4".toList = some 16909060 := by decide +kernel
example : Ipv4.parse? "0x7f.1".toList = some 2130706433 := by decide +kernel
example : Ipv4.parse? "1.2.3.256".toList = none := by decide +kernel
example : Ipv6.parse? "::1".toList = some [0, 0, 0, 0, 0, 0, 0, 1] := by decide +kernel
example : Ipv6.parse? "1:2:3:4:5:6:7::".toList = some [1, 2, 3, 4, 5, 6, 7, 0] := by
  decide +kernel
example : Ipv6.parse? "1:2:3:4:5:6:7:8::".toList = none := by decide +kernel

end ObjectStore
