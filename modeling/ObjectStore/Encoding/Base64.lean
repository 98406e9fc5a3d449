import ObjectStore.Text.Utf8

/-!
# Base64

Three bytes become four characters of a sixty-four letter alphabet; a shorter
last group is filled with `=`.
-/

namespace ObjectStore.Base64

def letter (n : Nat) : Char :=
  Char.ofNat
    (if n < 26 then 'A'.toNat + n
     else if n < 52 then 'a'.toNat + (n - 26)
     else if n < 62 then '0'.toNat + (n - 52)
     else if n = 62 then '+'.toNat else '/'.toNat)

def encodeChars : Bytes → List Char
  | [] => []
  | [a] =>
    let n := a.toNat * 16
    [letter (n / 64), letter (n % 64), '=', '=']
  | [a, b] =>
    let n := (a.toNat * 256 + b.toNat) * 4
    [letter (n / 4096), letter (n / 64 % 64), letter (n % 64), '=']
  | a :: b :: c :: rest =>
    let n := (a.toNat * 256 + b.toNat) * 256 + c.toNat
    letter (n / 262144) :: letter (n / 4096 % 64) :: letter (n / 64 % 64) ::
      letter (n % 64) :: encodeChars rest

/-- Bytes as Base64 text, with padding. -/
def encode (bs : Bytes) : String := String.ofList (encodeChars bs)

theorem length_encodeChars (bs : Bytes) :
    (encodeChars bs).length = (bs.length + 2) / 3 * 4 := by
  fun_induction encodeChars bs with
  | case1 => rfl
  | case2 => simp
  | case3 => simp
  | case4 a b c rest n ih => simp only [List.length_cons, ih]; omega

end ObjectStore.Base64
