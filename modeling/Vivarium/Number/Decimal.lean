import Vivarium.Number.Binary64

/-!
Decimal text of 64-bit binary numbers: the fewest digits that read back as the number, and a fixed
count of places.
-/
namespace Vivarium

/-- The number `coefficient * 10 ^ exponent`. -/
structure Decimal where
  coefficient : Nat
  exponent : Int
  deriving DecidableEq, Repr

namespace Decimal

def value (d : Decimal) : Rat := d.coefficient * 10 ^ d.exponent

def digits (n : Nat) : List Char := Nat.toDigits 10 n

/-- The exponent of the greatest power of ten that is no greater than a positive number. -/
def leading (q : Rat) : Int :=
  let k := ((digits q.num.natAbs).length : Int) - (digits q.den).length
  if (10 : Rat) ^ k * q.den ≤ q.num.natAbs then k else k - 1

/-- The neighbour of a positive number among the decimals of `count` digits that reads back as it;
of two the nearer, and of two equally near the even one. -/
def withDigits? (q : Rat) (count : Nat) : Option Decimal :=
  let e := leading q + 1 - count
  let k := (q / 10 ^ e).floor.toNat
  let below : Decimal := ⟨k, e⟩
  let above : Decimal := ⟨k + 1, e⟩
  match decide (Binary64.round below.value = q), decide (Binary64.round above.value = q) with
  | true, true =>
    let gap := (above.value - q) - (q - below.value)
    some (if 0 < gap ∨ (gap = 0 ∧ k % 2 = 0) then below else above)
  | true, false => some below
  | false, true => some above
  | false, false => none

/-- As many digits as any number of the format needs. -/
def enoughDigits : Nat := 17

/-- The shortest decimal that reads back as a positive number of the format. -/
def shortest (q : Rat) : Decimal :=
  ((List.range enoughDigits).findSome? fun n => withDigits? q (n + 1)).getD
    ⟨q.floor.toNat, 0⟩

def exponentText (e : Int) : String :=
  let ds := digits e.natAbs
  (if e < 0 then "-" else "+") ++ .ofList (List.replicate (2 - ds.length) '0' ++ ds)

def zeros (n : Int) : List Char := List.replicate n.toNat '0'

/-- The point is written where it falls if that takes at most four zeros before the digits and at
most sixteen digits before the point; otherwise it follows the first digit. -/
def text (d : Decimal) : String :=
  let all := digits d.coefficient
  let point := all.length + d.exponent
  let ds := (all.reverse.dropWhile (· = '0')).reverse
  if point ≤ -4 ∨ 16 < point then
    let rest := if ds.length ≤ 1 then [] else '.' :: ds.drop 1
    .ofList (ds.take 1 ++ rest) ++ "e" ++ exponentText (point - 1)
  else if point ≤ 0 then "0." ++ .ofList (zeros (-point) ++ ds)
  else if ds.length ≤ point then .ofList (ds ++ zeros (point - ds.length)) ++ ".0"
  else .ofList (ds.take point.toNat ++ '.' :: ds.drop point.toNat)

end Decimal

namespace Binary64

def magnitude (q : Rat) : Rat := if q < 0 then -q else q

/-- The text of a number of the format: the fewest digits that read back. -/
def text : Binary64 → String
  | .finite q =>
    if q = 0 then "0.0"
    else (if q < 0 then "-" else "") ++ (Decimal.shortest (magnitude q)).text
  | .negativeZero => "-0.0"
  | .infinite negative => if negative then "-inf" else "inf"
  | .undefined => "nan"

/-- The text with a fixed count of places, the last one rounded to nearest, to even on a tie. -/
def fixedText (places : Nat) (q : Rat) : String :=
  let ds := Decimal.digits (roundEven (magnitude q * 10 ^ places)).toNat
  let ds := List.replicate (places + 1 - ds.length) '0' ++ ds
  let point := ds.length - places
  (if q < 0 then "-" else "") ++ .ofList (ds.take point ++ '.' :: ds.drop point)

end Binary64
end Vivarium
