/-!
The 64-bit binary numbers: 53 significant bits and no bit below `2 ^ -1074`, with two zeros, two
infinite numbers, and what is no number at all.
-/
namespace Vivarium

inductive Binary64
  /-- A number of the format; zero without a sign. -/
  | finite (q : Rat)
  | negativeZero
  | infinite (negative : Bool)
  /-- What no sum or quotient is. -/
  | undefined
  deriving DecidableEq, Repr

namespace Binary64

/-- The nearest whole number, and of two that are equally near the even one. -/
def roundEven (q : Rat) : Int :=
  let k := q.floor
  if q - k < 1 / 2 then k
  else if 1 / 2 < q - k then k + 1
  else k + k % 2

/-- The exponent of the greatest power of two that is no greater than the number's size. -/
def exponent (q : Rat) : Int :=
  let k := (q.num.natAbs.log2 : Int) - q.den.log2
  if (2 : Rat) ^ k * q.den ≤ q.num.natAbs then k else k - 1

/-- The place value of the last bit that is kept. -/
def unit (q : Rat) : Rat := 2 ^ max (exponent q - 52) (-1074)

/-- The nearest number of the format, as if its exponents had no upper end. -/
def round (q : Rat) : Rat := roundEven (q / unit q) * unit q

/-- The least power of two that is too great for the format. -/
def limit : Rat := (2 : Rat) ^ (1024 : Nat)

/-- The nearest number of the format; the sign outlives a number that is too small. -/
def ofRat (q : Rat) : Binary64 :=
  let r := round q
  if limit ≤ r then .infinite false
  else if r ≤ -limit then .infinite true
  else if r = 0 ∧ q < 0 then .negativeZero
  else .finite r

def neg : Binary64 → Binary64
  | .finite q => if q = 0 then .negativeZero else .finite (-q)
  | .negativeZero => .finite 0
  | .infinite negative => .infinite (!negative)
  | .undefined => .undefined

/-- A sign and a size, to the nearest number of the format. -/
def ofSigned (negative : Bool) (size : Rat) : Binary64 :=
  if negative then (ofRat size).neg else ofRat size

def toRat? : Binary64 → Option Rat
  | .finite q => some q
  | .negativeZero => some 0
  | _ => none

def unsigned : Binary64 → Binary64
  | .negativeZero => .finite 0
  | x => x

def add : Binary64 → Binary64 → Binary64
  | .undefined, _ => .undefined
  | _, .undefined => .undefined
  | .infinite a, .infinite b => if a = b then .infinite a else .undefined
  | .infinite a, _ => .infinite a
  | _, .infinite b => .infinite b
  | .negativeZero, y => y
  | x, .negativeZero => x
  | .finite p, .finite q => ofRat (p + q)

def sub (x y : Binary64) : Binary64 := x.add y.neg

def divNat (x : Binary64) (n : Nat) : Binary64 :=
  match x with
  | .finite q => ofRat (q / n)
  | x => x

/-- The order by size; the two zeros are equal. -/
def lt : Binary64 → Binary64 → Bool
  | .undefined, _ => false
  | _, .undefined => false
  | .infinite a, .infinite b => a && !b
  | .infinite a, _ => a
  | _, .infinite b => !b
  | x, y => x.toRat?.getD 0 < y.toRat?.getD 0

@[simp] theorem roundEven_intCast (k : Int) : roundEven k = k := by
  have hf : (k : Rat).floor = k := Rat.floor_intCast k
  have hz : (k : Rat) - (k : Rat) = 0 := Rat.sub_self
  have hp : (0 : Rat) < 1 / 2 := by grind
  simp only [roundEven, hf, hz, if_pos hp]

@[simp] theorem round_zero : round 0 = 0 := by
  have h : (0 : Rat) / unit 0 = ((0 : Int) : Rat) := by rw [Rat.div_def, Rat.zero_mul]; rfl
  rw [round, h, roundEven_intCast]
  exact Rat.zero_mul _

end Binary64
end Vivarium
