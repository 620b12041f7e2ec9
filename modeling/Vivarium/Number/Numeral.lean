import Vivarium.Number.Binary64
import Vivarium.Text.Digits

/-! Numerals: whole numbers in decimal digits, and decimals read as 64-bit binary numbers. -/
namespace Vivarium

/-- A sign, the digits before and after the point, and a power of ten. -/
structure Numeral where
  negative : Bool
  whole : List Char
  fraction : List Char
  exponent : Int
  deriving DecidableEq, Repr

namespace Numeral

def isSpace (c : Char) : Bool := c = ' ' || (9 ≤ c.toNat && c.toNat ≤ 13)

def trim (cs : List Char) : List Char :=
  ((cs.dropWhile isSpace).reverse.dropWhile isSpace).reverse

def splitSign : List Char → Bool × List Char
  | '-' :: cs => (true, cs)
  | '+' :: cs => (false, cs)
  | cs => (false, cs)

def signed (negative : Bool) (n : Nat) : Int := if negative then -n else n

def natOf (ds : List Char) : Nat := ds.foldl (fun n c => n * 10 + (c.toNat - 48)) 0

def natDigits? (ds : List Char) : Option Nat :=
  if ds.isEmpty || !ds.all Char.isDigit then none else some (natOf ds)

def signedDigits? (cs : List Char) : Option Int :=
  let (negative, ds) := splitSign cs
  (natDigits? ds).map (signed negative)

def whole? (s : String) : Option Int := signedDigits? (trim s.toList)

/-- A whole number of a size that has no bound: underscores may stand between its digits. -/
def great? (s : String) : Option Int :=
  if s.toList.all (·.toNat < 128) then Text.int? s else none

/-- What may follow the digits: nothing, or a power of ten. -/
def exponent? : List Char → Option Int
  | [] => some 0
  | c :: cs => if c = 'e' ∨ c = 'E' then signedDigits? cs else none

/-- A decimal with space around it; one of the two runs of digits may be missing. -/
def ofText? (s : String) : Option Numeral :=
  let (negative, cs) := splitSign (trim s.toList)
  let whole := cs.takeWhile Char.isDigit
  let (fraction, rest) :=
    match cs.dropWhile Char.isDigit with
    | '.' :: ds => (ds.takeWhile Char.isDigit, ds.dropWhile Char.isDigit)
    | rest => ([], rest)
  if whole.isEmpty && fraction.isEmpty then none
  else (exponent? rest).map fun e => ⟨negative, whole, fraction, e⟩

/-- A number below this power of ten is nearer to zero than to any other number of the format. -/
def leastPower : Int := -324

/-- A number from this power of ten on is too great for the format. -/
def greatestPower : Int := 309

/-- The nearest number of the format, all digits counted: 98418e159 is 9.8418e+163, while a rounded
power of ten would make it 9.841799999999999e+163. -/
def value (n : Numeral) : Binary64 :=
  let digits := (n.whole ++ n.fraction).dropWhile (· = '0')
  let e := n.exponent - n.fraction.length
  let size := digits.length + e
  if digits.isEmpty ∨ size ≤ leastPower then .ofSigned n.negative 0
  else if greatestPower < size then .infinite n.negative
  else .ofSigned n.negative (natOf digits * 10 ^ e)

def infinite? (s : String) : Option Binary64 :=
  let (negative, cs) := splitSign s.toList
  if cs.map Char.toLower ∈ ["inf".toList, "infinity".toList] then some (.infinite negative)
  else none

/-- A decimal, or an infinite number by its name. -/
def binary64? (s : String) : Option Binary64 := ((ofText? s).map value) <|> infinite? s

end Numeral
end Vivarium
