import Vivarium.Analysis.Cell
import Vivarium.Number.Numeral

/-!
Kinds of columns. All texts of a column are read in the same way, which depends on all of them.
-/
namespace Vivarium.Analysis

def missingTexts : List String := [
  "", "#N/A", "#N/A N/A", "#NA", "-1.#IND", "-1.#QNAN", "-NaN", "-nan", "1.#IND", "1.#QNAN",
  "<NA>", "N/A", "NA", "NULL", "NaN", "None", "n/a", "nan", "null"]

def isMissing (s : String) : Bool := s ∈ missingTexts

def truth? (s : String) : Option Bool :=
  let cs := s.toList.map Char.toLower
  if cs = "true".toList then some true
  else if cs = "false".toList then some false
  else none

inductive Kind
  | whole
  | great
  /-- Whole numbers held as decimals, as some are missing. -/
  | widened
  /-- Decimals; any other text is missing. -/
  | decimal
  | truth
  /-- Truth values held as decimals, as some are missing: one and zero. -/
  | indicator
  | text
  /-- Every text stands for itself, those for a missing value too. -/
  | verbatim
  deriving DecidableEq, Repr

namespace Kind

def cell (kind : Kind) (s : String) : Cell :=
  if kind = .verbatim then .text s
  else if isMissing s then .missing
  else match kind with
    | .whole => (Numeral.whole? s).elim .missing .whole
    | .great => (Numeral.great? s).elim .missing .whole
    | .widened =>
      (Numeral.whole? s <|> Numeral.great? s).elim .missing fun n => .decimal (.ofRat n)
    | .decimal => (Numeral.binary64? s).elim .missing .decimal
    | .truth => (truth? s).elim .missing .truth
    | .indicator => (truth? s).elim .missing fun b => .decimal (.finite (if b then 1 else 0))
    | _ => .text s

def readsAs (kind : Kind) (s : String) : Bool := (kind.cell s).isPresent

def isText (kind : Kind) : Bool := kind = .text || kind = .verbatim

/-- The least positive number that 64 bits with a sign cannot hold. -/
def signedEnd : Int := 0x8000000000000000

/-- The least number that 64 bits without a sign cannot hold. -/
def unsignedEnd : Int := 0x10000000000000000

/-- How a text fits the whole numbers from `lo` to below `hi`. -/
inductive Fit
  | inside | outside | noWhole
  deriving DecidableEq, Repr

/-- A number outside is taken for one only if no white space follows it. -/
def fit (lo hi : Int) (s : String) : Fit :=
  match Numeral.whole? s with
  | none => .noWhole
  | some n =>
    if lo ≤ n ∧ n < hi then .inside
    else if s.toList.getLast?.any Numeral.isSpace then .noWhole
    else .outside

def isNegative (s : String) : Bool := (s.toList.dropWhile Numeral.isSpace).head? = some '-'

def ofOthers (present : List String) : Kind :=
  if present.all Kind.decimal.readsAs then .decimal
  else if present.all Kind.truth.readsAs then .truth
  else .text

/-- The kind of texts one of which is a whole number that 64 bits cannot hold. -/
def ofGreat (present : List String) : Kind :=
  if present.all Kind.great.readsAs then .great else .text

/-- The kind of texts one of which is a whole number that 64 bits with a sign cannot hold. What has
a minus sign is not looked at until it is known that no number is too great without a sign. -/
def ofUnsigned (present : List String) (gaps : Bool) : Kind :=
  let others := present.filter (!isNegative ·)
  let negative := others.length < present.length
  match (others.map (fit 0 unsignedEnd)).find? (· ≠ .inside) with
  | some .outside => ofGreat present
  | some _ => ofOthers present
  | none =>
    if others.any fun s => (Numeral.whole? s).any (signedEnd ≤ ·) then
      if negative || gaps then .verbatim else .whole
    else ofGreat present

/-- The kind of a column: whole numbers if all texts are; decimals if all texts are numbers; truth
values if all texts are; else text. It is inferred from the whole column, as for any file of no
more than 131072 records of seven fields; of a longer one, each so many records would have a kind of
their own. -/
def ofTexts (texts : List String) : Kind :=
  let present := texts.filter (!isMissing ·)
  let gaps := present.length < texts.length
  match (present.map (fit (-signedEnd) signedEnd)).find? (· ≠ .inside) with
  | none => if gaps then .widened else .whole
  | some .outside => ofUnsigned present gaps
  | some _ => ofOthers present

/-- The kind of a column that has to hold numbers: truth values stay if none is missing. -/
def numeric (kind : Kind) (gaps : Bool) : Kind :=
  match kind with
  | .great => .widened
  | .truth => if gaps then .indicator else .truth
  | .text | .verbatim => .decimal
  | kind => kind

end Kind
end Vivarium.Analysis
