import Vivarium.Number.Decimal

/-! Cells of a table: what the texts of a column are read as. -/
namespace Vivarium.Analysis

inductive Cell
  | missing
  | text (s : String)
  | whole (n : Int)
  | decimal (x : Binary64)
  | truth (b : Bool)
  deriving DecidableEq, Repr

namespace Cell

def isPresent (c : Cell) : Bool := c ≠ .missing

def label : Cell → String
  | .missing => ""
  | .text s => s
  | .whole n => toString n
  | .decimal x => x.text
  | .truth b => if b then "True" else "False"

/-- What a cell is compared by: of two zeros the sign does not count. -/
def key : Cell → Cell
  | .decimal x => .decimal x.unsigned
  | c => c

def amount? : Cell → Option Binary64
  | .whole n => some (.ofRat n)
  | .decimal x => some x
  | .truth b => some (.finite (if b then 1 else 0))
  | _ => none

/-- The order within a column: text by its characters, all else by size. -/
def before : Cell → Cell → Bool
  | .text s, .text t => s < t
  | .whole m, .whole n => m < n
  | .decimal x, .decimal y => x.lt y
  | .truth a, .truth b => !a && b
  | _, _ => false

end Cell
end Vivarium.Analysis
