import Vivarium.Census
import Vivarium.Csv.Writer
import Vivarium.Directory

/-! The census ledger: one record for each species and round, kept in a file that only grows. -/
namespace Vivarium.Ledger

def fieldNames : List String :=
  ["session_id", "round", "species", "count", "infections", "moves", "aborted"]

structure Row where
  session : String
  round : Int
  species : String
  count : Int
  infections : Int
  moves : Int
  aborted : Int
  deriving DecidableEq, Repr

def Row.fields (r : Row) : List String :=
  [r.session, toString r.round, r.species, toString r.count, toString r.infections,
    toString r.moves, toString r.aborted]

/-- The rows of a round, one per label of the census. -/
def rows (t : Tally) (w : World) (session : String) : Except Fault (List Row) :=
  w.census.map fun counts => counts.map fun (species, n) =>
    ⟨session, t.round, species, n, t.infections, t.moves, t.aborted⟩

/-- What a file holds once records are added to it; one that did not exist begins with the names. -/
def grown (before : Option Content) (records : List (List String)) : Content :=
  (before.getD (.bytes (Csv.write [fieldNames]).toUTF8)).append (Csv.write records).toUTF8

/-- Adds records to a file, which is made along with its folder if it does not exist. The folder
stays also when the file cannot be written. -/
def append (d : Directory) (path : String) (records : List (List String)) :
    Directory × Except FileFault Unit :=
  match d.makeParent path with
  | (d, .error fault) => (d, .error fault)
  | (d, .ok ()) =>
    match d.write path (grown (d.content? path) records) with
    | .ok d => (d, .ok ())
    | .error fault => (d, .error fault)

end Vivarium.Ledger
