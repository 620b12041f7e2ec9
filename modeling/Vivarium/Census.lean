import Vivarium.Keyed
import Vivarium.Round

/-! The census: how many creatures each species has, and the summary of a round. -/
namespace Vivarium

namespace Census

/-- Species names, each followed by its place in the table where several species share it. -/
def labels (names : List String) : List String :=
  names.zipIdx.map fun (name, i) => if names.count name = 1 then name else s!"{name}#{i}"

end Census

namespace World

def labels (w : World) : List String := Census.labels (w.species.map (·.name))

def population (w : World) (species : Nat) : Nat :=
  w.creatures.countP (·.species = species)

/-- The population of each label, in the order of the table. -/
def census (w : World) : Except Fault (List (String × Nat)) :=
  if w.creatures.all (·.species < w.species.length) then
    .ok (Keyed.ofList (w.labels.zip ((List.range w.species.length).map w.population)))
  else .error .unknownSpecies

end World

/-- A round's tally with the census at its end. -/
structure Summary where
  round : Int
  creatures : Int
  infections : Int
  moves : Int
  aborted : Int := 0
  counts : List (String × Int)
  deriving DecidableEq, Repr

namespace Summary

def ofTally (t : Tally) (w : World) : Except Fault Summary :=
  w.census.map fun counts =>
    { round := t.round, creatures := w.creatures.length, infections := t.infections,
      moves := t.moves, aborted := t.aborted, counts := counts.map fun (k, n) => (k, n) }

def line (s : Summary) : String :=
  let column (width : Nat) (n : Int) := Text.padLeft width (toString n)
  let counts := " ".intercalate (s.counts.map fun (k, n) => s!"{k}={n}")
  let head := "Round " ++ column 4 s.round ++ " | N=" ++ column 3 s.creatures
  let body := " infect=" ++ column 3 s.infections ++ " moves=" ++ column 3 s.moves ++
    " aborted=" ++ column 2 s.aborted
  head ++ body ++ " | " ++ counts

end Summary
end Vivarium
