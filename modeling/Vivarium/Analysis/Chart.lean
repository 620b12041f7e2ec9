import Vivarium.Analysis.Sheet

/-! The chart of a run: creatures by species above, and what happened in each round below. -/
namespace Vivarium.Analysis

structure Series where
  name : String
  rounds : List Cell
  values : List (Option Average)
  deriving DecidableEq, Repr

structure Panel where
  series : List Series
  /-- What is written below the panel. -/
  across : Option String
  /-- What is written beside the panel. -/
  upward : String
  deriving DecidableEq, Repr

namespace Panel

def ofCounts (s : Sheet) : Panel where
  series := s.columns.zipIdx.map fun (name, i) => ⟨name, s.rounds, s.column i⟩
  across := none
  upward := "Creatures"

def ofEvents (s : Sheet) : Panel where
  series := [⟨"Infections", s.rounds, s.column 0⟩, ⟨"Hops", s.rounds, s.column 1⟩]
  across := some "Round"
  upward := "Per round"

end Panel

structure Chart where
  panels : List Panel
  path : String
  deriving DecidableEq, Repr

def Chart.ofSheets (counts events : Sheet) (path : String) : Chart :=
  ⟨[Panel.ofCounts counts, Panel.ofEvents events], path⟩

end Vivarium.Analysis
