import Vivarium.Failure
import Vivarium.Ledger
import Vivarium.Prompt

/-! A run without a display: each round is summarised, entered into the ledger and recorded. -/
namespace Vivarium

structure Headless where
  world : World
  chance : Chance
  /-- The ledger to write, and the session to write it for. -/
  ledger : Option String
  session : String
  recording : Recording
  directory : Directory
  out : List String := []
  notices : List Notice := []

namespace Headless

/-- Enters a round into the ledger if one is written. -/
def enter (h : Headless) (t : Tally) : Headless × Except Failure Unit :=
  match h.ledger with
  | none => (h, .ok ())
  | some path =>
    match Ledger.rows t h.world h.session with
    | .error f => (h, .error (.world f))
    | .ok rows =>
      let (directory, result) := Ledger.append h.directory path (rows.map (·.fields))
      ({ h with directory }, result.mapError .file)

def report (h : Headless) (t : Tally) : Headless × Except Failure Unit :=
  match Summary.ofTally t h.world with
  | .error f => (h, .error (.world f))
  | .ok summary =>
    match { h with out := h.out ++ [summary.line] }.enter t with
    | (h, .error f) => (h, .error f)
    | (h, .ok ()) =>
      match h.recording.capture h.world t.round with
      | .error o => (h, .error (.overflow o))
      | .ok recording => ({ h with recording }, .ok ())

def round (h : Headless) (number : Int) : Headless × Except Failure Unit :=
  let e := Round.run number h.world h.chance
  let h := { h with world := e.world, chance := e.chance, notices := h.notices ++ e.notices }
  match e.result with
  | .error f => (h, .error (.world f))
  | .ok t => h.report t

/-- Rounds `number`, `number + 1`, … up to the first that fails. -/
def rounds (number : Int) : Nat → Headless → Headless × Except Failure Unit
  | 0, h => (h, .ok ())
  | n + 1, h =>
    match h.round number with
    | (h, .error f) => (h, .error f)
    | (h, .ok ()) => rounds (number + 1) n h

end Headless
end Vivarium
