import Vivarium.Turn

/-!
Rounds, in which every creature takes one turn in random order, and a simulation that is run one turn at
a time by the same rules.
-/
namespace Vivarium

/-- What a round has come to so far. -/
structure Tally where
  round : Int := 0
  turns : Int := 0
  moves : Int := 0
  infections : Int := 0
  /-- The turns that were given up. -/
  aborted : Int := 0
  deriving DecidableEq, Repr

def Tally.count (t : Tally) : Option Outcome → Tally
  | none => { t with turns := t.turns + 1, aborted := t.aborted + 1 }
  | some o =>
    { t with
      turns := t.turns + 1
      moves := if o.moved then t.moves + 1 else t.moves
      infections := if o.infected then t.infections + 1 else t.infections }

namespace Round

/-- The creatures take their turns in the given order. -/
def turns (tally : Tally) : List Nat → World → Chance → Episode Tally
  | [], w, chance => .done tally w chance
  | me :: rest, w, chance =>
    (Turn.take w chance me).andThen fun outcome => turns (tally.count outcome) rest

/-- One round in a fresh order. -/
def run (number : Int) (w : World) (chance : Chance) : Episode Tally :=
  let (order, chance) := chance.order w.creatures.length
  turns { round := number } order w chance

/-- Rounds `number`, `number + 1`, …, each looked at when it is over. -/
def runMany {α : Type} (look : Tally → World → Except Fault α) (number : Int) :
    Nat → World → Chance → Episode (List α)
  | 0, w, chance => .done [] w chance
  | n + 1, w, chance =>
    (run number w chance).andThen fun tally w chance =>
      match look tally w with
      | .error f => .failed f w chance
      | .ok a => (runMany look (number + 1) n w chance).map (a :: ·)

end Round

structure Stepper where
  round : Int
  /-- Those whose turn is still to come in this round. -/
  pending : List Nat
  tally : Tally
  last : Option Tally
  deriving DecidableEq, Repr

namespace Stepper

/-- The beginning of a round: its order is drawn at once. -/
def openRound (round : Int) (last : Option Tally) (w : World) (chance : Chance) :
    Stepper × Chance :=
  let (order, chance) := chance.order w.creatures.length
  (⟨round, order, { round }, last⟩, chance)

def start (w : World) (chance : Chance) : Stepper × Chance := openRound 1 none w chance

/-- On to the next creature, or to the next round if none is left; says whether a round is over. -/
def settle (s : Stepper) (w : World) (chance : Chance) : Stepper × Bool × Chance :=
  if s.pending.isEmpty then
    let (s, chance) := openRound (s.round + 1) (some s.tally) w chance
    (s, true, chance)
  else (s, false, chance)

/-- The next turn, if one is left, and whether a round is over with it. -/
def step (s : Stepper) (w : World) (chance : Chance) : Stepper × Episode Bool :=
  match s.pending with
  | [] =>
    let (s, ended, chance) := s.settle w chance
    (s, .done ended w chance)
  | me :: rest =>
    if me < w.creatures.length then
      let s := { s with pending := rest }
      let turn := Turn.take w chance me
      match turn.result with
      | .error f => (s, { turn with result := .error f })
      | .ok outcome =>
        let (s, ended, chance) := settle { s with tally := s.tally.count outcome } turn.world
          turn.chance
        (s, { turn with chance, result := .ok ended })
    else (s, .failed .unknownCreature w chance)

end Stepper

end Vivarium
