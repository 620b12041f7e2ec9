import Vivarium.Random.Chance
import Vivarium.World

/-!
Stretches of a simulation: what they leave behind, what they tell, and how they follow on. The first of
them fills the world with creatures.
-/
namespace Vivarium

/-- A turn that was given up, and where its creature stood. -/
structure Notice where
  creature : Nat
  pos : Pos
  fault : Fault
  deriving DecidableEq, Repr

def Notice.text (n : Notice) : String :=
  s!"[scheduler] creature {n.creature} at {n.pos.text}: {n.fault.message}; skipping turn"

structure Episode (α : Type) where
  world : World
  chance : Chance
  events : List Event := []
  notices : List Notice := []
  result : Except Fault α

namespace Episode

variable {α β : Type}

def done (a : α) (w : World) (c : Chance) : Episode α :=
  { world := w, chance := c, result := .ok a }

def failed (f : Fault) (w : World) (c : Chance) : Episode α :=
  { world := w, chance := c, result := .error f }

/-- A change of the world with a value to go with its success. -/
def ofChange (change : Change) (a : α) (c : Chance) : Episode α :=
  { world := change.world, chance := c, events := change.events,
    result := change.result.map fun _ => a }

/-- One stretch after another; a fault ends both. -/
def andThen (e : Episode α) (next : α → World → Chance → Episode β) : Episode β :=
  match e.result with
  | .error f => { e with result := .error f }
  | .ok a =>
    let rest := next a e.world e.chance
    { rest with events := e.events ++ rest.events, notices := e.notices ++ rest.notices }

def map (f : α → β) (e : Episode α) : Episode β := { e with result := e.result.map f }

end Episode

def World.randomPos (w : World) (chance : Chance) : Pos × Chance :=
  let (x, chance) := chance.below w.grid.width
  let (y, chance) := chance.below w.grid.height
  (⟨x, y⟩, chance)

/-! Creatures come at random positions, occupied ones included, with random headings. -/

namespace Populate

/-- One creature of each listed species in turn; gives the numbers of the new creatures. -/
def each : List Nat → World → Chance → Episode (List Nat)
  | [], w, chance => .done [] w chance
  | species :: rest, w, chance =>
    let (pos, chance) := w.randomPos chance
    let (heading, chance) := chance.heading
    let id := w.creatures.length
    (Episode.ofChange (w.spawn species pos heading) id chance).andThen fun id w chance =>
      (each rest w chance).map (id :: ·)

/-- As many creatures of each species, one species after the other. -/
def run (species : List Nat) (count : Nat) (w : World) (chance : Chance) : Episode (List Nat) :=
  each (species.flatMap (List.replicate count)) w chance

end Populate

end Vivarium
