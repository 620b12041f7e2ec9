import Vivarium.Grid
import Vivarium.Species

/-!
The world: a grid, the table of species, and the roster of creatures. Creatures and species are
known by their place in the roster and in the table. A change that fails keeps what it had already
done.
-/
namespace Vivarium

structure Creature where
  species : Nat
  pos : Pos
  heading : Heading
  pc : Nat := 0
  deriving DecidableEq, Repr

def Creature.ahead (c : Creature) : Pos := c.pos.step c.heading

/-- What happens to a creature, as the world tells it. -/
inductive Event
  | created (id : Nat) (pos : Pos) (heading : Heading) (colour : Colour)
  | moved (id : Nat) (source target : Pos)
  | turned (id : Nat) (pos : Pos) (heading : Heading)
  | changed (id : Nat) (pos : Pos) (colour : Colour)
  deriving DecidableEq, Repr

namespace Event

def creature : Event → Nat
  | .created id .. => id
  | .moved id .. => id
  | .turned id .. => id
  | .changed id .. => id

end Event

/-- Why a change of the world fails, or a turn does not end. -/
inductive Fault
  | outOfBounds (pos : Pos)
  | unknownSpecies
  | unknownCreature
  | undefinedLabel (name : String)
  | noInstruction
  | runaway (species : String) (budget : Int) (pc : Nat)
  deriving DecidableEq, Repr

def Fault.message : Fault → String
  | .outOfBounds pos => s!"bad position: {pos.text}"
  | .unknownSpecies => "list index out of range"
  | .unknownCreature => "list index out of range"
  | .undefinedLabel name => s!"undefined label '{name}'"
  | .noInstruction => "tuple index out of range"
  | .runaway species budget pc =>
    s!"species '{species}' evaluated {budget} instructions without ending its turn (pc={pc})"

structure World where
  grid : Grid
  species : List Species
  creatures : List Creature
  deriving DecidableEq, Repr

/-- A change of the world: the world after it, and the event that tells it unless it failed. -/
structure Change where
  world : World
  result : Except Fault Event

def Change.events (c : Change) : List Event :=
  match c.result with
  | .ok e => [e]
  | .error _ => []

namespace World

def create? (width height : Int) : Option World :=
  if width ≤ 0 ∨ height ≤ 0 then none
  else some ⟨.empty width.toNat height.toNat, [], []⟩

def addSpecies (w : World) (s : Species) : World × Nat :=
  ({ w with species := w.species ++ [s] }, w.species.length)

def modify (w : World) (id : Nat) (f : Creature → Creature) : World :=
  { w with creatures := w.creatures.modify id f }

def speciesOf? (w : World) (id : Nat) : Option Species := do
  w.species[(← w.creatures[id]?).species]?

def get (w : World) (pos : Pos) : Except Fault (Option Nat) :=
  if w.grid.Contains pos then .ok (w.grid.occupant? pos) else .error (.outOfBounds pos)

def set (w : World) (pos : Pos) (o : Option Nat) : Except Fault World :=
  if w.grid.Contains pos then .ok { w with grid := w.grid.put pos o }
  else .error (.outOfBounds pos)

/-- A new creature joins the roster and takes its cell, whoever was there before. Species are numbered
from the front of the table only; a number below zero, from its end, is no species here. -/
def spawn (w : World) (species : Nat) (pos : Pos) (heading : Heading) : Change :=
  let id := w.creatures.length
  let newcomer : Creature := ⟨species, pos, heading, 0⟩
  let w := { w with creatures := w.creatures ++ [newcomer] }
  match w.set pos (some id) with
  | .error f => ⟨w, .error f⟩
  | .ok w =>
    match w.species[species]? with
    | none => ⟨w, .error .unknownSpecies⟩
    | some s => ⟨w, .ok (.created id pos heading s.colour)⟩

/-- A creature leaves its cell, then takes another one. -/
def move (w : World) (id : Nat) (target : Pos) : Change :=
  match w.creatures[id]? with
  | none => ⟨w, .error .unknownCreature⟩
  | some c =>
    match w.set c.pos none with
    | .error f => ⟨w, .error f⟩
    | .ok w =>
      match w.set target (some id) with
      | .error f => ⟨w, .error f⟩
      | .ok w => ⟨w.modify id ({ · with pos := target }), .ok (.moved id c.pos target)⟩

def turn (w : World) (id : Nat) (heading : Heading) : Change :=
  match w.creatures[id]? with
  | none => ⟨w, .error .unknownCreature⟩
  | some c => ⟨w.modify id ({ · with heading }), .ok (.turned id c.pos heading)⟩

/-- A creature becomes one of another species, about to run the instruction at `pc`. -/
def infect (w : World) (id species pc : Nat) : Change :=
  match w.creatures[id]? with
  | none => ⟨w, .error .unknownCreature⟩
  | some c =>
    let w := w.modify id ({ · with species, pc })
    match w.species[species]? with
    | none => ⟨w, .error .unknownSpecies⟩
    | some s => ⟨w, .ok (.changed id c.pos s.colour)⟩

def occupancy (w : World) : List (List (Option Nat)) :=
  w.grid.rows fun o => do return (← w.creatures[← o]?).species

def headings (w : World) : List (List (Option Heading)) :=
  w.grid.rows fun o => do return (← w.creatures[← o]?).heading

end World
end Vivarium
