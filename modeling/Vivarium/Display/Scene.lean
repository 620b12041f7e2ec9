import Vivarium.Keyed
import Vivarium.World

/-! What a display knows of the world: a colour and a heading per cell, learnt from events alone. -/
namespace Vivarium

structure Mark where
  colour : Colour
  heading : Heading
  deriving DecidableEq, Repr

/-- The marked cells, those marked first in front. -/
abbrev Scene := List (Pos × Mark)

namespace Scene

/-- The colour of a creature of which only its heading was ever told. -/
def unknownColour : Colour := ⟨180, 180, 180⟩

def mark? (s : Scene) (p : Pos) : Option Mark := Keyed.get? p s

/-- The scene after an event. A creature that moves takes its mark along. -/
def apply (s : Scene) : Event → Scene
  | .created _ pos heading colour => Keyed.put pos ⟨colour, heading⟩ s
  | .moved _ source target =>
    match s.mark? source with
    | none => s
    | some mark => Keyed.put target mark (Keyed.erase source s)
  | .turned _ pos heading =>
    let colour := ((s.mark? pos).map (·.colour)).getD unknownColour
    Keyed.put pos ⟨colour, heading⟩ s
  | .changed _ pos colour =>
    let heading := ((s.mark? pos).map (·.heading)).getD .north
    Keyed.put pos ⟨colour, heading⟩ s

def applyAll (s : Scene) (events : List Event) : Scene := events.foldl apply s

def cells (s : Scene) : List Pos := Keyed.keys s

variable {s : Scene} {p : Pos}

theorem mem_cells : p ∈ s.cells ↔ (s.mark? p).isSome := Keyed.mem_keys

@[simp] theorem applyAll_nil (s : Scene) : s.applyAll [] = s := rfl

@[simp] theorem applyAll_cons (s : Scene) (e : Event) (es : List Event) :
    s.applyAll (e :: es) = (s.apply e).applyAll es := rfl

@[simp] theorem applyAll_append (s : Scene) (es fs : List Event) :
    s.applyAll (es ++ fs) = (s.applyAll es).applyAll fs := List.foldl_append

theorem mark?_created (s : Scene) (id : Nat) (p : Pos) (heading : Heading) (colour : Colour)
    (q : Pos) : (s.apply (.created id p heading colour)).mark? q =
      if p = q then some ⟨colour, heading⟩ else s.mark? q := Keyed.get?_put ..

theorem mark?_moved {m : Mark} (h : s.mark? p = some m) (id : Nat) (target q : Pos) :
    (s.apply (.moved id p target)).mark? q =
      if target = q then some m else if p = q then none else s.mark? q := by
  simp only [apply, h]
  rw [mark?, Keyed.get?_put, Keyed.get?_erase, mark?]

/-- Whoever moves out of a cell without a mark has none to take along. -/
theorem apply_moved_of_none (h : s.mark? p = none) (id : Nat) (target : Pos) :
    s.apply (.moved id p target) = s := by
  simp only [apply, h]

theorem mark?_turned (s : Scene) (id : Nat) (p : Pos) (heading : Heading) (q : Pos) :
    (s.apply (.turned id p heading)).mark? q =
      if p = q then some ⟨((s.mark? p).map (·.colour)).getD unknownColour, heading⟩
      else s.mark? q := Keyed.get?_put ..

theorem mark?_changed (s : Scene) (id : Nat) (p : Pos) (colour : Colour) (q : Pos) :
    (s.apply (.changed id p colour)).mark? q =
      if p = q then some ⟨colour, ((s.mark? p).map (·.heading)).getD .north⟩
      else s.mark? q := Keyed.get?_put ..

theorem nodup_cells_apply (h : s.cells.Nodup) (e : Event) : (s.apply e).cells.Nodup := by
  cases e with
  | moved id source target =>
    simp only [apply]
    split
    · exact h
    · exact Keyed.nodup_put (Keyed.nodup_erase h source) _
  | _ => exact Keyed.nodup_put h _

theorem nodup_cells_applyAll (h : s.cells.Nodup) (es : List Event) :
    (s.applyAll es).cells.Nodup := by
  induction es generalizing s with
  | nil => exact h
  | cons e es ih => exact ih (nodup_cells_apply h e)

end Scene
end Vivarium
