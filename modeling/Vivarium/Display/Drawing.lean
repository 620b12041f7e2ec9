import Vivarium.Display.Layout
import Vivarium.Display.Scene

/-! The strokes that show a scene, and the two status lines above it. -/
namespace Vivarium

inductive Stroke
  | line (colour : Colour) (source target : Pos) (width : Int)
  /-- Filled if the width is 0; the corners are round if the radius is not negative. -/
  | box (colour : Colour) (box : Box) (width radius : Int)
  deriving DecidableEq, Repr

namespace Drawing

def gridColour : Colour := ⟨35, 40, 48⟩
def borderColour : Colour := ⟨70, 75, 85⟩
def tickColour : Colour := ⟨240, 240, 240⟩

def upTo (n : Int) : List Int := (List.range (n + 1).toNat).map Int.ofNat

def lines (l : Layout) : List Stroke :=
  let top := Layout.statusHeight
  let vertical := (upTo l.columns).map fun k =>
    Stroke.line gridColour ⟨k * l.side, top⟩ ⟨k * l.side, l.height⟩ 1
  let horizontal := (upTo l.rows).map fun k =>
    let y := top + k * l.side
    Stroke.line gridColour ⟨0, y⟩ ⟨l.width, y⟩ 1
  vertical ++ horizontal

def grid (l : Layout) : Option (List Stroke) :=
  l.frameBox.onScreen?.map fun frame => lines l ++ [.box borderColour frame 2 (-1)]

/-- A body with a tick towards the edge that the creature faces. -/
def creature (l : Layout) (p : Pos) (m : Mark) : Option (List Stroke) :=
  (l.cellBox p).onScreen?.map fun cell =>
    let body := (cell.shrink Layout.margin).onScreen
    let centre := body.screenCentre
    [.box m.colour body 0 (max 2 (body.width / 4)),
      .line tickColour centre (Layout.tickEnd body centre m.heading) 2]

/-- What is said of a box that the screen refuses. -/
def refusal : String := "Argument must be rect style object"

def scene (l : Layout) (s : Scene) : Option (List Stroke) := do
  let bodies ← s.mapM fun (p, m) => creature l p m
  return (← grid l) ++ bodies.flatten

end Drawing

namespace Status

def roundLine (round turnsPerFrame : Int) (paused recording : Bool) : String :=
  s!"Round {round}  turns/frame={turnsPerFrame}" ++
    (if paused then "  [PAUSED]" else "") ++ (if recording then "  [REC]" else "")

def censusLine (census : List (String × Nat)) : String :=
  "  ".intercalate (census.map fun (label, n) => s!"{label}:{n}")

end Status
end Vivarium
