import Vivarium.Heading

/-! Where things are drawn: a strip for the status lines, and below it one square per cell. -/
namespace Vivarium

structure Box where
  x : Int
  y : Int
  width : Int
  height : Int
  deriving DecidableEq, Repr

namespace Box

/-- The box with a margin of `n` on every side taken away. -/
def shrink (b : Box) (n : Int) : Box := ⟨b.x + n, b.y + n, b.width - 2 * n, b.height - 2 * n⟩

def centre (b : Box) : Pos := ⟨b.x + b.width / 2, b.y + b.height / 2⟩

/-- A number as the screen holds it, in 32 bits with a sign. -/
def held (n : Int) : Int := n.bmod 0x100000000

/-- A number that 64 bits with a sign can hold. -/
def isShort (n : Int) : Bool := -0x8000000000000000 ≤ n && n < 0x8000000000000000

def onScreen (b : Box) : Box := ⟨held b.x, held b.y, held b.width, held b.height⟩

/-- The box as the screen holds it; the screen refuses longer numbers. -/
def onScreen? (b : Box) : Option Box :=
  if [b.x, b.y, b.width, b.height].all isShort then some b.onScreen else none

def screenCentre (b : Box) : Pos := ⟨held b.centre.x, held b.centre.y⟩

/-- The box holds a point; its right and lower edges are outside. -/
def Holds (b : Box) (p : Pos) : Prop :=
  b.x ≤ p.x ∧ p.x < b.x + b.width ∧ b.y ≤ p.y ∧ p.y < b.y + b.height

end Box

structure Layout where
  columns : Int
  rows : Int
  side : Int
  deriving DecidableEq, Repr

namespace Layout

def statusHeight : Int := 48

def statusLines : List Pos := [⟨12, 8⟩, ⟨12, 26⟩]

def width (l : Layout) : Int := l.columns * l.side

def height (l : Layout) : Int := statusHeight + l.rows * l.side

/-- The part of the window below the status lines. -/
def frameBox (l : Layout) : Box := ⟨0, statusHeight, l.width, l.height - statusHeight⟩

def cellBox (l : Layout) (p : Pos) : Box :=
  ⟨p.x * l.side, statusHeight + p.y * l.side, l.side, l.side⟩

/-- How far the body of a creature keeps from the edges of its cell. -/
def margin : Int := 2

def bodyBox (l : Layout) (p : Pos) : Box := (l.cellBox p).shrink margin

/-- Where the tick in a body with this centre ends: half its width away, on the side that is
faced. -/
def tickEnd (b : Box) (centre : Pos) (d : Heading) : Pos :=
  ⟨centre.x + d.dx * (b.width / 2), centre.y + d.dy * (b.width / 2)⟩

end Layout
end Vivarium
