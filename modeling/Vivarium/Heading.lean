/-! Compass headings and grid positions. The vertical coordinate grows southwards. -/
namespace Vivarium

inductive Heading
  | north | east | south | west
  deriving DecidableEq, Repr, Inhabited

namespace Heading

def all : List Heading := [.north, .east, .south, .west]

def right : Heading → Heading
  | .north => .east
  | .east => .south
  | .south => .west
  | .west => .north

def left : Heading → Heading
  | .north => .west
  | .east => .north
  | .south => .east
  | .west => .south

def dx : Heading → Int
  | .north => 0
  | .east => 1
  | .south => 0
  | .west => -1

def dy : Heading → Int
  | .north => -1
  | .east => 0
  | .south => 1
  | .west => 0

def index : Heading → Nat
  | .north => 0
  | .east => 1
  | .south => 2
  | .west => 3

@[simp] theorem left_right (d : Heading) : d.right.left = d := by cases d <;> rfl

@[simp] theorem right_left (d : Heading) : d.left.right = d := by cases d <;> rfl

end Heading

structure Pos where
  x : Int
  y : Int
  deriving DecidableEq, Repr, Inhabited

namespace Pos

def step (p : Pos) (d : Heading) : Pos := ⟨p.x + d.dx, p.y + d.dy⟩

/-- Written `(x, y)`. -/
def text (p : Pos) : String := s!"({p.x}, {p.y})"

theorem step_ne (p : Pos) (d : Heading) : p.step d ≠ p := by
  intro h
  have hx := congrArg Pos.x h
  have hy := congrArg Pos.y h
  cases d <;> simp only [step, Heading.dx, Heading.dy] at hx hy <;> omega

end Pos
end Vivarium
