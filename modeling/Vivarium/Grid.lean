import Vivarium.Heading

/-! A rectangular grid whose cells hold at most one creature number each. -/
namespace Vivarium

structure Grid where
  width : Nat
  height : Nat
  cells : Array (Option Nat)
  size_cells : cells.size = width * height
  deriving DecidableEq, Repr

namespace Grid

def empty (width height : Nat) : Grid :=
  ⟨width, height, .replicate (width * height) none, by simp⟩

def Contains (g : Grid) (p : Pos) : Prop :=
  0 ≤ p.x ∧ p.x < g.width ∧ 0 ≤ p.y ∧ p.y < g.height

instance (g : Grid) (p : Pos) : Decidable (g.Contains p) := by
  unfold Contains; infer_instance

/-- The place of a position in row-major order. -/
def offset (g : Grid) (p : Pos) : Nat := p.y.toNat * g.width + p.x.toNat

/-- The creature number in a cell; outside the grid there is none. -/
def occupant? (g : Grid) (p : Pos) : Option Nat :=
  if g.Contains p then (g.cells[g.offset p]?).join else none

def put (g : Grid) (p : Pos) (o : Option Nat) : Grid :=
  { g with
    cells := g.cells.setIfInBounds (g.offset p) o
    size_cells := by simp [g.size_cells] }

/-- The rows of the grid from north to south, each from west to east, seen through `f`. -/
def rows {α : Type} (g : Grid) (f : Option Nat → α) : List (List α) :=
  (List.range g.height).map fun y : Nat =>
    (List.range g.width).map fun x : Nat => f (g.occupant? ⟨x, y⟩)

theorem offset_lt {g : Grid} {p : Pos} (h : g.Contains p) : g.offset p < g.cells.size := by
  obtain ⟨hx, hx', hy, hy'⟩ := h
  rw [g.size_cells, offset]
  have h₁ : p.x.toNat < g.width := by omega
  have h₂ : p.y.toNat + 1 ≤ g.height := by omega
  calc p.y.toNat * g.width + p.x.toNat
      < p.y.toNat * g.width + g.width := by omega
    _ = (p.y.toNat + 1) * g.width := by rw [Nat.succ_mul]
    _ ≤ g.height * g.width := Nat.mul_le_mul_right _ h₂
    _ = g.width * g.height := Nat.mul_comm _ _

theorem offset_inj {g : Grid} {p q : Pos} (hp : g.Contains p) (hq : g.Contains q)
    (h : g.offset p = g.offset q) : p = q := by
  obtain ⟨hpx, hpx', hpy, hpy'⟩ := hp
  obtain ⟨hqx, hqx', hqy, hqy'⟩ := hq
  have hw : 0 < g.width := by omega
  have hp₁ : p.x.toNat < g.width := by omega
  have hq₁ : q.x.toNat < g.width := by omega
  have hx : p.x.toNat = q.x.toNat := by
    have := congrArg (· % g.width) h
    simpa [offset, Nat.mod_eq_of_lt hp₁, Nat.mod_eq_of_lt hq₁] using this
  have hy : p.y.toNat = q.y.toNat := by
    simp only [offset, hx] at h
    exact Nat.eq_of_mul_eq_mul_right hw (by omega)
  cases p; cases q
  simp only [Pos.mk.injEq] at *
  omega

@[simp] theorem contains_put (g : Grid) (p q : Pos) (o : Option Nat) :
    (g.put p o).Contains q ↔ g.Contains q := Iff.rfl

theorem occupant?_put {g : Grid} {p q : Pos} (o : Option Nat) (hp : g.Contains p) :
    (g.put p o).occupant? q = if p = q then o else g.occupant? q := by
  by_cases hq : g.Contains q
  · simp only [occupant?, contains_put, hq, if_true]
    change ((g.cells.setIfInBounds (g.offset p) o)[g.offset q]?).join = _
    rw [Array.getElem?_setIfInBounds]
    by_cases h : p = q
    · subst h; simp [offset_lt hp]
    · have : g.offset p ≠ g.offset q := fun e => h (offset_inj hp hq e)
      simp [this, h]
  · have h : p ≠ q := fun e => hq (e ▸ hp)
    simp [occupant?, hq, h]

theorem occupant?_of_not_contains {g : Grid} {p : Pos} (h : ¬ g.Contains p) :
    g.occupant? p = none := by
  simp [occupant?, h]

@[simp] theorem occupant?_empty (width height : Nat) (p : Pos) :
    (empty width height).occupant? p = none := by
  simp only [occupant?, empty, Array.getElem?_replicate]
  grind

end Grid
end Vivarium
