import Mathlib.Data.List.Basic
import Vivarium.Display.Drawing

/-! The window is tiled by the cells: below the status lines each pixel is in the box of one cell. What
is drawn for a creature stays inside the box of its own cell. -/
namespace Vivarium

namespace Box

/-- The box reaches nowhere beyond the edges of another one; it may be as thin as a line. -/
structure Within (inner outer : Box) : Prop where
  left : outer.x ≤ inner.x
  right : inner.x + inner.width ≤ outer.x + outer.width
  top : outer.y ≤ inner.y
  bottom : inner.y + inner.height ≤ outer.y + outer.height
  proper : 0 ≤ inner.width ∧ 0 ≤ inner.height

/-- The box begins at or after the origin, and no edge of it is beyond the numbers that the screen
holds. -/
structure Fits (b : Box) : Prop where
  left : 0 ≤ b.x
  right : b.x + b.width < 0x80000000
  top : 0 ≤ b.y
  bottom : b.y + b.height < 0x80000000
  proper : 0 ≤ b.width ∧ 0 ≤ b.height

theorem held_eq {n : Int} (hlow : 0 ≤ n) (hhigh : n < 0x80000000) : held n = n := by
  have hlow' : -((0x100000000 : Nat) : Int) ≤ n * 2 := by omega
  have hhigh' : n * 2 < ((0x100000000 : Nat) : Int) := by omega
  exact Int.bmod_eq_of_le_mul_two hlow' hhigh'

variable {b outer : Box}

theorem Within.trans {inner : Box} (h : inner.Within b) (h' : b.Within outer) :
    inner.Within outer where
  left := Int.le_trans h'.left h.left
  right := Int.le_trans h.right h'.right
  top := Int.le_trans h'.top h.top
  bottom := Int.le_trans h.bottom h'.bottom
  proper := h.proper

theorem Within.fits (h : b.Within outer) (ho : outer.Fits) : b.Fits where
  left := Int.le_trans ho.left h.left
  right := Int.lt_of_le_of_lt h.right ho.right
  top := Int.le_trans ho.top h.top
  bottom := Int.lt_of_le_of_lt h.bottom ho.bottom
  proper := h.proper

namespace Fits

variable (h : b.Fits)
include h

theorem onScreen : b.onScreen = b := by
  obtain ⟨hleft, hright, htop, hbottom, hwidth, hheight⟩ := h
  rw [Box.onScreen, held_eq hleft (by omega), held_eq htop (by omega), held_eq hwidth (by omega),
    held_eq hheight (by omega)]

theorem onScreen? : b.onScreen? = some b := by
  obtain ⟨hleft, hright, htop, hbottom, hwidth, hheight⟩ := h
  have hshort : [b.x, b.y, b.width, b.height].all isShort = true := by
    simp only [List.all_cons, List.all_nil, isShort, Bool.and_eq_true, decide_eq_true_eq, and_true]
    omega
  rw [Box.onScreen?, if_pos hshort, onScreen ⟨hleft, hright, htop, hbottom, hwidth, hheight⟩]

theorem screenCentre : b.screenCentre = b.centre := by
  obtain ⟨hleft, hright, htop, hbottom, hwidth, hheight⟩ := h
  have hx : held b.centre.x = b.centre.x :=
    held_eq (by simp only [Box.centre]; omega) (by simp only [Box.centre]; omega)
  have hy : held b.centre.y = b.centre.y :=
    held_eq (by simp only [Box.centre]; omega) (by simp only [Box.centre]; omega)
  rw [Box.screenCentre, hx, hy]

end Fits

end Box

/-- A stroke leaves no mark outside a box: a line begins and ends in it, a box reaches nowhere beyond
its edges. -/
def Stroke.Inside (outer : Box) : Stroke → Prop
  | .line _ source target _ => outer.Holds source ∧ outer.Holds target
  | .box _ inner _ _ => inner.Within outer

namespace Layout

variable {l : Layout} {p q : Pos}

/-- The position is one of the cells that are laid out. -/
def Contains (l : Layout) (p : Pos) : Prop := 0 ≤ p.x ∧ p.x < l.columns ∧ 0 ≤ p.y ∧ p.y < l.rows

instance (l : Layout) (p : Pos) : Decidable (l.Contains p) := by
  unfold Contains; infer_instance

/-- The pixel is in the window, below the status lines. -/
def Shows (l : Layout) (q : Pos) : Prop :=
  0 ≤ q.x ∧ q.x < l.width ∧ statusHeight ≤ q.y ∧ q.y < l.height

def cellAt (l : Layout) (q : Pos) : Pos := ⟨q.x / l.side, (q.y - statusHeight) / l.side⟩

section Tiles

variable (hside : 1 ≤ l.side)
include hside

/-- A pixel is in the box of one position only. -/
theorem cellBox_holds_iff : (l.cellBox p).Holds q ↔ l.cellAt q = p := by
  have hpos : 0 < l.side := by omega
  have hx : q.x / l.side = p.x ↔ p.x * l.side ≤ q.x ∧ q.x < p.x * l.side + l.side :=
    Int.ediv_eq_iff_of_pos hpos
  have hy : (q.y - statusHeight) / l.side = p.y ↔
      p.y * l.side ≤ q.y - statusHeight ∧ q.y - statusHeight < p.y * l.side + l.side :=
    Int.ediv_eq_iff_of_pos hpos
  have hcell : l.cellAt q = p ↔ q.x / l.side = p.x ∧ (q.y - statusHeight) / l.side = p.y := by
    obtain ⟨x, y⟩ := p
    rw [cellAt, Pos.mk.injEq]
  rw [hcell, hx, hy]
  simp only [Box.Holds, cellBox]
  omega

theorem contains_cellAt_iff : l.Contains (l.cellAt q) ↔ l.Shows q := by
  have hpos : 0 < l.side := by omega
  simp only [Contains, Shows, cellAt, width, height, Int.ediv_nonneg_iff_of_pos hpos,
    Int.ediv_lt_iff_lt_mul hpos]
  omega

/-- Together the boxes of the cells are the part of the window below the status lines. -/
theorem shows_iff : l.Shows q ↔ ∃ p, l.Contains p ∧ (l.cellBox p).Holds q := by
  simp only [cellBox_holds_iff hside, exists_eq_right', contains_cellAt_iff hside]

theorem cellBox_within (hp : l.Contains p) : (l.cellBox p).Within l.frameBox := by
  obtain ⟨hx, hx', hy, hy'⟩ := hp
  have hcolumns : (p.x + 1) * l.side ≤ l.columns * l.side :=
    Int.mul_le_mul_of_nonneg_right hx' (by omega)
  have hrows : (p.y + 1) * l.side ≤ l.rows * l.side :=
    Int.mul_le_mul_of_nonneg_right hy' (by omega)
  have hleft : 0 ≤ p.x * l.side := Int.mul_nonneg hx (by omega)
  have htop : 0 ≤ p.y * l.side := Int.mul_nonneg hy (by omega)
  rw [Int.add_mul, Int.one_mul] at hcolumns hrows
  constructor <;> simp only [cellBox, frameBox, width, height] <;> omega

end Tiles

def strokes (l : Layout) (p : Pos) (m : Mark) : List Stroke :=
  let body := l.bodyBox p
  [.box m.colour body 0 (max 2 (body.width / 4)),
    .line Drawing.tickColour body.centre (tickEnd body body.centre m.heading) 2]

section Body

variable (hside : 4 ≤ l.side)
include hside

theorem bodyBox_within (p : Pos) : (l.bodyBox p).Within (l.cellBox p) := by
  constructor <;> simp only [bodyBox, Box.shrink, cellBox, margin] <;> omega

theorem holds_centre (p : Pos) : (l.cellBox p).Holds (l.bodyBox p).centre := by
  simp only [Box.Holds, Box.centre, bodyBox, Box.shrink, cellBox, margin]
  omega

/-- Half of the width, rounded down, leads from the middle at most to an edge of the body. -/
theorem holds_tickEnd (p : Pos) (d : Heading) :
    (l.cellBox p).Holds (tickEnd (l.bodyBox p) (l.bodyBox p).centre d) := by
  cases d <;>
    simp only [Box.Holds, tickEnd, Heading.dx, Heading.dy, Box.centre, bodyBox, Box.shrink, cellBox,
      margin] <;>
    omega

theorem inside_strokes (p : Pos) (m : Mark) : ∀ s ∈ l.strokes p m, s.Inside (l.cellBox p) := by
  intro s hs
  simp only [strokes, List.mem_cons, List.not_mem_nil, or_false] at hs
  rcases hs with rfl | rfl
  · exact bodyBox_within hside p
  · exact ⟨holds_centre hside p, holds_tickEnd hside p m.heading⟩

end Body

section Fits

variable (hside : 4 ≤ l.side) (hfits : l.frameBox.Fits)
include hside hfits

theorem creature_eq (hp : l.Contains p) (m : Mark) :
    Drawing.creature l p m = some (l.strokes p m) := by
  have hcell := cellBox_within (by omega : 1 ≤ l.side) hp
  have hbody := ((bodyBox_within hside p).trans hcell).fits hfits
  have hshrink : (l.cellBox p).shrink margin = l.bodyBox p := rfl
  simp only [Drawing.creature, (hcell.fits hfits).onScreen?, Option.map_some, hshrink,
    hbody.onScreen, hbody.screenCentre, strokes]

theorem scene_eq {s : Scene} (hs : ∀ p ∈ s.cells, l.Contains p) :
    Drawing.scene l s = some (Drawing.lines l ++ [.box Drawing.borderColour l.frameBox 2 (-1)] ++
      s.flatMap fun (p, m) => l.strokes p m) := by
  have hbodies : s.mapM (fun (p, m) => Drawing.creature l p m) =
      some (s.map fun (p, m) => l.strokes p m) := by
    induction s with
    | nil => rfl
    | cons e s ih =>
      obtain ⟨hp, hs⟩ := List.forall_mem_cons.1 hs
      simp [List.mapM_cons, creature_eq hside hfits hp, ih hs]
  rw [Drawing.scene, hbodies]
  simp [Drawing.grid, hfits.onScreen?, List.flatMap]

end Fits

/-- The boxes of distinct cells have no pixel in common, and together they are the window below the
status lines. In cells of four pixels and more, the body of a creature reaches nowhere beyond its cell
and its tick begins and ends there, whatever its heading; and these are the strokes that show a scene,
after the lines of the grid, where no number is too long for the screen. -/
theorem cells_tile_window (l : Layout) :
    (1 ≤ l.side →
      (∀ p q, l.Contains p → l.Contains q → p ≠ q →
        ∀ r, ¬ ((l.cellBox p).Holds r ∧ (l.cellBox q).Holds r)) ∧
      ∀ r, (0 ≤ r.x ∧ r.x < l.width ∧ statusHeight ≤ r.y ∧ r.y < l.height) ↔
        ∃ p, l.Contains p ∧ (l.cellBox p).Holds r) ∧
    (4 ≤ l.side →
      (∀ p m, l.Contains p → ∀ s ∈ l.strokes p m, s.Inside (l.cellBox p)) ∧
      (l.frameBox.Fits → ∀ s : Scene, (∀ p ∈ s.cells, l.Contains p) →
        Drawing.scene l s = some (Drawing.lines l ++
          [.box Drawing.borderColour l.frameBox 2 (-1)] ++
            s.flatMap fun (p, m) => l.strokes p m))) := by
  refine ⟨fun hside => ⟨fun p q _ _ hne r ⟨hp, hq⟩ => ?_, fun r => shows_iff hside⟩, fun hside =>
    ⟨fun p m _ => inside_strokes hside p m, fun hfits s hs => scene_eq hside hfits hs⟩⟩
  have hcell : l.cellAt r = p := (cellBox_holds_iff hside).1 hp
  have hcell' : l.cellAt r = q := (cellBox_holds_iff hside).1 hq
  exact hne (hcell.symm.trans hcell')

theorem cells_tile_window_corner :
    let l : Layout := ⟨3, 2, 7⟩
    let corner : Pos := ⟨2, 1⟩
    let m : Mark := ⟨⟨200, 0, 0⟩, .east⟩
    1 ≤ l.side ∧ 4 ≤ l.side ∧ l.Contains corner ∧ l.Contains ⟨1, 1⟩ ∧ l.frameBox.Fits ∧
      ¬ ((l.cellBox ⟨1, 1⟩).Holds ⟨14, 55⟩ ∧ (l.cellBox corner).Holds ⟨14, 55⟩) ∧
      (∃ p, l.Contains p ∧ (l.cellBox p).Holds ⟨20, 61⟩) ∧
      (∀ s ∈ l.strokes corner m, s.Inside ⟨14, 55, 7, 7⟩) ∧
      Drawing.scene l [(corner, m)] = some (Drawing.lines l ++
        [.box Drawing.borderColour ⟨0, 48, 21, 14⟩ 2 (-1)] ++
          [.box m.colour ⟨16, 57, 3, 3⟩ 0 2, .line Drawing.tickColour ⟨17, 58⟩ ⟨18, 58⟩ 2]) := by
  intro l corner m
  have hside : 4 ≤ l.side := by decide
  have hcorner : l.Contains corner := by decide
  have hnext : l.Contains ⟨1, 1⟩ := by decide
  have hfits : l.frameBox.Fits := by constructor <;> decide
  have hcells : ∀ p ∈ Scene.cells [(corner, m)], l.Contains p :=
    List.forall_mem_singleton.2 hcorner
  obtain ⟨htiles, hdrawn⟩ := cells_tile_window l
  obtain ⟨hdisjoint, hcover⟩ := htiles (by decide)
  obtain ⟨hinside, hscene⟩ := hdrawn hside
  exact ⟨by decide, hside, hcorner, hnext, hfits, hdisjoint _ _ hnext hcorner (by decide) _,
    (hcover _).1 (by decide), hinside _ _ hcorner, hscene hfits _ hcells⟩

end Layout
end Vivarium
