import Vivarium.Proofs.Episode
import Vivarium.Proofs.World.Housed

/-! The world turned clockwise by a right angle. What is done to the turned world comes to what is
done to the world itself, turned. -/
namespace Vivarium

/-- Where a position comes to when a grid of the given height is turned. -/
def Pos.rotate (height : Nat) (p : Pos) : Pos := ⟨height - 1 - p.y, p.x⟩

/-- In a grid of three rows, the south-west corner comes to the north-west. -/
example : Pos.rotate 3 ⟨0, 2⟩ = ⟨0, 0⟩ := rfl

namespace Pos

theorem rotate_step (height : Nat) (p : Pos) (d : Heading) :
    (p.step d).rotate height = (p.rotate height).step d.right := by
  cases d <;>
    simp only [rotate, step, Heading.right, Heading.dx, Heading.dy, mk.injEq, and_true] <;> omega

theorem exists_rotate (height : Nat) (q : Pos) : ∃ p : Pos, p.rotate height = q := by
  refine ⟨⟨q.y, height - 1 - q.x⟩, ?_⟩
  cases q
  simp only [rotate, mk.injEq, and_true]
  omega

theorem rotate_inj {height : Nat} {p q : Pos} : p.rotate height = q.rotate height ↔ p = q := by
  cases p
  cases q
  simp only [rotate, mk.injEq]
  omega

end Pos

namespace Grid

/-- The grid turned: its columns, from the south up, are now the rows. -/
def rotate (g : Grid) : Grid where
  width := g.height
  height := g.width
  cells := .ofFn fun k : Fin (g.height * g.width) =>
    g.occupant? ⟨(k / g.height : Nat), g.height - 1 - (k % g.height : Nat)⟩
  size_cells := Array.size_ofFn

@[simp] theorem contains_rotate (g : Grid) (p : Pos) :
    g.rotate.Contains (p.rotate g.height) ↔ g.Contains p := by
  simp only [Contains, rotate, Pos.rotate]
  omega

@[simp] theorem occupant?_rotate (g : Grid) (p : Pos) :
    g.rotate.occupant? (p.rotate g.height) = g.occupant? p := by
  by_cases hp : g.Contains p
  · have hp' := (contains_rotate g p).2 hp
    have hlt := offset_lt hp'
    obtain ⟨hx, hx', hy, hy'⟩ := hp
    have hrow : (g.height - 1 - p.y).toNat < g.height := by omega
    have hoffset : g.rotate.offset (p.rotate g.height) =
        (g.height - 1 - p.y).toNat + g.height * p.x.toNat := by
      simp only [offset, rotate, Pos.rotate]
      rw [Nat.add_comm, Nat.mul_comm]
    have hcell : (⟨(g.rotate.offset (p.rotate g.height) / g.height : Nat),
        g.height - 1 - (g.rotate.offset (p.rotate g.height) % g.height : Nat)⟩ : Pos) = p := by
      rw [hoffset, Nat.add_mul_div_left _ _ (by omega), Nat.div_eq_of_lt hrow,
        Nat.add_mul_mod_self_left, Nat.mod_eq_of_lt hrow]
      cases p
      simp only [Pos.mk.injEq] at *
      omega
    rw [occupant?, if_pos hp', Array.getElem?_eq_getElem hlt, Option.join_some]
    simp only [rotate, Array.getElem_ofFn]
    exact congrArg g.occupant? hcell
  · rw [occupant?_of_not_contains hp,
      occupant?_of_not_contains fun h => hp ((contains_rotate g p).1 h)]

theorem rotate_put {g : Grid} {p : Pos} (hp : g.Contains p) (o : Option Nat) :
    (g.put p o).rotate = g.rotate.put (p.rotate g.height) o := by
  refine eq_of_occupant? rfl rfl fun q => ?_
  obtain ⟨q, rfl⟩ := q.exists_rotate g.height
  have hput : (g.put p o).rotate.occupant? (q.rotate g.height) = (g.put p o).occupant? q :=
    occupant?_rotate (g.put p o) q
  rw [hput, occupant?_put o hp, occupant?_put o ((contains_rotate g p).2 hp), occupant?_rotate]
  simp only [Pos.rotate_inj]

end Grid

def Creature.rotate (height : Nat) (c : Creature) : Creature :=
  { c with pos := c.pos.rotate height, heading := c.heading.right }

theorem Creature.ahead_rotate (height : Nat) (c : Creature) :
    (c.rotate height).ahead = c.ahead.rotate height := (c.pos.rotate_step height c.heading).symm

def Event.rotate (height : Nat) : Event → Event
  | .created id p heading colour => .created id (p.rotate height) heading.right colour
  | .moved id source target => .moved id (source.rotate height) (target.rotate height)
  | .turned id p heading => .turned id (p.rotate height) heading.right
  | .changed id p colour => .changed id (p.rotate height) colour

def Fault.rotate (height : Nat) : Fault → Fault
  | .outOfBounds p => .outOfBounds (p.rotate height)
  | f => f

/-- The world turned; species, creature numbers, and addresses are kept. -/
def World.rotate (w : World) : World where
  grid := w.grid.rotate
  species := w.species
  creatures := w.creatures.map (·.rotate w.grid.height)

def Change.rotate (height : Nat) (c : Change) : Change :=
  ⟨c.world.rotate, match c.result with
    | .ok e => .ok (e.rotate height)
    | .error f => .error (f.rotate height)⟩

namespace World

@[simp] theorem getElem?_rotate (w : World) (id : Nat) :
    w.rotate.creatures[id]? = w.creatures[id]?.map (·.rotate w.grid.height) := by
  simp [rotate]

@[simp] theorem speciesOf?_rotate (w : World) (id : Nat) :
    w.rotate.speciesOf? id = w.speciesOf? id := by
  unfold speciesOf?
  rw [getElem?_rotate]
  cases w.creatures[id]? <;> rfl

@[simp] theorem occupant?_ahead_rotate (w : World) (c : Creature) :
    w.rotate.grid.occupant? (c.rotate w.grid.height).ahead = w.grid.occupant? c.ahead := by
  rw [Creature.ahead_rotate]
  exact w.grid.occupant?_rotate c.ahead

@[simp] theorem contains_ahead_rotate (w : World) (c : Creature) :
    w.rotate.grid.Contains (c.rotate w.grid.height).ahead ↔ w.grid.Contains c.ahead := by
  rw [Creature.ahead_rotate]
  exact w.grid.contains_rotate c.ahead

theorem rotate_modify (w : World) (id : Nat) {f g : Creature → Creature}
    (hfg : ∀ c, (f c).rotate w.grid.height = g (c.rotate w.grid.height)) :
    (w.modify id f).rotate = w.rotate.modify id g := by
  have hcreatures : (w.modify id f).rotate.creatures = (w.rotate.modify id g).creatures := by
    refine List.ext_getElem? fun i => ?_
    rw [getElem?_rotate, getElem?_modify, getElem?_modify, getElem?_rotate, grid_modify]
    split
    · simp only [Option.map_map, Function.comp_def, hfg]
    · rfl
  exact congrArg (World.mk w.grid.rotate w.species) hcreatures

theorem rotate_set (w : World) (p : Pos) (o : Option Nat) :
    w.rotate.set (p.rotate w.grid.height) o =
      match w.set p o with
      | .ok v => .ok v.rotate
      | .error f => .error (f.rotate w.grid.height) := by
  by_cases hp : w.grid.Contains p
  · have hp' : w.rotate.grid.Contains (p.rotate w.grid.height) := (w.grid.contains_rotate p).2 hp
    have hput := Grid.rotate_put hp o
    simp only [set, if_pos hp, if_pos hp']
    exact congrArg (fun g => Except.ok (World.mk g w.rotate.species w.rotate.creatures)) hput.symm
  · have hp' : ¬ w.rotate.grid.Contains (p.rotate w.grid.height) :=
      fun h => hp ((w.grid.contains_rotate p).1 h)
    simp only [set, if_neg hp, if_neg hp']
    rfl

theorem height_of_set {v w : World} {p : Pos} {o : Option Nat} (h : w.set p o = .ok v) :
    v.grid.height = w.grid.height := by
  unfold set at h
  split at h
  · cases h
    rfl
  · cases h

variable (w : World) (id : Nat)

theorem rotate_turn (heading : Heading) :
    w.rotate.turn id heading.right = (w.turn id heading).rotate w.grid.height := by
  have hmodify := w.rotate_modify id (f := ({ · with heading }))
    (g := ({ · with heading := heading.right })) fun _ => rfl
  unfold turn
  rw [getElem?_rotate]
  cases w.creatures[id]? with
  | none => rfl
  | some c => exact congrArg (Change.mk · (.ok (.turned id _ heading.right))) hmodify.symm

theorem rotate_infect (species pc : Nat) :
    w.rotate.infect id species pc = (w.infect id species pc).rotate w.grid.height := by
  have hmodify := w.rotate_modify id (f := ({ · with species, pc }))
    (g := ({ · with species, pc })) fun _ => rfl
  unfold infect
  rw [getElem?_rotate]
  cases w.creatures[id]? with
  | none => rfl
  | some c =>
    simp only [Option.map_some, species_modify]
    have htable : w.rotate.species = w.species := rfl
    rw [htable]
    cases w.species[species]? with
    | none => exact congrArg (Change.mk · (.error .unknownSpecies)) hmodify.symm
    | some s => exact congrArg (Change.mk · (.ok (.changed id _ s.colour))) hmodify.symm

theorem rotate_move (target : Pos) :
    w.rotate.move id (target.rotate w.grid.height) =
      (w.move id target).rotate w.grid.height := by
  unfold move
  rw [getElem?_rotate]
  cases w.creatures[id]? with
  | none => rfl
  | some c =>
    have hleave : w.rotate.set (c.rotate w.grid.height).pos none = _ := w.rotate_set c.pos none
    simp only [Option.map_some, hleave]
    cases hv : w.set c.pos none with
    | error f => rfl
    | ok v =>
      have htake := v.rotate_set target (some id)
      rw [height_of_set hv] at htake
      simp only [htake]
      cases hu : v.set target (some id) with
      | error f => rfl
      | ok u =>
        have hheight := (height_of_set hu).trans (height_of_set hv)
        have hmodify := u.rotate_modify id (f := ({ · with pos := target }))
          (g := ({ · with pos := target.rotate u.grid.height })) fun _ => rfl
        rw [hheight] at hmodify
        exact congrArg (Change.mk · (.ok (.moved id _ _))) hmodify.symm

end World
end Vivarium
