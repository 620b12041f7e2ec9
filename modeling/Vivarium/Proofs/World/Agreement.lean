import Vivarium.Proofs.World.Housed

/-! Worlds that agree on a part of the plane: the cells there show the same, and the same creatures
are there. -/
namespace Vivarium

namespace Pos

/-- The least number of steps from one position to another. -/
def distance (p q : Pos) : Nat := (p.x - q.x).natAbs + (p.y - q.y).natAbs

@[simp] theorem distance_self (p : Pos) : p.distance p = 0 := by simp [distance]

theorem distance_comm (p q : Pos) : p.distance q = q.distance p := by
  unfold distance
  omega

theorem distance_triangle (p q r : Pos) : p.distance r ≤ p.distance q + q.distance r := by
  unfold distance
  omega

@[simp] theorem distance_step (p : Pos) (d : Heading) : p.distance (p.step d) = 1 := by
  cases d <;> simp only [distance, step, Heading.dx, Heading.dy] <;> omega

end Pos

namespace World

structure AgreeOn (S : Pos → Prop) (v w : World) : Prop where
  species : v.species = w.species
  width : v.grid.width = w.grid.width
  height : v.grid.height = w.grid.height
  cells : ∀ p, S p → v.grid.occupant? p = w.grid.occupant? p
  creatures : ∀ (id : Nat) (c : Creature), S c.pos →
    (v.creatures[id]? = some c ↔ w.creatures[id]? = some c)

namespace AgreeOn

variable {S T : Pos → Prop} {u v w : World}

theorem refl (S : Pos → Prop) (w : World) : AgreeOn S w w :=
  ⟨rfl, rfl, rfl, fun _ _ => rfl, fun _ _ _ => Iff.rfl⟩

theorem symm (h : AgreeOn S v w) : AgreeOn S w v where
  species := h.species.symm
  width := h.width.symm
  height := h.height.symm
  cells := fun p hp => (h.cells p hp).symm
  creatures := fun id c hc => (h.creatures id c hc).symm

theorem trans (h : AgreeOn S u v) (h' : AgreeOn S v w) : AgreeOn S u w where
  species := h.species.trans h'.species
  width := h.width.trans h'.width
  height := h.height.trans h'.height
  cells := fun p hp => (h.cells p hp).trans (h'.cells p hp)
  creatures := fun id c hc => (h.creatures id c hc).trans (h'.creatures id c hc)

theorem mono (hST : ∀ p, S p → T p) (h : AgreeOn T v w) : AgreeOn S v w where
  species := h.species
  width := h.width
  height := h.height
  cells := fun p hp => h.cells p (hST p hp)
  creatures := fun id c hc => h.creatures id c (hST _ hc)

theorem of_split (T : Pos → Prop) (h : AgreeOn (fun p => S p ∧ T p) v w)
    (h' : AgreeOn (fun p => S p ∧ ¬ T p) v w) : AgreeOn S v w := by
  refine ⟨h.species, h.width, h.height, fun p hp => ?_, fun id c hc => ?_⟩
  · by_cases hT : T p
    · exact h.cells p ⟨hp, hT⟩
    · exact h'.cells p ⟨hp, hT⟩
  · by_cases hT : T c.pos
    · exact h.creatures id c ⟨hc, hT⟩
    · exact h'.creatures id c ⟨hc, hT⟩

/-- Worlds that agree everywhere are the same. -/
theorem eq (h : AgreeOn (fun _ => True) v w) : v = w := by
  have hgrid : v.grid = w.grid :=
    Grid.eq_of_occupant? h.width h.height fun p => h.cells p trivial
  have hcreatures : v.creatures = w.creatures :=
    List.ext_getElem? fun id => Option.ext fun c => h.creatures id c trivial
  obtain ⟨g, s, cs⟩ := v
  obtain rfl : g = w.grid := hgrid
  obtain rfl : s = w.species := h.species
  obtain rfl : cs = w.creatures := hcreatures
  rfl

theorem contains (h : AgreeOn S v w) (p : Pos) : v.grid.Contains p ↔ w.grid.Contains p := by
  simp only [Grid.Contains, h.width, h.height]

theorem modify (h : AgreeOn S v w) {f : Creature → Creature} (hf : ∀ c, (f c).pos = c.pos)
    (id : Nat) : AgreeOn S (v.modify id f) (w.modify id f) := by
  refine ⟨h.species, h.width, h.height, h.cells, fun i c hc => ?_⟩
  simp only [getElem?_modify]
  split
  · simp only [Option.map_eq_some_iff]
    refine exists_congr fun d => and_congr_left fun hd => h.creatures i d ?_
    rwa [← hf d, hd]
  · exact h.creatures i c hc

theorem move (h : AgreeOn S v w) {id : Nat} {c : Creature} {target : Pos}
    (hv : v.creatures[id]? = some c) (hw : w.creatures[id]? = some c)
    (hfrom : v.grid.Contains c.pos) (hto : v.grid.Contains target) :
    AgreeOn S (v.move id target).world (w.move id target).world := by
  have hfrom' := (h.contains c.pos).1 hfrom
  have hto' := (h.contains target).1 hto
  have hcells (p : Pos) (hp : S p) : (v.move id target).world.grid.occupant? p =
      (w.move id target).world.grid.occupant? p := by
    rw [occupant?_move hv hfrom hto, occupant?_move hw hfrom' hto', h.cells p hp]
  rw [move_eq hv hfrom hto, move_eq hw hfrom' hto'] at hcells ⊢
  refine ⟨h.species, h.width, h.height, hcells, fun i d hd => ?_⟩
  simp only [getElem?_modify]
  split
  · next hi =>
    subst hi
    simp [hv, hw]
  · exact h.creatures i d hd

/-- What happens to a creature outside a part does not matter there. -/
theorem modify_outside {id : Nat} {c : Creature} {f : Creature → Creature}
    (hc : w.creatures[id]? = some c) (hout : ¬ S c.pos) (hout' : ¬ S (f c).pos) :
    AgreeOn S (w.modify id f) w := by
  refine ⟨rfl, rfl, rfl, fun _ _ => rfl, fun i d hd => ?_⟩
  rw [getElem?_modify]
  split
  · next hi =>
    subst hi
    have hne : c ≠ d := fun h => hout (h ▸ hd)
    have hne' : f c ≠ d := fun h => hout' (h ▸ hd)
    simp [hc, hne, hne']
  · exact Iff.rfl

theorem move_outside {id : Nat} {c : Creature} {target : Pos} (hc : w.creatures[id]? = some c)
    (hfrom : w.grid.Contains c.pos) (hto : w.grid.Contains target) (hout : ¬ S c.pos)
    (hout' : ¬ S target) : AgreeOn S (w.move id target).world w := by
  have hcells (p : Pos) (hp : S p) : (w.move id target).world.grid.occupant? p =
      w.grid.occupant? p := by
    have htarget : target ≠ p := fun h => hout' (h ▸ hp)
    have hpos : c.pos ≠ p := fun h => hout (h ▸ hp)
    rw [occupant?_move hc hfrom hto, if_neg htarget, if_neg hpos]
  rw [move_eq hc hfrom hto] at hcells ⊢
  have hmodify := modify_outside (S := S) (f := ({ · with pos := target })) hc hout hout'
  exact ⟨rfl, rfl, rfl, hcells, hmodify.creatures⟩

end AgreeOn
end World
end Vivarium
