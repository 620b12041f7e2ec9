import Vivarium.Proofs.World.Housed

/-! Worlds that are filled from the beginning with creatures of known species, inside the grid. -/
namespace Vivarium

/-- Newcomers are of a species in the table and come to a cell of the grid, a taken one perhaps. -/
def Act.Placed (w : World) : Act → Prop
  | .spawn species p _ => species < w.species.length ∧ w.grid.Contains p
  | _ => True

namespace World

/-- Nobody has come to the world yet. -/
structure Vacant (w : World) : Prop where
  creatures : w.creatures = []
  occupant? : ∀ p, w.grid.occupant? p = none

theorem vacant_of_create? {width height : Int} {w : World} (h : create? width height = some w) :
    w.Vacant := by
  unfold create? at h
  split at h
  · cases h
  · obtain rfl := Option.some.inj h
    exact ⟨rfl, Grid.occupant?_empty _ _⟩

variable {w : World}

theorem Vacant.truthful (h : w.Vacant) : w.Truthful := by
  intro p id ho
  simp [h.occupant?] at ho

theorem Vacant.housed (h : w.Vacant) : w.Housed := by
  intro id p hp
  simp [pos?, h.creatures] at hp

/-- The species of every creature is in the table. -/
def Known (w : World) : Prop :=
  ∀ (id : Nat) (c : Creature), w.creatures[id]? = some c → c.species < w.species.length

theorem Vacant.known (h : w.Vacant) : w.Known := by
  intro id c hc
  simp [h.creatures] at hc

theorem Known.exists_species (h : w.Known) {id : Nat} {c : Creature}
    (hc : w.creatures[id]? = some c) : ∃ s, w.species[c.species]? = some s :=
  ⟨_, List.getElem?_eq_getElem (h id c hc)⟩

theorem Known.modify (h : w.Known) {id : Nat} {f : Creature → Creature}
    (hf : ∀ c, w.creatures[id]? = some c → (f c).species < w.species.length) :
    (w.modify id f).Known := by
  intro i c hc
  rw [getElem?_modify] at hc
  split at hc
  · next hi =>
    subst hi
    obtain ⟨d, hd, rfl⟩ := Option.map_eq_some_iff.1 hc
    exact hf d hd
  · exact h i c hc

theorem Known.hold (h : w.Known) (me : Nat) (t : Stance) : (w.hold me t).Known :=
  h.modify fun c hc => h me c hc

theorem Known.move (h : w.Known) {id : Nat} {c : Creature} {target : Pos}
    (hc : w.creatures[id]? = some c) (hs : w.grid.Contains c.pos) (ht : w.grid.Contains target) :
    (w.move id target).world.Known := by
  rw [move_eq hc hs ht]
  exact Known.modify (w := { w with grid := (w.grid.put c.pos none).put target (some id) }) h
    fun d hd => h id d hd

theorem Known.infect (h : w.Known) {species : Nat} (hs : species < w.species.length)
    (id pc : Nat) : (w.infect id species pc).world.Known := by
  rw [world_infect]
  exact h.modify fun _ _ => hs

theorem Known.turn (h : w.Known) (chance : Chance) (me : Nat) (budget : Option Int) :
    (Turn.run w chance me budget).world.Known := by
  apply Turn.run_invariant h
  · intro c s t _ _
    exact h.hold me t
  · intro v c s hv ha hfrom hto _
    exact hv.move ha.creature hfrom hto
  · intro v c s other start hv ha _ _
    exact hv.infect (hv me c ha.creature) other start

theorem Known.enrol (h : w.Known) (s : Species) : (w.addSpecies s).1.Known := by
  intro id c hc
  have hlt := h id c hc
  simp only [addSpecies, List.length_append]
  omega

theorem Known.spawn (h : w.Known) {species : Nat} (hs : species < w.species.length) (p : Pos)
    (heading : Heading) : (w.spawn species p heading).world.Known := by
  intro id c hc
  simp only [world_spawn] at hc ⊢
  rw [List.getElem?_append] at hc
  split at hc
  · exact h id c hc
  · obtain rfl := List.mem_singleton.1 (List.mem_of_getElem? hc)
    exact hs

theorem Known.act (h : w.Known) {a : Act} (ha : Act.Placed w a) : (a.after w).Known := by
  cases a with
  | enrol s => exact h.enrol s
  | spawn species p heading => exact h.spawn ha.1 p heading
  | turn me chance budget => exact h.turn chance me budget

end World
end Vivarium
