import Vivarium.Proofs.Program.WellFormed
import Vivarium.Proofs.World.Truthful

/-! Sound worlds: nothing that a turn looks up is missing. Lawful acts lead to sound worlds only. -/
namespace Vivarium

/-- What users of a world keep to: species come from sources, creatures belong to a known species
and start inside the grid, and turns are taken by creatures that exist. -/
def Act.Lawful (w : World) : Act → Prop
  | .enrol s => ∃ source colour, Species.ofSource source colour = .ok s
  | .spawn species p _ => species < w.species.length ∧ w.grid.Contains p
  | .turn me _ _ => me < w.creatures.length

/-- A creature is inside the grid, of a known species, and at an address of its program or just
past the last one. -/
def Creature.Fits (c : Creature) (w : World) : Prop :=
  w.grid.Contains c.pos ∧ ∃ s, w.species[c.species]? = some s ∧ c.pc ≤ s.program.size

namespace World

structure Sound (w : World) : Prop where
  width_pos : 0 < w.grid.width
  height_pos : 0 < w.grid.height
  wellFormed : ∀ s ∈ w.species, s.program.WellFormed
  fits : ∀ (id : Nat) (c : Creature), w.creatures[id]? = some c → c.Fits w
  truthful : w.Truthful

variable {w : World}

theorem Sound.exists_actor (h : w.Sound) {me : Nat} (hme : me < w.creatures.length) :
    ∃ c s, w.Actor me c s ∧ c.pc ≤ s.program.size := by
  have hc := List.getElem?_eq_getElem hme
  obtain ⟨-, s, hs, hpc⟩ := h.fits me _ hc
  exact ⟨_, s, ⟨hc, hs⟩, hpc⟩

theorem Sound.program (h : w.Sound) {me : Nat} {c : Creature} {s : Species}
    (ha : w.Actor me c s) : s.program.WellFormed :=
  h.wellFormed s (List.mem_of_getElem? ha.species)

theorem Sound.modify (h : w.Sound) {g : Grid} {id : Nat} {f : Creature → Creature}
    (hwidth : g.width = w.grid.width) (hheight : g.height = w.grid.height)
    (hf : ∀ c, w.creatures[id]? = some c → (f c).Fits w)
    (ht : ({ w with grid := g }.modify id f).Truthful) :
    ({ w with grid := g }.modify id f).Sound := by
  have hfits (c : Creature) : c.Fits w → c.Fits ({ w with grid := g }.modify id f) := by
    simp [Creature.Fits, Grid.Contains, hwidth, hheight]
  refine ⟨hwidth ▸ h.width_pos, hheight ▸ h.height_pos, h.wellFormed, fun i c hc => ?_, ht⟩
  rw [getElem?_modify] at hc
  split at hc
  · next hi =>
    subst hi
    obtain ⟨d, hd, rfl⟩ := Option.map_eq_some_iff.1 hc
    exact hfits _ (hf d hd)
  · exact hfits _ (h.fits i c hc)

theorem Sound.hold (h : w.Sound) {me : Nat} {c : Creature} {s : Species} (ha : w.Actor me c s)
    {t : Stance} (ht : t.pc ≤ s.program.size) : (w.hold me t).Sound := by
  refine h.modify rfl rfl (fun d hd => ?_) (h.truthful.hold me t)
  obtain rfl := Option.some.inj (ha.creature.symm.trans hd)
  exact ⟨(h.fits me _ hd).1, s, ha.species, ht⟩

theorem Sound.move (h : w.Sound) {me : Nat} {c : Creature} {target : Pos}
    (hc : w.creatures[me]? = some c) (ht : w.grid.Contains target) :
    (w.move me target).world.Sound := by
  have hfrom := (h.fits me c hc).1
  have htruth := h.truthful.move hc hfrom ht
  rw [move_eq hc hfrom ht] at htruth ⊢
  refine h.modify rfl rfl (fun d hd => ?_) htruth
  obtain ⟨-, s, hs, hpc⟩ := h.fits me d hd
  exact ⟨ht, s, hs, hpc⟩

theorem Sound.infect (h : w.Sound) {other species start : Nat} {s : Species}
    (hs : w.species[species]? = some s) (hstart : start ≤ s.program.size) :
    (w.infect other species start).world.Sound := by
  have htruth := h.truthful.infect other species start
  rw [world_infect] at htruth ⊢
  exact h.modify rfl rfl (fun d hd => ⟨(h.fits other d hd).1, s, hs, hstart⟩) htruth

theorem Sound.turn (h : w.Sound) (chance : Chance) (me : Nat) (budget : Option Int) :
    (Turn.run w chance me budget).world.Sound := by
  apply Turn.run_invariant h
  · intro c s t ha ht
    exact h.hold ha ht
  · intro v c s hv ha _ hto _
    exact hv.move ha.creature hto
  · intro v c s other start hv ha _ hstart
    exact hv.infect ha.species hstart

theorem Sound.spawn (h : w.Sound) {species : Nat} {p : Pos} (heading : Heading)
    (hs : species < w.species.length) (hp : w.grid.Contains p) :
    (w.spawn species p heading).world.Sound := by
  have htruth := h.truthful.spawn species p heading
  rw [world_spawn, if_pos hp] at htruth ⊢
  refine ⟨h.width_pos, h.height_pos, h.wellFormed, fun i c hc => ?_, htruth⟩
  rw [List.getElem?_append] at hc
  split at hc
  · exact h.fits i c hc
  · obtain rfl := List.mem_singleton.1 (List.mem_of_getElem? hc)
    exact ⟨hp, w.species[species], by simp [hs], Nat.zero_le _⟩

theorem Sound.enrol (h : w.Sound) {s : Species} (hs : s.program.WellFormed) :
    (w.addSpecies s).1.Sound := by
  refine ⟨h.width_pos, h.height_pos, fun t ht => ?_, fun id c hc => ?_, h.truthful⟩
  · rcases List.mem_append.1 ht with ht | ht
    · exact h.wellFormed t ht
    · obtain rfl := List.mem_singleton.1 ht
      exact hs
  · obtain ⟨hin, t, ht, hpc⟩ := h.fits id c hc
    have hlt := (List.getElem?_eq_some_iff.1 ht).1
    exact ⟨hin, t, by simpa [addSpecies, List.getElem?_append_left hlt] using ht, hpc⟩

theorem Sound.act (h : w.Sound) {a : Act} (ha : Act.Lawful w a) : (a.after w).Sound := by
  cases a with
  | enrol s =>
    obtain ⟨source, colour, hs⟩ := ha
    exact h.enrol (Species.ofSource_wellFormed hs)
  | spawn species p heading => exact h.spawn heading ha.1 ha.2
  | turn me chance budget => exact h.turn chance me budget

theorem sound_of_reachable (h : w.Reachable Act.Lawful) : w.Sound := by
  refine h.invariant (fun width height hw hh => ?_) fun v a hv ha => hv.act ha
  exact ⟨hw, hh, by simp, by simp, fun p id ho => by simp at ho⟩

end World
end Vivarium
