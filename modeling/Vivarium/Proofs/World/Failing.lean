import Vivarium.Proofs.World.Housed
import Vivarium.Proofs.World.Sound

/-!
Changes that fail. Nothing is told of them, but what they have done by then stays: a newcomer that
could not be placed is in the roster, and a creature that could not move is no longer in its cell.
-/
namespace Vivarium

theorem Change.events_of_error {c : Change} {f : Fault} (h : c.result = .error f) :
    c.events = [] := by
  rw [events, h]

theorem Grid.put_eq_self_iff {g : Grid} {p : Pos} {o : Option Nat} (hp : g.Contains p) :
    g.put p o = g ↔ g.occupant? p = o := by
  constructor
  · intro h
    have hcell := occupant?_put (q := p) o hp
    rwa [h, if_pos rfl] at hcell
  · intro h
    refine eq_of_occupant? rfl rfl fun q => ?_
    rw [occupant?_put o hp]
    split
    · next hq => rw [← hq, h]
    · rfl

namespace World

variable {w : World} {p target : Pos} {heading : Heading} {f : Fault}

/-- A newcomer needs a cell of the grid first, and then a species of the table. -/
theorem spawn_eq_error_iff {species : Nat} : (w.spawn species p heading).result = .error f ↔
    f = .outOfBounds p ∧ ¬ w.grid.Contains p ∨
      f = .unknownSpecies ∧ w.grid.Contains p ∧ w.species.length ≤ species := by
  by_cases hp : w.grid.Contains p
  · cases hs : w.species[species]? with
    | none =>
      have hle := List.getElem?_eq_none_iff.1 hs
      simp [spawn, set, hp, hle, eq_comm]
    | some s =>
      have hlt := (List.getElem?_eq_some_iff.1 hs).1
      simp [result_spawn hs hp, hp, Nat.not_le.2 hlt]
  · simp [spawn, set, hp, eq_comm]

section Move

variable {id : Nat} {c : Creature} (hc : w.creatures[id]? = some c)

include hc

/-- A creature needs the cell that it leaves first, and then the one that it takes. -/
theorem move_eq_error_iff : (w.move id target).result = .error f ↔
    f = .outOfBounds c.pos ∧ ¬ w.grid.Contains c.pos ∨
      f = .outOfBounds target ∧ w.grid.Contains c.pos ∧ ¬ w.grid.Contains target := by
  by_cases hfrom : w.grid.Contains c.pos
  · by_cases hto : w.grid.Contains target
    · simp [move_eq hc hfrom hto, hfrom, hto]
    · simp [move, set, hc, hfrom, hto, eq_comm]
  · simp [move_of_not_contains hc hfrom, hfrom, eq_comm]

theorem world_move_of_error (h : (w.move id target).result = .error f) :
    (w.move id target).world = if w.grid.Contains c.pos then
      { w with grid := w.grid.put c.pos none } else w := by
  split
  · next hfrom =>
    have hto : ¬ w.grid.Contains target := by
      rcases (move_eq_error_iff hc).1 h with ⟨-, hfrom'⟩ | ⟨-, -, hto⟩
      · exact absurd hfrom hfrom'
      · exact hto
    simp [move, set, hc, hfrom, hto]
  · next hfrom => rw [move_of_not_contains hc hfrom]

end Move

/-- Nothing is told of a change that fails, but it is not undone. A newcomer without a cell or without
a species stays in the roster, and in the cell if there is one, so that the world is never as it was.
A creature that cannot take its new cell has left the one where it says that it is, and so has whoever
is shown there: the world is as it was just if nobody is. -/
theorem failed_changes_stay (w : World) :
    (∀ (species : Nat) (p : Pos) (heading : Heading) (f : Fault),
      (w.spawn species p heading).result = .error f →
        (f = .outOfBounds p ∧ ¬ w.grid.Contains p ∨
          f = .unknownSpecies ∧ w.grid.Contains p ∧ w.species.length ≤ species) ∧
        (w.spawn species p heading).events = [] ∧ (w.spawn species p heading).world ≠ w ∧
        ∃ g, (w.spawn species p heading).world =
            { w with grid := g, creatures := w.creatures ++ [⟨species, p, heading, 0⟩] } ∧
          ∀ q, g.occupant? q =
            if p = q ∧ w.grid.Contains p then some w.creatures.length else w.grid.occupant? q) ∧
    ∀ (id : Nat) (c : Creature) (target : Pos) (f : Fault),
      w.creatures[id]? = some c → (w.move id target).result = .error f →
        (f = .outOfBounds c.pos ∧ ¬ w.grid.Contains c.pos ∨
          f = .outOfBounds target ∧ w.grid.Contains c.pos ∧ ¬ w.grid.Contains target) ∧
        (w.move id target).events = [] ∧
        ((w.move id target).world = w ↔ w.grid.occupant? c.pos = none) ∧
        ∃ g, (w.move id target).world = { w with grid := g } ∧
          ∀ q, g.occupant? q = if c.pos = q then none else w.grid.occupant? q := by
  constructor
  · intro species p heading f h
    have hworld := w.world_spawn species p heading
    refine ⟨spawn_eq_error_iff.1 h, Change.events_of_error h, fun hsame => ?_, _, hworld, fun q => ?_⟩
    · have hlength := congrArg (·.creatures.length) (hworld.symm.trans hsame)
      simp at hlength
    · by_cases hp : w.grid.Contains p
      · rw [if_pos hp, Grid.occupant?_put _ hp]
        simp only [hp, and_true]
      · rw [if_neg hp, if_neg fun h => hp h.2]
  · intro id c target f hc h
    have hworld := world_move_of_error hc h
    refine ⟨(move_eq_error_iff hc).1 h, Change.events_of_error h, ?_⟩
    by_cases hfrom : w.grid.Contains c.pos
    · rw [if_pos hfrom] at hworld
      refine ⟨?_, _, hworld, fun q => Grid.occupant?_put none hfrom⟩
      rw [hworld, ← Grid.put_eq_self_iff hfrom]
      exact ⟨fun h => congrArg World.grid h, fun h => by rw [h]⟩
    · have hnobody := Grid.occupant?_of_not_contains hfrom
      rw [if_neg hfrom] at hworld
      refine ⟨iff_of_true hworld hnobody, w.grid, hworld, fun q => ?_⟩
      split
      · next hq => rw [← hq, hnobody]
      · rfl

def outpost : World :=
  (Act.spawn 0 ⟨1, 0⟩ .east).after <| (Act.enrol hopper).after ⟨.empty 2 1, [], []⟩

theorem failed_changes_stay_outpost :
    ((outpost.spawn 0 ⟨2, 0⟩ .west).result = .error (.outOfBounds ⟨2, 0⟩) ∧
      (outpost.spawn 0 ⟨2, 0⟩ .west).world.creatures.length = 2) ∧
    ((outpost.spawn 1 ⟨0, 0⟩ .west).result = .error .unknownSpecies ∧
      (outpost.spawn 1 ⟨0, 0⟩ .west).world.grid.occupant? ⟨0, 0⟩ = some 1) ∧
    outpost.creatures[0]? = some ⟨0, ⟨1, 0⟩, .east, 0⟩ ∧
    (outpost.move 0 ⟨2, 0⟩).result = .error (.outOfBounds ⟨2, 0⟩) ∧
    (outpost.move 0 ⟨2, 0⟩).world ≠ outpost := by
  have houtside : (outpost.spawn 0 ⟨2, 0⟩ .west).result = .error (.outOfBounds ⟨2, 0⟩) := rfl
  have hunknown : (outpost.spawn 1 ⟨0, 0⟩ .west).result = .error .unknownSpecies := rfl
  have hc : outpost.creatures[0]? = some ⟨0, ⟨1, 0⟩, .east, 0⟩ := rfl
  have hmove : (outpost.move 0 ⟨2, 0⟩).result = .error (.outOfBounds ⟨2, 0⟩) := rfl
  obtain ⟨hspawn, hmoves⟩ := failed_changes_stay outpost
  obtain ⟨-, -, -, g, hworld, -⟩ := hspawn _ _ _ _ houtside
  obtain ⟨-, -, -, g', hworld', hcells⟩ := hspawn _ _ _ _ hunknown
  obtain ⟨-, -, hsame, -⟩ := hmoves _ _ _ _ hc hmove
  refine ⟨⟨houtside, by rw [hworld]; rfl⟩, ⟨hunknown, ?_⟩, hc, hmove, fun h => ?_⟩
  · rw [hworld', hcells]
    rfl
  · exact absurd (hsame.1 h) (by decide)

/-- A newcomer without a cell is in the roster all the same, and who cannot move is in no cell. -/
theorem failed_changes_leave_traces :
    outpost.Reachable Act.Lawful ∧
      ((outpost.spawn 0 ⟨2, 0⟩ .west).result.isOk = false ∧
        (outpost.spawn 0 ⟨2, 0⟩ .west).world.creatures ≠ outpost.creatures) ∧
      ((outpost.spawn 1 ⟨0, 0⟩ .west).result.isOk = false ∧
        (outpost.spawn 1 ⟨0, 0⟩ .west).world.get ⟨0, 0⟩ ≠ outpost.get ⟨0, 0⟩) ∧
      (outpost.move 0 ⟨2, 0⟩).result.isOk = false ∧
      (outpost.move 0 ⟨2, 0⟩).world.get ⟨1, 0⟩ ≠ outpost.get ⟨1, 0⟩ := by
  have hhopper : Species.ofSource "Hopper\nhop" ⟨0, 0, 0⟩ = .ok hopper := by rfl
  refine ⟨⟨2, 1, ⟨.empty 2 1, [], []⟩, _, rfl, .act (.act .start ⟨_, _, hhopper⟩)
    ⟨by decide, by decide⟩⟩, ⟨rfl, by decide⟩, ⟨rfl, fun h => ?_⟩, rfl, fun h => ?_⟩
  · exact absurd (h.symm.trans rfl : outpost.get ⟨0, 0⟩ = .ok (some 1)) (by rintro ⟨⟩)
  · exact absurd (h.symm.trans rfl : outpost.get ⟨1, 0⟩ = .ok none) (by rintro ⟨⟩)

end World
end Vivarium
