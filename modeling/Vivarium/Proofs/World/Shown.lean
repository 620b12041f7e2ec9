import Vivarium.Proofs.World.Housed
import Vivarium.Proofs.World.Sound

/-! Who is shown in the grid, and whose turn hides whom. A creature that a newcomer has pushed out of
its cell empties that cell when it hops away, and so takes the newcomer out of the grid. -/
namespace Vivarium.World

/-- A look at the cell in which a creature is finds the creature itself. -/
def Shown (w : World) (id : Nat) : Prop :=
  ∃ c, w.creatures[id]? = some c ∧ w.get c.pos = .ok (some id)

theorem shown_iff {w : World} {id : Nat} :
    w.Shown id ↔ ∃ p, w.pos? id = some p ∧ w.grid.occupant? p = some id := by
  simp only [Shown, pos?_eq_some, get_eq_some]
  constructor
  · rintro ⟨c, hc, ho⟩
    exact ⟨c.pos, ⟨c, hc, rfl⟩, ho⟩
  · rintro ⟨_, ⟨c, hc, rfl⟩, ho⟩
    exact ⟨c, hc, ho⟩

theorem shown_congr {v w : World} {id : Nat} (hg : v.grid = w.grid) (hp : v.pos? id = w.pos? id) :
    v.Shown id ↔ w.Shown id := by
  simp only [shown_iff, hg, hp]

theorem Shown.pos?_ne {w : World} {i j : Nat} (hi : w.Shown i) (hj : w.Shown j) (hne : i ≠ j) :
    w.pos? i ≠ w.pos? j := by
  obtain ⟨p, hp, hpi⟩ := shown_iff.1 hi
  obtain ⟨q, hq, hqj⟩ := shown_iff.1 hj
  intro h
  obtain rfl := Option.some.inj (hp.symm.trans (h.trans hq))
  exact hne (Option.some.inj (hpi.symm.trans hqj))

/-- A move onto a free cell hides whoever was shown in the cell that is left, and nobody else. -/
theorem shown_move {w : World} {me id : Nat} {c : Creature} {target : Pos}
    (hc : w.creatures[me]? = some c) (hfrom : w.grid.Contains c.pos)
    (hto : w.grid.Contains target) (hfree : w.grid.occupant? target = none) (hne : id ≠ me) :
    (w.move me target).world.Shown id ↔ w.Shown id ∧ w.pos? id ≠ w.pos? me := by
  have hme : w.pos? me = some c.pos := pos?_of_creature hc
  simp only [shown_iff, pos?_move hc hfrom hto, occupant?_move hc hfrom hto, if_neg hne.symm, hme]
  constructor
  · rintro ⟨p, hp, ho⟩
    split at ho
    · exact absurd (Option.some.inj ho).symm hne
    · split at ho
      · cases ho
      · next hleft =>
        refine ⟨⟨p, hp, ho⟩, fun h => hleft ?_⟩
        exact (Option.some.inj (hp.symm.trans h)).symm
  · rintro ⟨⟨p, hp, ho⟩, hleft⟩
    have htarget : target ≠ p := by
      rintro rfl
      simp [hfree] at ho
    have hpos : c.pos ≠ p := by
      rintro rfl
      exact hleft hp
    exact ⟨p, hp, by simpa [htarget, hpos] using ho⟩

theorem shown_hold (w : World) (me id : Nat) (t : Stance) :
    (w.hold me t).Shown id ↔ w.Shown id :=
  shown_congr (grid_hold w me t) (pos?_hold w me id t)

theorem shown_infect (w : World) (other species pc id : Nat) :
    (w.infect other species pc).world.Shown id ↔ w.Shown id :=
  shown_congr (by rw [world_infect, grid_modify]) (pos?_infect w other species pc id)

theorem shown_course {w v : World} {me id : Nat} {es : List Event} {r : Except Fault Progress}
    (h : Turn.Course w me v es r) (hne : id ≠ me) (hid : w.Shown id) :
    v.Shown id ↔ ¬ (w.pos? me = w.pos? id ∧ v.pos? me ≠ w.pos? me) := by
  cases h with
  | idle => simpa using hid
  | held hs pc hactor => simpa [shown_hold] using hid
  | @moved c s hs pc target hactor _ ht hfrom hto hfree =>
    have hc := (hactor.hold ⟨c.heading.after hs, pc⟩).creature
    have hme : w.pos? me = some c.pos := pos?_of_creature hactor.creature
    have hleaves : target ≠ c.pos := ht ▸ Pos.step_ne _ _
    rw [shown_move hc hfrom hto hfree hne, shown_hold, pos?_hold, pos?_hold,
      pos?_move hc hfrom hto]
    simp [hid, hme, hleaves, eq_comm]
  | infected => simpa [shown_infect, shown_hold, pos?_infect] using hid

/-- A turn hides another creature from the grid just when its own creature hops out of the very cell
where the other is. A creature that is shown itself never hides anybody. -/
theorem shown_turn_iff {w : World} {me id : Nat} (hne : id ≠ me) (hid : w.Shown id)
    (chance : Chance) (budget : Option Int) :
    let v := (Turn.run w chance me budget).world
    (v.Shown id ↔ ¬ (w.pos? me = w.pos? id ∧ v.pos? me ≠ w.pos? me)) ∧
      (w.Shown me → v.Shown id) := by
  have hiff := shown_course (Turn.run_course w chance me budget) hne hid
  exact ⟨hiff, fun hme => hiff.2 fun h => hme.pos?_ne hid hne.symm h.1⟩

/-- A newcomer stands where an earlier creature still is; a third creature is beside them. -/
def crowd : World :=
  (Act.spawn 0 ⟨2, 0⟩ .south).after <| (Act.spawn 0 ⟨0, 0⟩ .north).after <|
    (Act.spawn 0 ⟨0, 0⟩ .east).after <| (Act.enrol hopper).after ⟨.empty 3 1, [], []⟩

theorem shown_turn_iff_crowd :
    let v := (Turn.run crowd ⟨[], [], ⟨#[], 0⟩⟩ 0).world
    (1 ≠ 0 ∧ crowd.Shown 1 ∧ ¬ v.Shown 1) ∧ 2 ≠ 0 ∧ crowd.Shown 2 ∧ v.Shown 2 := by
  have h₁ : crowd.Shown 1 := ⟨⟨0, ⟨0, 0⟩, .north, 0⟩, by decide, by rfl⟩
  have h₂ : crowd.Shown 2 := ⟨⟨0, ⟨2, 0⟩, .south, 0⟩, by decide, by rfl⟩
  refine ⟨⟨by decide, h₁, fun h => ?_⟩, by decide, h₂, ?_⟩
  · exact (shown_turn_iff (by decide) h₁ _ none).1.1 h ⟨by decide, by decide⟩
  · exact (shown_turn_iff (by decide) h₂ _ none).1.2 fun h => by revert h; decide

/-- A turn of one creature takes another one out of the grid, in a world that lawful acts lead to. -/
theorem hop_hides_newcomer :
    crowd.Reachable Act.Lawful ∧ crowd.Shown 1 ∧
      ¬ (Turn.run crowd ⟨[], [], ⟨#[], 0⟩⟩ 0).world.Shown 1 := by
  have hhopper : Species.ofSource "Hopper\nhop" ⟨0, 0, 0⟩ = .ok hopper := by rfl
  refine ⟨⟨3, 1, ⟨.empty 3 1, [], []⟩, _, rfl, .act (.act (.act (.act .start
    ⟨_, _, hhopper⟩) ⟨by decide, by decide⟩) ⟨by decide, by decide⟩) ⟨by decide, by decide⟩⟩,
    ⟨⟨0, ⟨0, 0⟩, .north, 0⟩, by decide, by rfl⟩, ?_⟩
  rintro ⟨c, hc, hg⟩
  obtain rfl : ⟨0, ⟨0, 0⟩, .north, 0⟩ = c := Option.some.inj (Eq.trans (by decide) hc)
  exact absurd (get_eq_some.1 hg) (by decide)

end Vivarium.World
