import Vivarium.Proofs.Run
import Vivarium.Proofs.Turn.Course

/-! The grid never lies: whoever it shows in a cell is there. Creatures that a newcomer has pushed
out of their cell may be missing from the grid, but they never appear in a wrong place. -/
namespace Vivarium.World

/-- Whoever the grid shows in a cell says so too. -/
def Truthful (w : World) : Prop :=
  ∀ p id, w.grid.occupant? p = some id → w.pos? id = some p

theorem Truthful.congr {v w : World} (h : w.Truthful) (hg : v.grid = w.grid)
    (hp : ∀ id, v.pos? id = w.pos? id) : v.Truthful := by
  intro p id ho
  rw [hg] at ho
  rw [hp]
  exact h p id ho

theorem Truthful.occupant?_ne {w : World} (h : w.Truthful) {id : Nat} {p q : Pos}
    (hp : w.pos? id = some p) (hq : p ≠ q) : w.grid.occupant? q ≠ some id :=
  fun ho => hq (Option.some.inj (hp.symm.trans (h q id ho)))

theorem Truthful.ahead_ne {w : World} (h : w.Truthful) {me : Nat} {c : Creature}
    (hc : w.creatures[me]? = some c) (d : Heading) :
    w.grid.occupant? (c.pos.step d) ≠ some me :=
  h.occupant?_ne (pos?_of_creature hc) (Pos.step_ne c.pos d).symm

theorem Truthful.hold {w : World} (h : w.Truthful) (me : Nat) (t : Stance) :
    (w.hold me t).Truthful :=
  h.congr rfl fun id => pos?_hold w me id t

theorem Truthful.infect {w : World} (h : w.Truthful) (id species pc : Nat) :
    (w.infect id species pc).world.Truthful := by
  rw [world_infect]
  exact h.congr rfl (pos?_modify (f := ({ · with species, pc })) (fun _ => rfl) w id)

/-- A creature that moves may leave somebody else's cell empty, never a wrong number in it. -/
theorem Truthful.move {w : World} {id : Nat} {c : Creature} {target : Pos} (h : w.Truthful)
    (hc : w.creatures[id]? = some c) (hs : w.grid.Contains c.pos) (ht : w.grid.Contains target) :
    (w.move id target).world.Truthful := by
  intro p j hj
  rw [occupant?_move hc hs ht] at hj
  rw [pos?_move hc hs ht]
  split at hj
  · next hp =>
    obtain rfl := Option.some.inj hj
    simp [hp]
  · split at hj
    · cases hj
    · next hp =>
      have hpos := h p j hj
      have hne : id ≠ j := by
        rintro rfl
        simp only [pos?, hc] at hpos
        exact hp (Option.some.inj hpos)
      simpa [hne] using hpos

theorem Truthful.spawn {w : World} (h : w.Truthful) (species : Nat) (p : Pos)
    (heading : Heading) : (w.spawn species p heading).world.Truthful := by
  intro q j hj
  rw [pos?_spawn]
  rw [world_spawn] at hj
  have hold (ho : w.grid.occupant? q = some j) :
      (if j = w.creatures.length then some p else w.pos? j) = some q := by
    have hq := h q j ho
    have hlt := pos?_lt hq
    rw [if_neg (by omega), hq]
  split at hj
  · next hp =>
    rw [Grid.occupant?_put _ hp] at hj
    split at hj
    · next hpq =>
      obtain rfl := Option.some.inj hj
      simp [hpq]
    · exact hold hj
  · exact hold hj

theorem Truthful.turn {w : World} (h : w.Truthful) (chance : Chance) (me : Nat)
    (budget : Option Int) : (Turn.run w chance me budget).world.Truthful := by
  apply Turn.run_invariant h
  · intro c s t _ _
    exact h.hold me t
  · intro v c s hv hactor hfrom hto _
    exact hv.move hactor.creature hfrom hto
  · intro v c s other start hv _ _ _
    exact hv.infect other c.species start

theorem Truthful.act {w : World} (h : w.Truthful) (a : Act) : (a.after w).Truthful := by
  cases a with
  | enrol s => exact h.congr rfl fun _ => rfl
  | spawn species p heading => exact h.spawn species p heading
  | turn me chance budget => exact h.turn chance me budget

theorem truthful_of_reachable {rule : World → Act → Prop} {w : World} (h : w.Reachable rule) :
    w.Truthful := by
  refine h.invariant (fun width height _ _ p id ho => ?_) fun v a hv _ => hv.act a
  simp at ho

/-- Every number in the grid is that of a creature that is there, so none is in two cells. The rule
of the run does not matter: newcomers may have pushed others out of their cells. -/
theorem grid_sound {rule : World → Act → Prop} {w : World} (h : w.Reachable rule) :
    (∀ p id, w.grid.occupant? p = some id → ∃ c, w.creatures[id]? = some c ∧ c.pos = p) ∧
      ∀ p q id, w.grid.occupant? p = some id → w.grid.occupant? q = some id → p = q := by
  have ht := truthful_of_reachable h
  constructor
  · intro p id hp
    exact pos?_eq_some.1 (ht p id hp)
  · intro p q id hp hq
    exact Option.some.inj ((ht p id hp).symm.trans (ht q id hq))

def hopper : Species := ⟨"Hopper", ⟨0, 0, 0⟩, ⟨#[.hop]⟩⟩

theorem grid_sound_displaced_hop :
    let still : Chance := ⟨[], [], ⟨#[], 0⟩⟩
    let w := (Act.turn 0 still none).after <| (Act.spawn 0 ⟨0, 0⟩ .north).after <|
      (Act.spawn 0 ⟨0, 0⟩ .east).after <| (Act.enrol hopper).after ⟨.empty 2 1, [], []⟩
    w.Reachable (fun _ _ => True) ∧ w.grid.occupant? ⟨0, 0⟩ = none ∧
      w.grid.occupant? ⟨1, 0⟩ = some 0 ∧ ∃ c, w.creatures[0]? = some c ∧ c.pos = ⟨1, 0⟩ := by
  intro still w
  have hw : w.Reachable (fun _ _ => True) :=
    ⟨2, 1, ⟨.empty 2 1, [], []⟩, _, rfl, .act (.act (.act (.act .start ⟨⟩) ⟨⟩) ⟨⟩) ⟨⟩⟩
  have ho : w.grid.occupant? ⟨1, 0⟩ = some 0 := by decide
  exact ⟨hw, by decide, ho, (grid_sound hw).1 ⟨1, 0⟩ 0 ho⟩

end Vivarium.World
