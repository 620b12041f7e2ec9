import Vivarium.Episode
import Vivarium.Proofs.Turn.Coins
import Vivarium.Proofs.Turn.Progress
import Vivarium.Round

/-! Nothing crashes a simulation: whatever lawful acts have led to, filling the world, taking turns,
whole rounds and single steps all come to an end, and again by lawful acts. -/
namespace Vivarium

/-- An episode that succeeds, and that is made of lawful acts. -/
structure Episode.Completes {α : Type} (e : Episode α) (w : World) : Prop where
  ok : ∃ a, e.result = .ok a
  run : Run Act.Lawful w e.events e.world

namespace Episode.Completes

variable {α β : Type} {w : World}

theorem done (a : α) (chance : Chance) : (Episode.done a w chance).Completes w := ⟨⟨a, rfl⟩, .start⟩

theorem andThen {e : Episode α} {next : α → World → Chance → Episode β} (h : e.Completes w)
    (hn : ∀ a, e.result = .ok a → (next a e.world e.chance).Completes e.world) :
    (e.andThen next).Completes w := by
  obtain ⟨a, ha⟩ := h.ok
  rw [andThen_of_ok ha]
  exact ⟨(hn a ha).ok, h.run.trans (hn a ha).run⟩

theorem map {e : Episode α} (h : e.Completes w) (f : α → β) : (e.map f).Completes w := by
  obtain ⟨a, ha⟩ := h.ok
  exact ⟨⟨f a, by simp [Episode.map, ha, Except.map]⟩, h.run⟩

theorem spawn {species : Nat} {p : Pos} {heading : Heading}
    (h : Act.Lawful w (.spawn species p heading)) (a : α) (chance : Chance) :
    (ofChange (w.spawn species p heading) a chance).Completes w := by
  have hs := List.getElem?_eq_getElem h.1
  refine ⟨⟨a, ?_⟩, .single h⟩
  simp only [ofChange, World.result_spawn hs h.2, Except.map]

theorem sound {e : Episode α} (h : e.Completes w) (hw : w.Sound) : e.world.Sound :=
  h.run.invariant (fun _ _ hv ha => hv.act ha) hw

end Episode.Completes

namespace Act

theorem length_after_turn (w : World) (me : Nat) (chance : Chance) (budget : Option Int) :
    ((turn me chance budget).after w).creatures.length = w.creatures.length := by
  apply Turn.run_invariant (P := fun v => v.creatures.length = w.creatures.length) rfl
  · intro c s t _ _
    exact World.length_hold w me t
  · intro v c s hv ha hfrom hto _
    rw [World.move_eq ha.creature hfrom hto, World.length_modify]
    exact hv
  · intro v c s other start hv _ _ _
    rw [World.world_infect, World.length_modify]
    exact hv

theorem species_after_turn (w : World) (me : Nat) (chance : Chance) (budget : Option Int) :
    ((turn me chance budget).after w).species = w.species := by
  apply Turn.run_invariant (P := fun v => v.species = w.species) rfl
  · intro c s t _ _
    rfl
  · intro v c s hv ha hfrom hto _
    rw [World.move_eq ha.creature hfrom hto]
    exact hv
  · intro v c s other start hv _ _ _
    rw [World.world_infect]
    exact hv

theorem size_after_turn (w : World) (me : Nat) (chance : Chance) (budget : Option Int) :
    ((turn me chance budget).after w).grid.width = w.grid.width ∧
      ((turn me chance budget).after w).grid.height = w.grid.height := by
  apply Turn.run_invariant
    (P := fun v => v.grid.width = w.grid.width ∧ v.grid.height = w.grid.height) ⟨rfl, rfl⟩
  · intro c s t _ _
    exact ⟨rfl, rfl⟩
  · intro v c s hv ha hfrom hto _
    rw [World.move_eq ha.creature hfrom hto]
    exact hv
  · intro v c s other start hv _ _ _
    rw [World.world_infect]
    exact hv

theorem length_le_after (a : Act) (w : World) :
    w.creatures.length ≤ (a.after w).creatures.length := by
  cases a with
  | enrol s => exact Nat.le_refl _
  | spawn species p heading =>
    rw [after, World.world_spawn, List.length_append]
    exact Nat.le_add_right _ _
  | turn me chance budget => exact Nat.le_of_eq (length_after_turn w me chance budget).symm

theorem species_prefix_after (a : Act) (w : World) : w.species <+: (a.after w).species := by
  cases a with
  | enrol s => exact List.prefix_append _ _
  | spawn species p heading =>
    have hsame : ((spawn species p heading).after w).species = w.species := by
      rw [after, World.world_spawn]
    exact hsame ▸ List.prefix_rfl
  | turn me chance budget => exact species_after_turn w me chance budget ▸ List.prefix_rfl

theorem size_after (a : Act) (w : World) :
    (a.after w).grid.width = w.grid.width ∧ (a.after w).grid.height = w.grid.height := by
  cases a with
  | enrol s => exact ⟨rfl, rfl⟩
  | spawn species p heading =>
    rw [after, World.world_spawn]
    dsimp only
    split <;> exact ⟨rfl, rfl⟩
  | turn me chance budget => exact size_after_turn w me chance budget

end Act

namespace Turn

section Take

variable (w : World) (chance : Chance) (me : Nat)

theorem world_take : (take w chance me).world = (Act.turn me chance none).after w := by
  unfold take
  dsimp only
  split <;> rfl

theorem events_take : (take w chance me).events = (Act.turn me chance none).events w := by
  unfold take
  dsimp only
  split <;> rfl

theorem orders_take : (take w chance me).chance.orders = chance.orders := by
  have h := orders_run w chance me none
  unfold take
  dsimp only
  split <;> exact h

end Take

theorem take_completes {w : World} (h : w.Sound) {me : Nat} (hme : me < w.creatures.length)
    (chance : Chance) : (take w chance me).Completes w := by
  constructor
  · unfold take
    dsimp only
    rcases run_result h hme chance none with ⟨outcome, ho⟩ | ⟨name, b, pc, hr⟩
    · simp [ho, Episode.map, Except.map]
    · simp [hr]
  · rw [world_take, events_take]
    exact .single hme

end Turn

theorem World.randomPos_contains {w : World} (h : w.Sound) (chance : Chance) :
    w.grid.Contains (w.randomPos chance).1 := by
  simp only [randomPos]
  have hx := Chance.below_lt h.width_pos chance
  have hy := Chance.below_lt h.height_pos (chance.below w.grid.width).2
  exact ⟨Int.natCast_nonneg _, Int.ofNat_lt.2 hx, Int.natCast_nonneg _, Int.ofNat_lt.2 hy⟩

namespace Populate

theorem each_completes {species : List Nat} {w : World} (h : w.Sound)
    (hs : ∀ id ∈ species, id < w.species.length) (chance : Chance) :
    (each species w chance).Completes w := by
  induction species generalizing w chance with
  | nil => exact .done [] chance
  | cons id rest ih =>
    have hp := World.randomPos_contains h chance
    simp only [each]
    generalize w.randomPos chance = drawn at hp ⊢
    obtain ⟨p, chance⟩ := drawn
    generalize chance.heading = drawn
    obtain ⟨heading, chance⟩ := drawn
    have hlaw : Act.Lawful w (.spawn id p heading) := ⟨hs id List.mem_cons_self, hp⟩
    refine (Episode.Completes.spawn hlaw _ chance).andThen fun _ _ =>
      (ih (h.act hlaw) (fun i hi => ?_) _).map _
    rw [Act.after, World.world_spawn]
    exact hs i (List.mem_cons_of_mem id hi)

theorem run_completes {species : List Nat} {w : World} (h : w.Sound)
    (hs : ∀ id ∈ species, id < w.species.length) (count : Nat) (chance : Chance) :
    (run species count w chance).Completes w := by
  apply each_completes h
  intro id hid
  obtain ⟨k, hk, hmem⟩ := List.mem_flatMap.1 hid
  obtain rfl := (List.mem_replicate.1 hmem).2
  exact hs _ hk

end Populate

namespace Round

theorem turns_completes {order : List Nat} {w : World} (h : w.Sound)
    (ho : ∀ me ∈ order, me < w.creatures.length) (tally : Tally) (chance : Chance) :
    (turns tally order w chance).Completes w := by
  induction order generalizing tally w chance with
  | nil => exact .done tally chance
  | cons me rest ih =>
    have htake := Turn.take_completes h (ho me List.mem_cons_self) chance
    refine htake.andThen fun outcome _ => ih (htake.sound h) (fun i hi => ?_) _ _
    rw [Turn.world_take, Act.length_after_turn]
    exact ho i (List.mem_cons_of_mem me hi)

theorem run_completes {w : World} (h : w.Sound) (number : Int) {chance : Chance}
    (hc : chance.Within w.creatures.length) : (run number w chance).Completes w :=
  turns_completes h (Chance.order_within hc).1 _ _

end Round

namespace Stepper

/-- Those whose turn is to come exist. -/
def Ready (s : Stepper) (w : World) : Prop := ∀ me ∈ s.pending, me < w.creatures.length

theorem openRound_ready {w : World} {chance : Chance} (hc : chance.Within w.creatures.length)
    (round : Int) (last : Option Tally) : (openRound round last w chance).1.Ready w :=
  (Chance.order_within hc).1

theorem settle_ready {s : Stepper} {w : World} {chance : Chance} (hs : s.Ready w)
    (hc : chance.Within w.creatures.length) : (s.settle w chance).1.Ready w := by
  unfold settle
  split
  · exact openRound_ready hc _ _
  · exact hs

theorem step_completes {s : Stepper} {w : World} {chance : Chance} (h : w.Sound) (hs : s.Ready w)
    (hc : chance.Within w.creatures.length) :
    (s.step w chance).2.Completes w ∧ (s.step w chance).1.Ready (s.step w chance).2.world := by
  unfold step
  cases hp : s.pending with
  | nil => exact ⟨.done _ _, settle_ready hs hc⟩
  | cons me rest =>
    have hme : me < w.creatures.length := hs me (by simp [hp])
    have htake := Turn.take_completes h hme chance
    obtain ⟨outcome, ho⟩ := htake.ok
    simp only [hme, if_true, ho]
    refine ⟨⟨⟨_, rfl⟩, htake.run⟩, settle_ready (fun i hi => ?_) ?_⟩
    · rw [Turn.world_take, Act.length_after_turn]
      exact hs i (by simp [hp, hi])
    · rw [Chance.Within, Turn.orders_take, Turn.world_take, Act.length_after_turn]
      exact hc

/-- A stepper as it can be met: just started, or some steps later, with acts in between. The chance
of a step need not be the one that the step before has left. -/
inductive InUse : Stepper → World → Prop
  | start {w : World} {chance : Chance} : w.Reachable Act.Lawful →
      chance.Within w.creatures.length → InUse (start w chance).1 w
  | step {s : Stepper} {w : World} {chance : Chance} : InUse s w →
      chance.Within w.creatures.length → InUse (s.step w chance).1 (s.step w chance).2.world
  | act {s : Stepper} {w : World} {a : Act} : InUse s w → Act.Lawful w a → InUse s (a.after w)

theorem InUse.ready {s : Stepper} {w : World} (h : s.InUse w) : w.Sound ∧ s.Ready w := by
  induction h with
  | start hw hc => exact ⟨World.sound_of_reachable hw, openRound_ready hc _ _⟩
  | step _ hc ih =>
    obtain ⟨hdone, hready⟩ := step_completes ih.1 ih.2 hc
    exact ⟨hdone.sound ih.1, hready⟩
  | act _ ha ih =>
    exact ⟨ih.1.act ha, fun me hme => Nat.lt_of_lt_of_le (ih.2 me hme) (Act.length_le_after ..)⟩

end Stepper

/-- In every world that lawful acts lead to, each creature is inside the grid, of a known species
and at an address of its program or just past the last one; each turn ends or runs away; and the
world can be filled, rounds run and steps be taken to their end. -/
theorem World.reachable_completes {w : World} (h : w.Reachable Act.Lawful) :
    (∀ c ∈ w.creatures, w.grid.Contains c.pos ∧
      ∃ s, w.species[c.species]? = some s ∧ c.pc ≤ s.program.size) ∧
    (∀ me chance budget, me < w.creatures.length →
      (∃ outcome, (Turn.run w chance me budget).result = .ok outcome) ∨
        ∃ name b pc, (Turn.run w chance me budget).result = .error (.runaway name b pc)) ∧
    (∀ species count chance, (∀ id ∈ species, id < w.species.length) →
      (Populate.run species count w chance).Completes w) ∧
    (∀ number chance, chance.Within w.creatures.length →
      (Round.run number w chance).Completes w) ∧
    ∀ (s : Stepper) chance, s.InUse w → chance.Within w.creatures.length →
      (s.step w chance).2.Completes w := by
  have hw := World.sound_of_reachable h
  refine ⟨fun c hc => ?_, fun me chance budget hme => Turn.run_result hw hme chance budget,
    fun species count chance hs => Populate.run_completes hw hs count chance,
    fun number chance hc => Round.run_completes hw number hc,
    fun s chance hs hc => (Stepper.step_completes hw hs.ready.2 hc).1⟩
  obtain ⟨id, hid⟩ := List.mem_iff_getElem?.1 hc
  exact hw.fits id c hid

def World.mite : Species := ⟨"Mite", ⟨0, 0, 0⟩, ⟨#[.hop, .infect none]⟩⟩

theorem World.reachable_completes_pushed_out :
    let still : Chance := ⟨[], [], ⟨#[], 0⟩⟩
    let w := (Act.turn 1 still none).after <| (Act.turn 1 still none).after <|
      (Act.spawn 0 ⟨0, 0⟩ .north).after <| (Act.spawn 1 ⟨0, 0⟩ .east).after <|
      (Act.spawn 0 ⟨1, 0⟩ .west).after <| (Act.enrol mite).after <|
      (Act.enrol hopper).after ⟨.empty 2 1, [], []⟩
    w.Reachable Act.Lawful ∧
      w.creatures.map (fun c => (c.species, c.pc)) = [(1, 0), (1, 2), (0, 0)] ∧
      (Round.run 1 w (.ofSeed 7)).Completes w := by
  intro still w
  have hhopper : Species.ofSource "Hopper\nhop" ⟨0, 0, 0⟩ = .ok hopper := by rfl
  have hmite : Species.ofSource "Mite\nhop\ninfect" ⟨0, 0, 0⟩ = .ok mite := by rfl
  have hw : w.Reachable Act.Lawful :=
    ⟨2, 1, ⟨.empty 2 1, [], []⟩, _, rfl, .act (.act (.act (.act (.act (.act (.act .start
      ⟨_, _, hhopper⟩) ⟨_, _, hmite⟩) ⟨by decide, by decide⟩) ⟨by decide, by decide⟩)
      ⟨by decide, by decide⟩) (show 1 < _ by decide)) (show 1 < _ by decide)⟩
  obtain ⟨-, -, -, hround, -⟩ := reachable_completes hw
  exact ⟨hw, by decide, hround 1 _ (Chance.ofSeed_within 7 _)⟩

end Vivarium
