import Vivarium.Proofs.Round.Whole
import Vivarium.Proofs.Turn.Frame
import Vivarium.Proofs.World.Rotation

/-!
No heading is preferred. In the world turned, turns and rounds come to what they come to in the
world itself, turned: with the same coins to the same outcomes, aborts, and tallies.
-/
namespace Vivarium

def Notice.rotate (height : Nat) (n : Notice) : Notice :=
  ⟨n.creature, n.pos.rotate height, n.fault.rotate height⟩

def Episode.rotate {α : Type} (height : Nat) (e : Episode α) : Episode α where
  world := e.world.rotate
  chance := e.chance
  events := e.events.map (·.rotate height)
  notices := e.notices.map (·.rotate height)
  result := match e.result with
    | .ok a => .ok a
    | .error f => .error (f.rotate height)

namespace Episode

variable {α β : Type} (height : Nat)

theorem rotate_ofChange (change : Change) (a : α) (chance : Chance) :
    (ofChange change a chance).rotate height = ofChange (change.rotate height) a chance := by
  obtain ⟨w, r⟩ := change
  cases r <;> rfl

theorem rotate_andThen {e : Episode α} {next next' : α → World → Chance → Episode β}
    (h : ∀ a, e.result = .ok a →
      next' a e.world.rotate e.chance = (next a e.world e.chance).rotate height) :
    (e.rotate height).andThen next' = (e.andThen next).rotate height := by
  obtain ⟨w, chance, es, ns, r⟩ := e
  cases r with
  | error f => rfl
  | ok a =>
    have hnext : next' a w.rotate chance = (next a w chance).rotate height := h a rfl
    simp [rotate, andThen, hnext]

theorem rotate_map (e : Episode α) (f : α → β) :
    (e.rotate height).map f = (e.map f).rotate height := by
  obtain ⟨w, chance, es, ns, r⟩ := e
  cases r <;> rfl

end Episode

namespace Turn

variable (w : World) (chance : Chance) (me : Nat)

theorem holds_rotate (c : Creature) (condition : Condition) :
    holds w.rotate chance me (c.rotate w.grid.height) condition =
      holds w chance me c condition := by
  cases condition with
  | empty => simp only [holds, World.occupant?_ahead_rotate, World.contains_ahead_rotate]
  | wall => simp only [holds, World.contains_ahead_rotate]
  | same => simp only [holds, World.occupant?_ahead_rotate]
  | enemy =>
    simp only [holds, World.occupant?_ahead_rotate]
    cases w.grid.occupant? c.ahead with
    | none => rfl
    | some other =>
      simp only [Option.bind_eq_bind, Option.bind_some, World.getElem?_rotate, Option.any_map]
      rfl
  | random => rfl
  | always => rfl

theorem swerve?_rotate (heading : Heading) (condition : Condition) :
    swerve? heading.right condition = (swerve? heading condition).map Heading.right := by
  cases condition <;> simp [swerve?]

theorem jump_rotate (c : Creature) (p : Program) (condition : Condition) (target : String) :
    jump w.rotate chance me (c.rotate w.grid.height) p condition target =
      (jump w chance me c p condition target).rotate w.grid.height := by
  have harrive (v : World) (pc : Nat) :
      Episode.done Progress.goesOn (v.rotate.modify me ({ · with pc })) chance =
        (Episode.done Progress.goesOn (v.modify me ({ · with pc })) chance).rotate
          w.grid.height := by
    have hmodify := v.rotate_modify me (f := ({ · with pc })) (g := ({ · with pc })) fun _ => rfl
    exact congrArg (Episode.done Progress.goesOn · chance) hmodify.symm
  have hswerve : swerve? (c.rotate w.grid.height).heading condition =
      (swerve? c.heading condition).map Heading.right := swerve?_rotate c.heading condition
  unfold jump
  rw [hswerve]
  cases swerve? c.heading condition with
  | none =>
    cases p.address? target with
    | none => rfl
    | some pc =>
      exact Episode.rotate_andThen w.grid.height (e := .done () w chance) fun _ _ => harrive w pc
  | some heading =>
    simp only [Option.map_some, w.rotate_turn, ← Episode.rotate_ofChange]
    refine Episode.rotate_andThen w.grid.height fun _ _ => ?_
    cases p.address? target with
    | none => rfl
    | some pc => exact harrive _ pc

theorem evaluate_rotate (c : Creature) (p : Program) (i : Instruction) :
    evaluate w.rotate chance me (c.rotate w.grid.height) p i =
      (evaluate w chance me c p i).rotate w.grid.height := by
  cases i with
  | hop =>
    simp only [evaluate, World.occupant?_ahead_rotate, World.contains_ahead_rotate]
    split
    · rw [Episode.rotate_ofChange, Creature.ahead_rotate, w.rotate_move]
    · rfl
  | left =>
    have hleft : c.heading.right.left = c.heading.left.right := by cases c.heading <;> rfl
    simp only [evaluate, Episode.rotate_ofChange, ← w.rotate_turn, ← hleft]
    rfl
  | right =>
    simp only [evaluate, Episode.rotate_ofChange, ← w.rotate_turn]
    rfl
  | infect entry =>
    have hspecies : (c.rotate w.grid.height).species = c.species := rfl
    simp only [evaluate, World.occupant?_ahead_rotate, hspecies, w.rotate_infect,
      ← Episode.rotate_ofChange]
    cases w.grid.occupant? c.ahead with
    | none => rfl
    | some other =>
      cases entry with
      | none => rfl
      | some name =>
        dsimp only
        cases p.address? name <;> rfl
  | jump condition target =>
    simp only [evaluate, holds_rotate]
    split
    · exact jump_rotate w _ me c p condition target
    · rfl
  | label name => rfl

theorem fetch_rotate (p : Program) :
    fetch w.rotate me p = match fetch w me p with
      | .error f => .error (f.rotate w.grid.height)
      | .ok (c, i, v) => .ok (c.rotate w.grid.height, i, v.rotate) := by
  unfold fetch
  rw [World.getElem?_rotate]
  cases w.creatures[me]? with
  | none => rfl
  | some c =>
    have hpc : (c.rotate w.grid.height).pc = c.pc := rfl
    have hmodify := w.rotate_modify me (f := ({ · with pc := p.wrap c.pc + 1 }))
      (g := ({ · with pc := p.wrap c.pc + 1 })) fun _ => rfl
    simp only [Option.map_some, hpc, ← hmodify]
    cases p.code[p.wrap c.pc]? <;> rfl

theorem loop_rotate {w : World} {me : Nat} {c : Creature} {s : Species} (ha : w.Actor me c s)
    (budget : Int) (left steps : Nat) (chance : Chance) :
    loop me s budget left steps w.rotate chance =
      (loop me s budget left steps w chance).rotate w.grid.height := by
  induction left generalizing w c steps chance with
  | zero =>
    simp only [loop, World.getElem?_rotate, ha.creature]
    rfl
  | succ left ih =>
    cases hf : fetch w me s.program with
    | error f =>
      simp only [loop, fetch_rotate, hf]
      rfl
    | ok fetched =>
      obtain ⟨d, i, v⟩ := fetched
      have hheight : v.grid.height = w.grid.height := by
        obtain ⟨-, -, rfl⟩ := fetch_eq_ok ha hf
        rfl
      simp only [loop, fetch_rotate, hf, ← hheight, evaluate_rotate]
      refine Episode.rotate_andThen _ fun progress hr => ?_
      cases progress with
      | ended moved infected => rfl
      | goesOn =>
        -- the creature has only turned about, so the world is as high as before
        have hcourse := fetch_evaluate_course ha hf chance
        simp only [hr] at hcourse
        obtain ⟨hs, pc, -, hheld, -⟩ := hcourse.goesOn ha
        rw [hheld, hheight]
        exact ih (ha.hold _) _ _

theorem run_rotate (budget : Option Int) :
    run w.rotate chance me budget = (run w chance me budget).rotate w.grid.height := by
  unfold run
  rw [World.speciesOf?_rotate]
  cases hs : w.speciesOf? me with
  | none => rfl
  | some s =>
    obtain ⟨c, ha⟩ := World.exists_actor hs
    exact loop_rotate ha _ _ 0 chance

theorem height_run (budget : Option Int) :
    (run w chance me budget).world.grid.height = w.grid.height := by
  refine run_invariant (P := fun v => v.grid.height = w.grid.height) rfl (fun _ _ _ => rfl)
    (fun hv ha hfrom hto _ => ?_) (fun hv _ _ _ => ?_) chance budget
  · rw [World.move_eq ha.creature hfrom hto]
    exact hv
  · rw [World.world_infect]
    exact hv

theorem exists_of_runaway {budget : Option Int} {name : String} {b : Int} {pc : Nat}
    (hr : (run w chance me budget).result = .error (.runaway name b pc)) :
    ∃ c, (run w chance me budget).world.creatures[me]? = some c := by
  cases hs : w.speciesOf? me with
  | none => simp [run, hs, Episode.failed] at hr
  | some s =>
    obtain ⟨c, ha⟩ := World.exists_actor hs
    obtain ⟨t, ht⟩ := hold_of_error ha.creature hr
    exact ⟨c.hold t, by simp [ht, World.getElem?_hold, ha.creature]⟩

theorem take_rotate : take w.rotate chance me = (take w chance me).rotate w.grid.height := by
  have hheight := height_run w chance me none
  have hrunaway := @exists_of_runaway w chance me none
  unfold take
  rw [run_rotate]
  generalize run w chance me = turn at hheight hrunaway ⊢
  obtain ⟨v, chance, es, ns, r⟩ := turn
  cases r with
  | ok o => rfl
  | error f =>
    cases f with
    | runaway name b pc =>
      -- the notice tells where the creature is, so the creature has to be somewhere
      obtain ⟨c, hc⟩ := hrunaway rfl
      dsimp only at hc hheight
      simp [Episode.rotate, Fault.rotate, Notice.rotate, Creature.rotate, hc, hheight]
    | _ => rfl

theorem takeAll_rotate (order : List Nat) :
    takeAll order w.rotate chance = (takeAll order w chance).rotate w.grid.height := by
  induction order generalizing w chance with
  | nil => rfl
  | cons me rest ih =>
    simp only [takeAll, take_rotate]
    refine Episode.rotate_andThen _ fun o _ => ?_
    have hheight : (take w chance me).world.grid.height = w.grid.height := by
      rw [world_take]
      exact height_run w chance me none
    rw [ih, hheight, Episode.rotate_map]

end Turn

namespace Round

theorem turns_rotate (tally : Tally) (order : List Nat) (w : World) (chance : Chance) :
    turns tally order w.rotate chance = (turns tally order w chance).rotate w.grid.height := by
  rw [turns_eq_takeAll, turns_eq_takeAll, Turn.takeAll_rotate, Episode.rotate_map]

theorem run_rotate (number : Int) (w : World) (chance : Chance) :
    run number w.rotate chance = (run number w chance).rotate w.grid.height := by
  have hlength : w.rotate.creatures.length = w.creatures.length := List.length_map _
  unfold run
  rw [hlength]
  exact turns_rotate _ _ w _

end Round

/-- Single turns with any budget, turns in any order, and rounds come to the same in the world
turned by a right angle, turned likewise. -/
theorem no_preferred_heading (w : World) (chance : Chance) :
    (∀ me budget, Turn.run w.rotate chance me budget =
      (Turn.run w chance me budget).rotate w.grid.height) ∧
    (∀ order, Turn.takeAll order w.rotate chance =
      (Turn.takeAll order w chance).rotate w.grid.height) ∧
    (∀ tally order, Round.turns tally order w.rotate chance =
      (Round.turns tally order w chance).rotate w.grid.height) ∧
    ∀ number, Round.run number w.rotate chance =
      (Round.run number w chance).rotate w.grid.height :=
  ⟨Turn.run_rotate w chance, Turn.takeAll_rotate w chance,
    fun tally order => Round.turns_rotate tally order w chance,
    fun number => Round.run_rotate number w chance⟩

end Vivarium
