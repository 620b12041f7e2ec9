import Vivarium.Proofs.Chance
import Vivarium.Proofs.Turn.Evaluated

/-! A turn asks chance for coins only, and only where its program has a random jump. -/
namespace Vivarium.Turn

theorem chance_holds (w : World) (chance : Chance) (me : Nat) (c : Creature)
    (condition : Condition) : (holds w chance me c condition).2 =
      if condition = .random then chance.coin.2 else chance := by
  cases condition <;> rfl

theorem chance_jump (w : World) (chance : Chance) (me : Nat) (c : Creature) (p : Program)
    (condition : Condition) (target : String) :
    (jump w chance me c p condition target).chance = chance := by
  unfold jump
  apply Episode.andThen_chance (P := (· = chance))
  · cases swerve? c.heading condition <;> rfl
  · intro _ v d hd
    cases p.address? target <;> exact hd

theorem chance_evaluate (w : World) (chance : Chance) (me : Nat) (c : Creature) (p : Program)
    (i : Instruction) : (evaluate w chance me c p i).chance =
      if i.opcode = .jump .random then chance.coin.2 else chance := by
  cases i with
  | hop =>
    simp only [evaluate]
    split <;> rfl
  | infect entry =>
    simp only [evaluate]
    split
    · rfl
    · cases entry with
      | none => rfl
      | some name =>
        dsimp only
        split <;> rfl
  | jump condition target =>
    have hcond : (Instruction.jump condition target).opcode = .jump .random ↔
        condition = .random := by simp [Instruction.opcode]
    simp only [evaluate, hcond, ← chance_holds w chance me c condition]
    split
    · exact chance_jump ..
    · rfl
  | _ => rfl

theorem orders_evaluate (w : World) (chance : Chance) (me : Nat) (c : Creature) (p : Program)
    (i : Instruction) : (evaluate w chance me c p i).chance.orders = chance.orders := by
  rw [chance_evaluate]
  split
  · exact chance.orders_coin
  · rfl

theorem orders_loop (me : Nat) (s : Species) (budget : Int) (left steps : Nat) (w : World)
    (chance : Chance) : (loop me s budget left steps w chance).chance.orders = chance.orders := by
  induction left generalizing steps w chance with
  | zero => rfl
  | succ left ih =>
    unfold loop
    split
    · rfl
    · apply Episode.andThen_chance (P := fun d => d.orders = chance.orders)
      · exact orders_evaluate ..
      · intro progress v d hd
        cases progress with
        | ended moved infected => exact hd
        | goesOn => exact (ih (steps + 1) v d).trans hd

theorem orders_run (w : World) (chance : Chance) (me : Nat) (budget : Option Int) :
    (run w chance me budget).chance.orders = chance.orders := by
  unfold run
  split
  · rfl
  · exact orders_loop ..

/-- A turn that evaluates no random jump takes nothing from its source of chance. -/
theorem chance_loop {me : Nat} {s : Species} {budget : Int} {left steps : Nat} {w : World}
    {chance : Chance} (h : ∀ i ∈ evaluatedWithin me s.program left w chance,
      i.opcode ≠ .jump .random) : (loop me s budget left steps w chance).chance = chance := by
  induction left generalizing steps w with
  | zero => rfl
  | succ left ih =>
    cases hf : fetch w me s.program with
    | error f => simp [loop, hf, Episode.failed]
    | ok fetched =>
      obtain ⟨c, i, v⟩ := fetched
      have hi : i.opcode ≠ .jump .random := h i (by simp [evaluatedWithin, hf])
      have hchance : (evaluate v chance me c s.program i).chance = chance := by
        rw [chance_evaluate, if_neg hi]
      cases hr : (evaluate v chance me c s.program i).result with
      | error f => simp [loop, hf, Episode.andThen_of_error hr, hchance]
      | ok progress =>
        cases progress with
        | ended moved infected => simp [loop, hf, Episode.andThen_of_ok hr, hchance, Episode.done]
        | goesOn =>
          rw [evaluatedWithin_of_goesOn hf hr] at h
          rw [loop_of_goesOn hf hr]
          dsimp only at h ⊢
          rw [hchance] at h ⊢
          exact ih fun j hj => h j (List.mem_cons_of_mem i hj)

theorem chance_run {w : World} {chance : Chance} {me : Nat} {budget : Option Int}
    (h : ∀ i ∈ evaluated w chance me budget, i.opcode ≠ .jump .random) :
    (run w chance me budget).chance = chance := by
  unfold run
  unfold evaluated at h
  cases hs : w.speciesOf? me with
  | none => rfl
  | some s =>
    simp only [hs] at h
    exact chance_loop h

end Vivarium.Turn
