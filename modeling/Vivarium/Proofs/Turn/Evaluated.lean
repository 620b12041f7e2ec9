import Vivarium.Proofs.Episode
import Vivarium.Proofs.World.Operations
import Vivarium.Turn

/-! The instructions that a turn evaluates, whichever way it ends. -/
namespace Vivarium.Turn

/-- The instructions evaluated with `left` to go, in order. -/
def evaluatedWithin (me : Nat) (p : Program) : Nat → World → Chance → List Instruction
  | 0, _, _ => []
  | left + 1, w, chance =>
    match fetch w me p with
    | .error _ => []
    | .ok (c, i, w) =>
      let e := evaluate w chance me c p i
      i :: match e.result with
        | .ok .goesOn => evaluatedWithin me p left e.world e.chance
        | _ => []

/-- The instructions that a creature evaluates in its turn. -/
def evaluated (w : World) (chance : Chance) (me : Nat) (budget : Option Int := none) :
    List Instruction :=
  match w.speciesOf? me with
  | none => []
  | some s =>
    evaluatedWithin me s.program (budget.getD (budgetFor s.program.size)).toNat w chance

section Runaway

variable (w : World) (chance : Chance) (me : Nat) (c : Creature) (p : Program)
  (name : String) (b : Int) (pc : Nat)

theorem turn_ne_runaway {α : Type} (heading : Heading) (a : α) :
    (Episode.ofChange (w.turn me heading) a chance).result ≠ .error (.runaway name b pc) := by
  intro h
  cases World.turn_fault (Episode.ofChange_fault h)

theorem infect_ne_runaway {α : Type} (other species start : Nat) (a : α) :
    (Episode.ofChange (w.infect other species start) a chance).result ≠
      .error (.runaway name b pc) := by
  intro h
  rcases World.infect_fault (Episode.ofChange_fault h) with h | h <;> cases h

theorem jump_ne_runaway (condition : Condition) (target : String) :
    (jump w chance me c p condition target).result ≠ .error (.runaway name b pc) := by
  intro h
  unfold jump at h
  cases hsw : swerve? c.heading condition with
  | none =>
    rw [hsw] at h
    cases ha : p.address? target <;> simp [Episode.andThen, Episode.failed, ha] at h
  | some heading =>
    simp only [hsw] at h
    cases hr : (Episode.ofChange (w.turn me heading) () chance).result with
    | error f =>
      rw [Episode.andThen_of_error hr] at h
      cases h
      exact turn_ne_runaway w chance me name b pc heading () hr
    | ok _ =>
      rw [Episode.andThen_of_ok hr] at h
      cases ha : p.address? target <;> simp [Episode.failed, ha] at h

theorem evaluate_ne_runaway (i : Instruction) :
    (evaluate w chance me c p i).result ≠ .error (.runaway name b pc) := by
  cases i with
  | hop =>
    simp only [evaluate]
    split
    · intro h
      rcases World.move_fault (Episode.ofChange_fault h) with h | ⟨q, h⟩ <;> cases h
    · simp
  | left => apply turn_ne_runaway
  | right => apply turn_ne_runaway
  | infect entry =>
    simp only [evaluate]
    split
    · simp
    · cases entry with
      | none => apply infect_ne_runaway
      | some name =>
        dsimp only
        split
        · simp
        · apply infect_ne_runaway
  | jump condition target =>
    simp only [evaluate]
    split
    · apply jump_ne_runaway
    · simp
  | label name => simp [evaluate]

end Runaway

section Step

variable {w v : World} {chance : Chance} {me : Nat} {s : Species} {c : Creature} {i : Instruction}

/-- A turn that ends does so with its next instruction, or goes on past that one and ends later. -/
theorem ended_or_goesOn_of_ok {budget : Int} {left steps : Nat} {o : Outcome}
    (h : (loop me s budget (left + 1) steps w chance).result = .ok o) :
    ∃ c i v, fetch w me s.program = .ok (c, i, v) ∧
      let e := evaluate v chance me c s.program i
      (∃ moved infected, e.result = .ok (.ended moved infected) ∧
        o = ⟨i.opcode, steps + 1, moved, infected⟩) ∨
        (e.result = .ok .goesOn ∧
          (loop me s budget left (steps + 1) e.world e.chance).result = .ok o) := by
  rw [loop] at h
  cases hf : fetch w me s.program with
  | error f => simp [hf, Episode.failed] at h
  | ok fetched =>
    obtain ⟨c, i, v⟩ := fetched
    simp only [hf] at h
    obtain ⟨progress, hr, hrest⟩ := Episode.ok_of_andThen h
    refine ⟨c, i, v, rfl, ?_⟩
    cases progress with
    | ended moved infected => exact .inl ⟨moved, infected, hr, (Except.ok.inj hrest).symm⟩
    | goesOn => exact .inr ⟨hr, hrest⟩

/-- A turn that runs away goes on past its next instruction, and runs away from there. -/
theorem goesOn_of_runaway {budget b : Int} {left steps pc : Nat} {name : String}
    (h : (loop me s budget (left + 1) steps w chance).result = .error (.runaway name b pc)) :
    ∃ c i v, fetch w me s.program = .ok (c, i, v) ∧
      let e := evaluate v chance me c s.program i
      e.result = .ok .goesOn ∧
        (loop me s budget left (steps + 1) e.world e.chance).result =
          .error (.runaway name b pc) := by
  rw [loop] at h
  cases hf : fetch w me s.program with
  | error f =>
    simp only [hf, Episode.result_failed, Except.error.injEq] at h
    subst h
    unfold fetch at hf
    split at hf
    · cases hf
    · split at hf <;> cases hf
  | ok fetched =>
    obtain ⟨c, i, v⟩ := fetched
    simp only [hf] at h
    cases hr : (evaluate v chance me c s.program i).result with
    | error f =>
      rw [Episode.andThen_of_error hr] at h
      cases h
      exact (evaluate_ne_runaway _ _ _ _ _ _ _ _ _ hr).elim
    | ok progress =>
      rw [Episode.andThen_of_ok hr] at h
      cases progress with
      | ended moved infected => cases h
      | goesOn => exact ⟨c, i, v, rfl, hr, h⟩

variable (hf : fetch w me s.program = .ok (c, i, v))

section Ended

variable {moved infected : Bool}
  (hr : (evaluate v chance me c s.program i).result = .ok (.ended moved infected))

include hf hr

theorem loop_of_ended (budget : Int) (left steps : Nat) :
    loop me s budget (left + 1) steps w chance =
      { evaluate v chance me c s.program i with
        result := .ok ⟨i.opcode, steps + 1, moved, infected⟩ } := by
  rw [loop]
  simp only [hf, Episode.andThen_of_ok hr, Episode.done, List.append_nil]

theorem evaluatedWithin_of_ended (left : Nat) :
    evaluatedWithin me s.program (left + 1) w chance = [i] := by
  rw [evaluatedWithin]
  simp only [hf, hr]

end Ended

variable (hr : (evaluate v chance me c s.program i).result = .ok .goesOn)

include hf hr

theorem loop_of_goesOn (budget : Int) (left steps : Nat) :
    loop me s budget (left + 1) steps w chance =
      let e := evaluate v chance me c s.program i
      let rest := loop me s budget left (steps + 1) e.world e.chance
      { rest with events := e.events ++ rest.events, notices := e.notices ++ rest.notices } := by
  rw [loop]
  simp only [hf]
  exact Episode.andThen_of_ok hr _

theorem evaluatedWithin_of_goesOn (left : Nat) :
    evaluatedWithin me s.program (left + 1) w chance =
      let e := evaluate v chance me c s.program i
      i :: evaluatedWithin me s.program left e.world e.chance := by
  rw [evaluatedWithin]
  simp only [hf, hr]

end Step

theorem evaluatedWithin_of_ok {me : Nat} {s : Species} {budget : Int} {left steps : Nat} {w : World}
    {chance : Chance} {o : Outcome} (h : (loop me s budget left steps w chance).result = .ok o) :
    o.steps = steps + (evaluatedWithin me s.program left w chance).length ∧
      (evaluatedWithin me s.program left w chance).getLast?.map Instruction.opcode =
        some o.opcode := by
  induction left generalizing steps w chance with
  | zero => cases h
  | succ left ih =>
    obtain ⟨c, i, v, hf, ⟨moved, infected, hr, rfl⟩ | ⟨hr, hrest⟩⟩ := ended_or_goesOn_of_ok h
    · simp [evaluatedWithin_of_ended hf hr]
    · obtain ⟨hsteps, hlast⟩ := ih hrest
      rw [evaluatedWithin_of_goesOn hf hr]
      simp only [List.length_cons, List.getLast?_cons]
      refine ⟨by omega, ?_⟩
      cases hl : (evaluatedWithin me s.program left (evaluate v chance me c s.program i).world
          (evaluate v chance me c s.program i).chance).getLast? with
      | none => simp [hl] at hlast
      | some j => simpa [hl] using hlast

theorem length_evaluatedWithin {me : Nat} {s : Species} {budget b : Int} {left steps pc : Nat}
    {w : World} {chance : Chance} {name : String}
    (h : (loop me s budget left steps w chance).result = .error (.runaway name b pc)) :
    (evaluatedWithin me s.program left w chance).length = left ∧ b = budget := by
  induction left generalizing steps w chance with
  | zero =>
    cases h
    exact ⟨rfl, rfl⟩
  | succ left ih =>
    obtain ⟨c, i, v, hf, hr, hrest⟩ := goesOn_of_runaway h
    obtain ⟨hlength, hb⟩ := ih hrest
    exact ⟨by simp [evaluatedWithin_of_goesOn hf hr, hlength], hb⟩

end Vivarium.Turn
