import Vivarium.Proofs.World.Sound

/-! In a sound world nothing goes wrong in a turn, except that it may not end within its budget. -/
namespace Vivarium.Turn

theorem evaluate_ok {w : World} (h : w.Sound) {me : Nat} {c : Creature} {s : Species}
    (ha : w.Actor me c s) (chance : Chance) {i : Instruction} (hi : i ∈ s.program.code) :
    ∃ progress, (evaluate w chance me c s.program i).result = .ok progress := by
  have hdefined := (h.program ha).defined i hi
  cases i with
  | hop =>
    simp only [evaluate]
    split
    · next hfree =>
      rw [World.move_eq ha.creature (h.fits me c ha.creature).1 hfree.1]
      exact ⟨_, rfl⟩
    · exact ⟨_, rfl⟩
  | left =>
    simp only [evaluate, World.turn_eq ha.creature]
    exact ⟨_, rfl⟩
  | right =>
    simp only [evaluate, World.turn_eq ha.creature]
    exact ⟨_, rfl⟩
  | infect entry =>
    simp only [evaluate]
    cases ho : w.grid.occupant? c.ahead with
    | none => exact ⟨_, rfl⟩
    | some other =>
      obtain ⟨d, hd, -⟩ := World.pos?_eq_some.1 (h.truthful _ _ ho)
      cases entry with
      | none =>
        simp only [World.infect_eq hd ha.species]
        exact ⟨_, rfl⟩
      | some name =>
        obtain ⟨pc, hpc⟩ := Option.isSome_iff_exists.1 (hdefined name rfl)
        simp only [hpc, World.infect_eq hd ha.species]
        exact ⟨_, rfl⟩
  | jump condition target =>
    obtain ⟨pc, hpc⟩ := Option.isSome_iff_exists.1 (hdefined target rfl)
    simp only [evaluate]
    split
    · simp [jump_eq ha, hpc]
    · exact ⟨_, rfl⟩
  | label name => exact ⟨_, rfl⟩

theorem fetch_ok {w : World} (h : w.Sound) {me : Nat} {c : Creature} {s : Species}
    (ha : w.Actor me c s) : ∃ i v, fetch w me s.program = .ok (c, i, v) := by
  have hlt : s.program.wrap c.pc < s.program.code.size :=
    Program.wrap_lt (h.program ha).nonempty c.pc
  simp [fetch_eq ha, Array.getElem?_eq_getElem hlt]

theorem loop_result {w : World} (h : w.Sound) {me : Nat} {c : Creature} {s : Species}
    (ha : w.Actor me c s) (budget : Int) (left steps : Nat) (chance : Chance) :
    (∃ outcome, (loop me s budget left steps w chance).result = .ok outcome) ∨
      ∃ pc, (loop me s budget left steps w chance).result = .error (.runaway s.name budget pc) := by
  induction left generalizing w c steps chance with
  | zero => exact .inr ⟨_, rfl⟩
  | succ left ih =>
    obtain ⟨i, v, hf⟩ := fetch_ok h ha
    obtain ⟨-, hi, rfl⟩ := fetch_eq_ok ha hf
    obtain ⟨hlt, rfl⟩ := Array.getElem?_eq_some_iff.1 hi
    have hold := h.hold (t := ⟨c.heading, s.program.wrap c.pc + 1⟩) ha hlt
    obtain ⟨progress, hr⟩ := evaluate_ok hold (ha.hold _) chance (Array.getElem_mem hlt)
    rw [evaluate_hold] at hr
    simp only [loop, hf, Episode.andThen_of_ok hr]
    cases progress with
    | ended moved infected => exact .inl ⟨_, rfl⟩
    | goesOn =>
      have hev := fetch_evaluate_course ha hf chance
      simp only [hr] at hev
      obtain ⟨hs, pc, hpc, hw, -⟩ := hev.goesOn ha
      simp only [hw]
      exact ih (h.hold ha hpc) (ha.hold _) (steps + 1) _

/-- A turn of a creature ends with an outcome or runs away. -/
theorem run_result {w : World} (h : w.Sound) {me : Nat} (hme : me < w.creatures.length)
    (chance : Chance) (budget : Option Int) :
    (∃ outcome, (run w chance me budget).result = .ok outcome) ∨
      ∃ name b pc, (run w chance me budget).result = .error (.runaway name b pc) := by
  obtain ⟨c, s, ha, -⟩ := h.exists_actor hme
  simp only [run, ha.speciesOf?]
  rcases loop_result h ha (budget.getD (budgetFor s.program.size)) _ 0 chance with ho | ⟨pc, hpc⟩
  · exact .inl ho
  · exact .inr ⟨_, _, pc, hpc⟩

end Vivarium.Turn
