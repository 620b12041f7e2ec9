import Mathlib.Control.Monad.Basic
import Vivarium.Proofs.Turn.Evaluated

/-!
What the budget of a turn decides: whether the turn comes to its end, and nothing else. A turn that
ends does the same on every budget that covers its steps, and on any other it is broken off.
-/
namespace Vivarium.Turn

section Loop

variable {me : Nat} {s : Species} {budget other : Int} {left left' steps : Nat} {w : World}
  {chance : Chance} {o : Outcome}

/-- A turn that ends does not look at its budget. -/
theorem loop_of_steps_le (h : (loop me s budget left steps w chance).result = .ok o)
    (hle : o.steps ≤ steps + left') :
    loop me s other left' steps w chance = loop me s budget left steps w chance := by
  induction left generalizing left' steps w chance with
  | zero => cases h
  | succ left ih =>
    obtain ⟨c, i, v, hf, ⟨moved, infected, hr, rfl⟩ | ⟨hr, hrest⟩⟩ := ended_or_goesOn_of_ok h
    · obtain ⟨more, rfl⟩ : ∃ more, left' = more + 1 := ⟨left' - 1, by dsimp only at hle; omega⟩
      rw [loop_of_ended hf hr, loop_of_ended hf hr]
    · have hsteps := (evaluatedWithin_of_ok hrest).1
      obtain ⟨more, rfl⟩ : ∃ more, left' = more + 1 := ⟨left' - 1, by omega⟩
      rw [loop_of_goesOn hf hr, loop_of_goesOn hf hr]
      dsimp only
      rw [ih hrest (by omega)]

/-- A turn that is broken off before its end has gone the same way until then. -/
theorem loop_of_lt_steps (h : (loop me s budget left steps w chance).result = .ok o)
    (hlt : steps + left' < o.steps) :
    (∃ pc, (loop me s other left' steps w chance).result = .error (.runaway s.name other pc)) ∧
      evaluatedWithin me s.program left' w chance =
        (evaluatedWithin me s.program left w chance).take left' := by
  induction left' generalizing left steps w chance with
  | zero => exact ⟨⟨_, rfl⟩, rfl⟩
  | succ left' ih =>
    cases left with
    | zero => cases h
    | succ left =>
      obtain ⟨c, i, v, hf, ⟨moved, infected, hr, rfl⟩ | ⟨hr, hrest⟩⟩ := ended_or_goesOn_of_ok h
      · dsimp only at hlt
        omega
      · obtain ⟨hrunaway, htake⟩ := ih hrest (by omega)
        rw [loop_of_goesOn hf hr, evaluatedWithin_of_goesOn hf hr, evaluatedWithin_of_goesOn hf hr]
        dsimp only
        exact ⟨hrunaway, by rw [List.take_succ_cons, htake]⟩

end Loop

/-- Whatever budget covers the steps of a turn that ends, the turn is the same, with all that it does
to the world, tells, and draws. On a lesser budget it runs away, after so many of its instructions as
the budget allows. -/
theorem budget_cuts_off {w : World} {chance : Chance} {me : Nat} {budget : Int} {o : Outcome}
    (h : (run w chance me (some budget)).result = .ok o) :
    1 ≤ o.steps ∧ o.steps ≤ budget ∧
    (∀ more : Int, o.steps ≤ more → run w chance me (some more) = run w chance me (some budget)) ∧
    ∀ less : Int, less < o.steps →
      (∃ s pc, w.speciesOf? me = some s ∧
        (run w chance me (some less)).result = .error (.runaway s.name less pc)) ∧
      evaluated w chance me (some less) =
        (evaluated w chance me (some budget)).take less.toNat ∧
      (evaluated w chance me (some less)).length = less.toNat := by
  cases hs : w.speciesOf? me with
  | none => simp [run, hs] at h
  | some s =>
    simp only [run, evaluated, hs, Option.getD_some] at h ⊢
    obtain ⟨hsteps, hlast⟩ := evaluatedWithin_of_ok h
    have hpos : 1 ≤ o.steps := by
      have hne : evaluatedWithin me s.program budget.toNat w chance ≠ [] := fun hnil => by
        simp [hnil] at hlast
      have hlength := List.length_pos_iff.2 hne
      omega
    have hless {less : Int} (hlt : less < o.steps) :
        (∃ pc, (loop me s less less.toNat 0 w chance).result = .error (.runaway s.name less pc)) ∧
          evaluatedWithin me s.program less.toNat w chance =
            (evaluatedWithin me s.program budget.toNat w chance).take less.toNat :=
      loop_of_lt_steps h (by omega)
    have hcovers : o.steps ≤ budget := Int.not_lt.1 fun hlt => by
      obtain ⟨pc, hrunaway⟩ := (hless hlt).1
      simp [hrunaway] at h
    refine ⟨hpos, hcovers, fun more hmore => loop_of_steps_le h (by omega), fun less hlt => ?_⟩
    obtain ⟨⟨pc, hrunaway⟩, htake⟩ := hless hlt
    exact ⟨⟨s, pc, rfl, hrunaway⟩, htake, (length_evaluatedWithin hrunaway).1⟩

def gambler : Species :=
  ⟨"Gambler", ⟨0, 0, 0⟩,
    ⟨#[.label "flip", .jump .random "turn", .jump .always "flip", .label "turn", .left]⟩⟩

/-- The second coin comes in time on a budget of seven, and too late on one of six. -/
theorem budget_cuts_off_second_coin :
    let coins : Chance := ⟨[false, true, true], [], ⟨#[], 0⟩⟩
    let w : World := ⟨.empty 1 1, [gambler], [⟨0, ⟨0, 0⟩, .north, 0⟩]⟩
    (run w coins 0 (some 100)).result = .ok ⟨.left, 7, false, false⟩ ∧
      run w coins 0 (some 7) = run w coins 0 (some 100) ∧
      (∃ pc, (run w coins 0 (some 6)).result = .error (.runaway "Gambler" 6 pc)) ∧
      (evaluated w coins 0 (some 6)).length = 6 ∧ evaluated w coins 0 (some (-1)) = [] := by
  intro coins w
  have hr : (run w coins 0 (some 100)).result = .ok ⟨.left, 7, false, false⟩ := by decide +kernel
  obtain ⟨-, -, hmore, hless⟩ := budget_cuts_off hr
  obtain ⟨⟨s, pc, hs, hrunaway⟩, -, hlength⟩ := hless 6 (by decide)
  obtain rfl : gambler = s := Option.some.inj hs
  exact ⟨hr, hmore 7 (by decide), ⟨pc, hrunaway⟩, hlength, (hless (-1) (by decide)).2.1⟩

end Vivarium.Turn
