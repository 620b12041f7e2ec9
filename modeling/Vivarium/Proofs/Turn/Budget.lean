import Mathlib.Data.Fintype.Prod
import Vivarium.Proofs.Orbit
import Vivarium.Proofs.Turn.Coins
import Vivarium.Proofs.Turn.Course
import Vivarium.Proofs.Turn.Evaluated

/-!
The default budget is enough. Until its turn ends a creature changes nothing but its stance, and as
long as it asks no coin its stance decides what it does. There are four headings to each address,
so a turn that goes on for that many instructions goes on for ever.
-/
namespace Vivarium

instance : Fintype Heading := ⟨⟨Heading.all, by decide⟩, fun d => by cases d <;> decide⟩

theorem Heading.card : Fintype.card Heading = 4 := rfl

namespace Turn

/-- The stance after the next instruction, none if it asks a coin or the turn does not go on. -/
def next? (w : World) (chance : Chance) (me : Nat) (c : Creature) (p : Program) (t : Stance) :
    Option Stance :=
  match p.code[p.wrap t.pc]? with
  | none => none
  | some i =>
    if i.opcode = .jump .random then none
    else
      let e := evaluate (w.hold me ⟨t.heading, p.wrap t.pc + 1⟩) chance me
        (c.hold ⟨t.heading, p.wrap t.pc⟩) p i
      match e.result with
      | .ok .goesOn => e.world.creatures[me]?.map Creature.stance
      | _ => none

/-- All of a stance that matters for what comes next: the place of its address, and its heading. -/
def key {p : Program} (h : 0 < p.size) (t : Stance) : Fin p.size × Heading :=
  (⟨p.wrap t.pc, Program.wrap_lt h t.pc⟩, t.heading)

theorem next?_congr {w : World} {chance : Chance} {me : Nat} {c : Creature} {p : Program}
    (h : 0 < p.size) {t u : Stance} (htu : key h t = key h u) :
    next? w chance me c p t = next? w chance me c p u := by
  simp only [key, Prod.mk.injEq, Fin.mk.injEq] at htu
  simp only [next?, htu]

theorem card_key {size : Nat} (h : 0 < size) :
    Fintype.card (Fin size × Heading) = budgetFor size := by
  rw [Fintype.card_prod, Fintype.card_fin, Heading.card, budgetFor, max_eq_right h]

theorem fetch_hold {w : World} {me : Nat} {c : Creature} {s : Species} (ha : w.Actor me c s)
    (t : Stance) : fetch (w.hold me t) me s.program =
      match s.program.code[s.program.wrap t.pc]? with
      | none => .error .noInstruction
      | some i => .ok (c.hold t, i, w.hold me ⟨t.heading, s.program.wrap t.pc + 1⟩) := by
  rw [fetch_eq (ha.hold t)]
  simp only [Creature.pc_hold]
  cases s.program.code[s.program.wrap t.pc]? with
  | none => rfl
  | some i => simp only [Creature.heading_hold, World.hold_hold]

section Actor

variable {w : World} {me : Nat} {c : Creature} {s : Species} (ha : w.Actor me c s)

include ha

/-- An instruction after which the turn goes on leaves nothing but a new stance. -/
theorem exists_hold {chance : Chance} {t : Stance} {i : Instruction}
    (hi : s.program.code[s.program.wrap t.pc]? = some i)
    (hr : (evaluate (w.hold me ⟨t.heading, s.program.wrap t.pc + 1⟩) chance me
      (c.hold t) s.program i).result = .ok .goesOn) :
    ∃ u, (evaluate (w.hold me ⟨t.heading, s.program.wrap t.pc + 1⟩) chance me
      (c.hold t) s.program i).world = w.hold me u := by
  have hf := fetch_hold ha t
  rw [hi] at hf
  have hcourse := fetch_evaluate_course (ha.hold t) hf chance
  dsimp only at hcourse
  rw [hr] at hcourse
  obtain ⟨hs, pc, -, hv, -⟩ := hcourse.goesOn (ha.hold t)
  rw [World.hold_hold] at hv
  exact ⟨_, hv⟩

theorem next?_eq_some_iff {chance : Chance} {t u : Stance} :
    next? w chance me c s.program t = some u ↔
      ∃ i, s.program.code[s.program.wrap t.pc]? = some i ∧ i.opcode ≠ .jump .random ∧
        let e := evaluate (w.hold me ⟨t.heading, s.program.wrap t.pc + 1⟩) chance me
          (c.hold t) s.program i
        e.result = .ok .goesOn ∧ e.world = w.hold me u := by
  cases hi : s.program.code[s.program.wrap t.pc]? with
  | none => simp [next?, hi]
  | some i =>
    have hsame := evaluate_hold (w.hold me ⟨t.heading, s.program.wrap t.pc + 1⟩) chance me
      (c.hold t) s.program i (s.program.wrap t.pc)
    simp only [Creature.heading_hold, Creature.hold_hold] at hsame
    simp only [next?, hi, hsame, Option.some.injEq, exists_eq_left']
    by_cases hrandom : i.opcode = .jump .random
    · simp [hrandom]
    · simp only [hrandom, if_false, ne_eq, not_false_eq_true, true_and]
      cases hr : (evaluate (w.hold me ⟨t.heading, s.program.wrap t.pc + 1⟩) chance me
          (c.hold t) s.program i).result with
      | error f => simp
      | ok progress =>
        cases progress with
        | ended moved infected => simp
        | goesOn =>
          obtain ⟨v, hv⟩ := exists_hold ha hi hr
          simp [hv, (ha.hold v).creature, ha.hold_inj]

theorem exists_evaluate {chance : Chance} {t u : Stance}
    (h : next? w chance me c s.program t = some u) :
    ∃ i, s.program.code[s.program.wrap t.pc]? = some i ∧
      let e := evaluate (w.hold me ⟨t.heading, s.program.wrap t.pc + 1⟩) chance me
        (c.hold t) s.program i
      e.result = .ok .goesOn ∧ e.world = w.hold me u ∧ e.chance = chance := by
  obtain ⟨i, hi, hrandom, hr, hw⟩ := (next?_eq_some_iff ha).1 h
  refine ⟨i, hi, hr, hw, ?_⟩
  rw [chance_evaluate, if_neg hrandom]

theorem loop_of_next? {chance : Chance} {t u : Stance}
    (h : next? w chance me c s.program t = some u) (budget : Int) (left steps : Nat) :
    (loop me s budget (left + 1) steps (w.hold me t) chance).result =
      (loop me s budget left (steps + 1) (w.hold me u) chance).result := by
  obtain ⟨i, hi, hr, hw, hchance⟩ := exists_evaluate ha h
  rw [loop, fetch_hold ha, hi]
  dsimp only
  rw [Episode.andThen_of_ok hr, hw, hchance]

theorem evaluatedWithin_of_next? {chance : Chance} {t u : Stance}
    (h : next? w chance me c s.program t = some u) (left : Nat) :
    ∃ i, evaluatedWithin me s.program (left + 1) (w.hold me t) chance =
      i :: evaluatedWithin me s.program left (w.hold me u) chance := by
  obtain ⟨i, hi, hr, hw, hchance⟩ := exists_evaluate ha h
  refine ⟨i, ?_⟩
  rw [evaluatedWithin, fetch_hold ha, hi]
  simp only [hr, hw, hchance]

/-- A turn that runs away goes on past its next instruction. -/
theorem exists_next? {chance : Chance} {t : Stance} {budget b : Int} {left steps pc : Nat}
    {name : String} (hr : (loop me s budget (left + 1) steps (w.hold me t) chance).result =
      .error (.runaway name b pc))
    (hc : ∀ i ∈ evaluatedWithin me s.program (left + 1) (w.hold me t) chance,
      i.opcode ≠ .jump .random) :
    ∃ u, next? w chance me c s.program t = some u := by
  cases hi : s.program.code[s.program.wrap t.pc]? with
  | none => simp [loop, fetch_hold ha, hi, Episode.failed] at hr
  | some i =>
    rw [evaluatedWithin, fetch_hold ha, hi] at hc
    rw [loop, fetch_hold ha, hi] at hr
    dsimp only at hr
    cases he : (evaluate (w.hold me ⟨t.heading, s.program.wrap t.pc + 1⟩) chance me
        (c.hold t) s.program i).result with
    | error f =>
      rw [Episode.andThen_of_error he] at hr
      cases hr
      exact (evaluate_ne_runaway _ _ _ _ _ _ _ _ _ he).elim
    | ok progress =>
      rw [Episode.andThen_of_ok he] at hr
      cases progress with
      | ended moved infected => cases hr
      | goesOn =>
        obtain ⟨u, hu⟩ := exists_hold ha hi he
        exact ⟨u, (next?_eq_some_iff ha).2 ⟨i, hi, hc i (List.mem_cons_self ..), he, hu⟩⟩

theorem orbit_of_runaway {budget b : Int} {left steps pc : Nat} {chance : Chance} {t : Stance}
    {name : String} (hr : (loop me s budget left steps (w.hold me t) chance).result =
      .error (.runaway name b pc))
    (hc : ∀ i ∈ evaluatedWithin me s.program left (w.hold me t) chance,
      i.opcode ≠ .jump .random) :
    (orbit (next? w chance me c s.program) left t).isSome ∧ name = s.name ∧ b = budget := by
  induction left generalizing t steps with
  | zero =>
    simp only [loop, Episode.failed, Except.error.injEq, Fault.runaway.injEq] at hr
    exact ⟨rfl, hr.1.symm, hr.2.1.symm⟩
  | succ left ih =>
    obtain ⟨u, hu⟩ := exists_next? ha hr hc
    obtain ⟨i, hcons⟩ := evaluatedWithin_of_next? ha hu left
    rw [loop_of_next? ha hu] at hr
    rw [hcons] at hc
    rw [orbit, hu]
    exact ih hr fun j hj => hc j (List.mem_cons_of_mem _ hj)

theorem runaway_of_orbit {left : Nat} {chance : Chance} {t : Stance}
    (h : (orbit (next? w chance me c s.program) left t).isSome) (budget : Int) (steps : Nat) :
    ∃ pc, (loop me s budget left steps (w.hold me t) chance).result =
      .error (.runaway s.name budget pc) := by
  induction left generalizing t steps with
  | zero => exact ⟨_, rfl⟩
  | succ left ih =>
    rw [orbit] at h
    cases hu : next? w chance me c s.program t with
    | none => simp [hu] at h
    | some u =>
      rw [hu] at h
      rw [loop_of_next? ha hu]
      exact ih h (steps + 1)

theorem size_pos_of_next? {chance : Chance} {t u : Stance}
    (h : next? w chance me c s.program t = some u) : 0 < s.program.size := by
  obtain ⟨i, hi, -⟩ := exists_evaluate ha h
  exact Nat.zero_lt_of_lt (Array.getElem?_eq_some_iff.1 hi).1

/-- A way of as many instructions as the default budget never ends. -/
theorem orbit_isSome {chance : Chance} {t : Stance}
    (h : (orbit (next? w chance me c s.program) (budgetFor s.program.size) t).isSome) :
    0 < s.program.size ∧ ∀ n, (orbit (next? w chance me c s.program) n t).isSome := by
  -- an empty program stops at its first instruction, whatever its budget
  have hsize : 0 < s.program.size := by
    have hone : 1 ≤ budgetFor s.program.size := by
      rw [budgetFor]
      omega
    have hfirst := orbit_isSome_of_le hone h
    cases hu : next? w chance me c s.program t with
    | none => simp [orbit, hu] at hfirst
    | some u => exact size_pos_of_next? ha hu
  rw [← card_key hsize] at h
  exact ⟨hsize, orbit_isSome_of_card (fun _ _ => next?_congr hsize) h⟩

end Actor

/-- A turn that uses up the default budget without a coin runs away on every other budget too. -/
theorem runaway_for_every_budget {w : World} {chance : Chance} {me : Nat} {name : String}
    {b : Int} {pc : Nat} (hr : (run w chance me).result = .error (.runaway name b pc))
    (hc : ∀ i ∈ evaluated w chance me, i.opcode ≠ .jump .random) :
    ∃ s, w.speciesOf? me = some s ∧ b = 4 * s.program.size ∧
      ∀ more : Int, ∃ address, (run w chance me (some more)).result =
        .error (.runaway name more address) := by
  cases hs : w.speciesOf? me with
  | none => simp [run, hs, Episode.failed] at hr
  | some s =>
    obtain ⟨c, ha⟩ := World.exists_actor hs
    have hw : w.hold me c.stance = w := ha.hold_stance
    simp only [run, hs, Option.getD_none, Int.toNat_natCast] at hr
    simp only [evaluated, hs, Option.getD_none, Int.toNat_natCast] at hc
    rw [← hw] at hr hc
    obtain ⟨horbit, rfl, rfl⟩ := orbit_of_runaway ha hr hc
    obtain ⟨hsize, hever⟩ := orbit_isSome ha horbit
    refine ⟨s, rfl, by rw [budgetFor]; omega, fun more => ?_⟩
    have hmore := runaway_of_orbit ha (hever more.toNat) more 0
    rw [hw] at hmore
    simpa only [run, hs, Option.getD_some] using hmore

def spinner : Species := ⟨"Spinner", ⟨0, 0, 0⟩, ⟨#[.label "spin", .jump .wall "spin"]⟩⟩

theorem runaway_for_every_budget_walled_in :
    let still : Chance := ⟨[], [], ⟨#[], 0⟩⟩
    let w : World := ⟨.empty 1 1, [spinner], [⟨0, ⟨0, 0⟩, .north, 0⟩]⟩
    (run w still 0).result = .error (.runaway "Spinner" 8 0) ∧
      ∀ more : Int, ∃ address, (run w still 0 (some more)).result =
        .error (.runaway "Spinner" more address) := by
  intro still w
  have hr : (run w still 0).result = .error (.runaway "Spinner" 8 0) := by decide +kernel
  obtain ⟨s, hs, -, hmore⟩ := runaway_for_every_budget hr (by decide +kernel)
  obtain rfl : spinner = s := Option.some.inj hs
  exact ⟨hr, hmore⟩

end Turn
end Vivarium
