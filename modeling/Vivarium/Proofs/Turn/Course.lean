import Vivarium.Proofs.Episode
import Vivarium.Proofs.Turn.Stance

/-!
The course of a turn. Whatever the program and however the turn ends, a creature turns about for a
while, and at most one thing happens after that: it hops, or it takes over the creature ahead.
-/
namespace Vivarium

/-- Where a creature that is taken over starts in its new program. -/
def Program.entry? (p : Program) : Option String → Option Nat
  | none => some 0
  | some name => p.address? name

theorem Program.address?_lt {p : Program} {name : String} {pc : Nat}
    (h : p.address? name = some pc) : pc < p.size :=
  (Array.findIdx?_eq_some_iff_getElem.1 h).1

theorem Program.entry?_le {p : Program} {entry : Option String} {pc : Nat}
    (h : p.entry? entry = some pc) : pc ≤ p.size := by
  cases entry with
  | none => cases h; exact Nat.zero_le _
  | some name => exact Nat.le_of_lt (Program.address?_lt h)

/-- The progress that an outcome reports. -/
def Outcome.progress (o : Outcome) : Progress := .ended o.moved o.infected

namespace Turn

/-- All that a turn, or a part of one, can come to: the world after it, its events, and whether it
was broken off, goes on, or ended in a hop or an infection. The creature first takes up the headings
`hs` one after another. -/
inductive Course (w : World) (me : Nat) : World → List Event → Except Fault Progress → Prop
  | idle (f : Fault) : Course w me w [] (.error f)
  | held {c : Creature} {s : Species} (hs : List Heading) (pc : Nat) {r : Except Fault Progress} :
      w.Actor me c s → pc ≤ s.program.size →
      (∀ moved infected, r = .ok (.ended moved infected) → moved = false ∧ infected = false) →
      Course w me (w.hold me ⟨c.heading.after hs, pc⟩) (hs.map (.turned me c.pos)) r
  | moved {c : Creature} {s : Species} (hs : List Heading) (pc : Nat) (target : Pos) :
      w.Actor me c s → pc ≤ s.program.size → target = c.pos.step (c.heading.after hs) →
      w.grid.Contains c.pos → w.grid.Contains target → w.grid.occupant? target = none →
      Course w me ((w.hold me ⟨c.heading.after hs, pc⟩).move me target).world
        (hs.map (.turned me c.pos) ++ [.moved me c.pos target]) (.ok (.ended true false))
  | infected {c : Creature} {s : Species} (hs : List Heading) (pc : Nat) (other : Nat)
      (p : Pos) (entry : Option String) (start : Nat) :
      w.Actor me c s → pc ≤ s.program.size →
      w.grid.occupant? (c.pos.step (c.heading.after hs)) = some other →
      w.pos? other = some p → .infect entry ∈ s.program.code →
      s.program.entry? entry = some start →
      Course w me ((w.hold me ⟨c.heading.after hs, pc⟩).infect other c.species start).world
        (hs.map (.turned me c.pos) ++ [.changed other p s.colour]) (.ok (.ended false true))

/-- A course that begins where the creature has turned about already. -/
theorem Course.after_hold {w v : World} {me : Nat} {c : Creature} {s : Species} {es : List Event}
    {r : Except Fault Progress} (h : w.Actor me c s) (hs : List Heading) {pc : Nat}
    (hpc : pc ≤ s.program.size) (hv : Course (w.hold me ⟨c.heading.after hs, pc⟩) me v es r) :
    Course w me v (hs.map (.turned me c.pos) ++ es) r := by
  have hactor {c' : Creature} {s' : Species}
      (h' : (w.hold me ⟨c.heading.after hs, pc⟩).Actor me c' s') :
      c' = c.hold ⟨c.heading.after hs, pc⟩ ∧ s' = s := by
    have hc := (h.hold ⟨c.heading.after hs, pc⟩).creature.symm.trans h'.creature
    obtain rfl := Option.some.inj hc
    exact ⟨rfl, Option.some.inj (h'.species.symm.trans h.species)⟩
  cases hv with
  | idle f => simpa using Course.held hs pc h hpc (by simp)
  | held ks pc' h' hpc' hr =>
    obtain ⟨rfl, rfl⟩ := hactor h'
    simpa using Course.held (hs ++ ks) pc' h hpc' hr
  | moved ks pc' target h' hpc' ht hfrom hto hfree =>
    obtain ⟨rfl, rfl⟩ := hactor h'
    simpa using Course.moved (hs ++ ks) pc' target h hpc' (by simpa using ht) hfrom hto hfree
  | infected ks pc' other p entry start h' hpc' ho hp hi hst =>
    obtain ⟨rfl, rfl⟩ := hactor h'
    simpa using Course.infected (hs ++ ks) pc' other p entry start h hpc'
      (by simpa using ho) (by simpa using hp) hi hst

theorem Course.stay {w : World} {me : Nat} {c : Creature} {s : Species} (h : w.Actor me c s)
    (hpc : c.pc ≤ s.program.size) {r : Except Fault Progress}
    (hr : ∀ moved infected, r = .ok (.ended moved infected) → moved = false ∧ infected = false) :
    Course w me w [] r := by
  have hw : w.hold me ⟨c.heading, c.pc⟩ = w := h.hold_stance
  simpa [hw] using Course.held [] c.pc h hpc hr

/-- A jump is a swerve, and then a look-up of the label. -/
theorem jump_eq {w : World} {me : Nat} {c : Creature} {s : Species} (h : w.Actor me c s)
    (chance : Chance) (condition : Condition) (target : String) :
    jump w chance me c s.program condition target =
      let hs := (swerve? c.heading condition).toList
      { world := w.hold me ⟨c.heading.after hs, (s.program.address? target).getD c.pc⟩
        chance
        events := hs.map (.turned me c.pos)
        result := match s.program.address? target with
          | none => .error (.undefinedLabel target)
          | some _ => .ok .goesOn } := by
  have hw : w.hold me ⟨c.heading, c.pc⟩ = w := h.hold_stance
  cases hsw : swerve? c.heading condition with
  | none =>
    simp only [jump, hsw, Episode.andThen, Episode.done]
    cases ha : s.program.address? target with
    | none => simp [Episode.failed, hw]
    | some pc => simp [h.modify_pc]
  | some heading =>
    simp only [jump, hsw, World.turn_eq h.creature, h.modify_heading, Episode.ofChange_eq,
      Episode.andThen]
    cases ha : s.program.address? target with
    | none => simp [Episode.failed]
    | some pc => simp [Episode.done, (h.hold _).modify_pc]

/-- The takeover of a creature that is in the grid, or that the grid only claims to hold. -/
private theorem infect_course {w : World} {me other : Nat} {c : Creature} {s : Species}
    (h : w.Actor me c s) (hpc : c.pc ≤ s.program.size) (chance : Chance) {entry : Option String}
    {start : Nat} (hi : .infect entry ∈ s.program.code) (hst : s.program.entry? entry = some start)
    (ho : w.grid.occupant? c.ahead = some other) :
    let e := Episode.ofChange (w.infect other c.species start) (Progress.ended false true) chance
    Course w me e.world e.events e.result := by
  have hw : w.hold me ⟨c.heading, c.pc⟩ = w := h.hold_stance
  cases hd : w.creatures[other]? with
  | none =>
    simp only [World.infect, hd]
    exact .stay h hpc (by simp [Episode.ofChange, Except.map])
  | some d =>
    have hp : w.pos? other = some d.pos := World.pos?_of_creature hd
    have hinf := Course.infected [] c.pc other d.pos entry start h hpc ho hp hi hst
    rw [World.infect_eq hd h.species, Episode.ofChange_eq]
    simpa [hw, World.infect_eq hd h.species] using hinf

/-- One instruction, evaluated for a creature whose address is advanced already. -/
theorem evaluate_course {w : World} {me : Nat} {c : Creature} {s : Species} (h : w.Actor me c s)
    (hpc : c.pc ≤ s.program.size) (chance : Chance) {i : Instruction} (hi : i ∈ s.program.code) :
    let e := evaluate w chance me c s.program i
    Course w me e.world e.events e.result := by
  have hw : w.hold me ⟨c.heading, c.pc⟩ = w := h.hold_stance
  cases i with
  | hop =>
    simp only [evaluate]
    split
    · next hfree =>
      by_cases hfrom : w.grid.Contains c.pos
      · have hm := Course.moved [] c.pc c.ahead h hpc rfl hfrom hfree.1 hfree.2
        rw [World.move_eq h.creature hfrom hfree.1, Episode.ofChange_eq]
        simpa [hw, World.move_eq h.creature hfrom hfree.1] using hm
      · -- a creature that was spawned outside the grid
        rw [World.move_of_not_contains h.creature hfrom]
        exact .stay h hpc (by simp [Episode.ofChange, Except.map])
    · exact .stay h hpc (by simp)
  | left =>
    simp only [evaluate, World.turn_eq h.creature, h.modify_heading, Episode.ofChange_eq]
    exact .held [c.heading.left] c.pc h hpc (by simp)
  | right =>
    simp only [evaluate, World.turn_eq h.creature, h.modify_heading, Episode.ofChange_eq]
    exact .held [c.heading.right] c.pc h hpc (by simp)
  | infect entry =>
    simp only [evaluate]
    cases ho : w.grid.occupant? c.ahead with
    | none => exact .stay h hpc (by simp)
    | some other =>
      cases entry with
      | none => exact infect_course h hpc chance hi rfl ho
      | some name =>
        cases ha : s.program.address? name with
        | none =>
          simp only [ha]
          exact .stay h hpc (by simp)
        | some start =>
          simp only [ha]
          exact infect_course h hpc chance hi ha ho
  | jump condition target =>
    simp only [evaluate]
    split
    · rw [jump_eq h]
      refine .held _ _ h ?_ ?_
      · cases ha : s.program.address? target with
        | none => simpa using hpc
        | some pc => simpa using Nat.le_of_lt (Program.address?_lt ha)
      · cases s.program.address? target <;> simp
    · exact .stay h hpc (by simp)
  | label name => exact .stay h hpc (by simp [evaluate])

theorem fetch_eq {w : World} {me : Nat} {c : Creature} {s : Species} (h : w.Actor me c s) :
    fetch w me s.program =
      match s.program.code[s.program.wrap c.pc]? with
      | none => .error .noInstruction
      | some i => .ok (c, i, w.hold me ⟨c.heading, s.program.wrap c.pc + 1⟩) := by
  simp only [fetch, h.creature]
  cases s.program.code[s.program.wrap c.pc]? with
  | none => rfl
  | some i => simp only [h.modify_pc]

theorem fetch_eq_ok {w v : World} {me : Nat} {c d : Creature} {s : Species} {i : Instruction}
    (h : w.Actor me c s) (hf : fetch w me s.program = .ok (d, i, v)) :
    d = c ∧ s.program.code[s.program.wrap c.pc]? = some i ∧
      v = w.hold me ⟨c.heading, s.program.wrap c.pc + 1⟩ := by
  rw [fetch_eq h] at hf
  cases hi : s.program.code[s.program.wrap c.pc]? with
  | none => simp [hi] at hf
  | some j =>
    simp only [hi, Except.ok.injEq, Prod.mk.injEq] at hf
    obtain ⟨rfl, rfl, rfl⟩ := hf
    exact ⟨rfl, rfl, rfl⟩

/-- What an instruction does for a creature does not depend on the address. -/
theorem evaluate_hold (w : World) (chance : Chance) (me : Nat) (c : Creature) (p : Program)
    (i : Instruction) (pc : Nat) :
    evaluate w chance me (c.hold ⟨c.heading, pc⟩) p i = evaluate w chance me c p i := by
  cases i with
  | jump condition target => cases condition <;> rfl
  | _ => rfl

theorem fetch_evaluate_course {w v : World} {me : Nat} {c d : Creature} {s : Species}
    {i : Instruction} (h : w.Actor me c s) (hf : fetch w me s.program = .ok (d, i, v))
    (chance : Chance) :
    let e := evaluate v chance me d s.program i
    Course w me e.world e.events e.result := by
  obtain ⟨rfl, hi, rfl⟩ := fetch_eq_ok h hf
  obtain ⟨hlt, rfl⟩ := Array.getElem?_eq_some_iff.1 hi
  have hev := evaluate_course (h.hold ⟨d.heading, s.program.wrap d.pc + 1⟩) hlt chance
    (Array.getElem_mem hlt)
  rw [evaluate_hold] at hev
  exact hev.after_hold h [] hlt

theorem Course.goesOn {w v : World} {me : Nat} {c : Creature} {s : Species} {es : List Event}
    (h : w.Actor me c s) (hv : Course w me v es (.ok .goesOn)) :
    ∃ hs pc, pc ≤ s.program.size ∧ v = w.hold me ⟨c.heading.after hs, pc⟩ ∧
      es = hs.map (.turned me c.pos) := by
  cases hv with
  | held hs pc h' hpc hr =>
    obtain rfl := Option.some.inj (h.creature.symm.trans h'.creature)
    obtain rfl := Option.some.inj (h.species.symm.trans h'.species)
    exact ⟨hs, pc, hpc, rfl, rfl⟩

theorem loop_course {w : World} {me : Nat} {c : Creature} {s : Species} (h : w.Actor me c s)
    (budget : Int) (left steps : Nat) (chance : Chance) :
    let e := loop me s budget left steps w chance
    Course w me e.world e.events (e.result.map Outcome.progress) := by
  induction left generalizing w c steps chance with
  | zero => exact .idle _
  | succ left ih =>
    simp only [loop]
    cases hf : fetch w me s.program with
    | error f => exact .idle f
    | ok fetched =>
      obtain ⟨d, i, v⟩ := fetched
      have hev := fetch_evaluate_course h hf chance
      cases hr : (evaluate v chance me d s.program i).result with
      | error f =>
        simp only [Episode.andThen_of_error hr]
        simpa [hr, Except.map] using hev
      | ok progress =>
        simp only [Episode.andThen_of_ok hr]
        cases progress with
        | ended moved infected => simpa [hr, Except.map, Outcome.progress] using hev
        | goesOn =>
          -- the rest of the turn starts from a new stance of the same creature
          simp only [hr] at hev
          obtain ⟨hs, pc, hpc, hw, hes⟩ := hev.goesOn h
          simp only [hw, hes]
          exact (ih (h.hold _) (steps + 1) _).after_hold h hs hpc

theorem run_course (w : World) (chance : Chance) (me : Nat) (budget : Option Int) :
    let e := run w chance me budget
    Course w me e.world e.events (e.result.map Outcome.progress) := by
  simp only [run]
  cases hs : w.speciesOf? me with
  | none => exact .idle _
  | some s =>
    obtain ⟨c, hc⟩ := World.exists_actor hs
    exact loop_course hc _ _ _ chance

/-- What the three changes of a turn keep, a turn keeps: a new stance of its creature, a hop onto a
free cell, and an infection of whoever the grid shows ahead. -/
theorem run_invariant {P : World → Prop} {w : World} {me : Nat} (hw : P w)
    (hold : ∀ {c s} (t : Stance), w.Actor me c s → t.pc ≤ s.program.size → P (w.hold me t))
    (move : ∀ {v c s}, P v → v.Actor me c s → v.grid.Contains c.pos → v.grid.Contains c.ahead →
      v.grid.occupant? c.ahead = none → P (v.move me c.ahead).world)
    (infect : ∀ {v c s other start}, P v → v.Actor me c s → v.grid.occupant? c.ahead = some other →
      start ≤ s.program.size → P (v.infect other c.species start).world)
    (chance : Chance) (budget : Option Int) : P (run w chance me budget).world := by
  have hcourse := run_course w chance me budget
  dsimp only at hcourse
  generalize (run w chance me budget).world = v, (run w chance me budget).events = es,
    (run w chance me budget).result.map Outcome.progress = r at hcourse ⊢
  cases hcourse with
  | idle => exact hw
  | held hs pc hactor hpc => exact hold _ hactor hpc
  | @moved c s hs pc target hactor hpc ht hfrom hto hfree =>
    subst ht
    exact move (c := c.hold ⟨c.heading.after hs, pc⟩) (hold _ hactor hpc) (hactor.hold _) hfrom
      hto hfree
  | @infected c s hs pc other p entry start hactor hpc ho _ _ hst =>
    exact infect (c := c.hold ⟨c.heading.after hs, pc⟩) (hold _ hactor hpc) (hactor.hold _) ho
      (Program.entry?_le hst)

end Turn
end Vivarium
