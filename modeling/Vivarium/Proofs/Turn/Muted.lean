import Vivarium.Proofs.Round.Whole
import Vivarium.Proofs.World.Known
import Vivarium.Proofs.World.Muted

/-!
Nobody is ever ahead of itself, so it makes no difference to ask. Whatever is done to a world with
muted programs comes to what it comes to with the programs as they were.
-/
namespace Vivarium

def Episode.mute {α : Type} (names : Nat → Nat → String) (e : Episode α) : Episode α :=
  { e with world := e.world.mute names }

def Act.mute (names : Nat → Nat → String) (w : World) : Act → Act
  | .enrol s => .enrol (s.mute (names w.species.length))
  | a => a

namespace Episode

variable {α β : Type} (names : Nat → Nat → String)

theorem result_mute (e : Episode α) : (e.mute names).result = e.result := rfl

theorem mute_ofChange (change : Change) (a : α) (chance : Chance) :
    (ofChange change a chance).mute names = ofChange (change.mute names) a chance := rfl

theorem mute_andThen {e : Episode α} {next next' : α → World → Chance → Episode β}
    (h : ∀ a, e.result = .ok a →
      next' a (e.world.mute names) e.chance = (next a e.world e.chance).mute names) :
    (e.mute names).andThen next' = (e.andThen next).mute names := by
  obtain ⟨w, chance, es, ns, r⟩ := e
  cases r with
  | error f => rfl
  | ok a =>
    have hnext : next' a (w.mute names) chance = (next a w chance).mute names := h a rfl
    simp [mute, andThen, hnext]

theorem mute_map (e : Episode α) (f : α → β) : (e.mute names).map f = (e.map f).mute names := rfl

end Episode

theorem World.Actor.mute {w : World} {me : Nat} {c : Creature} {s : Species} (h : w.Actor me c s)
    (names : Nat → Nat → String) :
    (w.mute names).Actor me c (s.mute (names c.species)) :=
  ⟨h.creature, by rw [getElem?_mute, h.species, Option.map_some]⟩

theorem World.speciesOf?_mute_eq_none {w : World} {me : Nat} (names : Nat → Nat → String)
    (h : w.speciesOf? me = none) : (w.mute names).speciesOf? me = none := by
  have hcreatures : (w.mute names).creatures = w.creatures := rfl
  unfold speciesOf? at h ⊢
  rw [hcreatures]
  cases hc : w.creatures[me]? with
  | none => rfl
  | some c =>
    have hs : w.species[c.species]? = none := by simpa [hc] using h
    simp [getElem?_mute, hs]

namespace Turn

/-- To ask whether it is ahead of itself does nothing for a creature, whatever stance it has taken
up since its turn began. -/
theorem evaluate_same {w : World} (ht : w.Truthful) {me : Nat} {c : Creature}
    (hc : w.creatures[me]? = some c) (t u : Stance) (chance : Chance) (p : Program)
    (target : String) :
    evaluate (w.hold me t) chance me (c.hold u) p (.jump .same target) =
      .done .goesOn (w.hold me t) chance := by
  have hno : (holds (w.hold me t) chance me (c.hold u) .same).1 = false :=
    decide_eq_false (ht.ahead_ne hc u.heading)
  simp only [evaluate, hno]
  rfl

theorem holds_mute (names : Nat → Nat → String) (w : World) (chance : Chance) (me : Nat)
    (c : Creature) (condition : Condition) :
    holds (w.mute names) chance me c condition = holds w chance me c condition := by
  cases condition <;> rfl

theorem jump_mute {p q : Program} {target : String} (h : q.address? target = p.address? target)
    (names : Nat → Nat → String) (w : World) (chance : Chance) (me : Nat) (c : Creature)
    (condition : Condition) :
    jump (w.mute names) chance me c q condition target =
      (jump w chance me c p condition target).mute names := by
  unfold jump
  rw [h]
  cases swerve? c.heading condition with
  | none => cases p.address? target <;> rfl
  | some heading =>
    simp only [w.mute_turn, ← Episode.mute_ofChange]
    refine Episode.mute_andThen names fun _ _ => ?_
    cases p.address? target <;> rfl

theorem evaluate_mute {w : World} {chance : Chance} {me : Nat} {c : Creature} {p : Program}
    (hsame : ∀ target, evaluate w chance me c p (.jump .same target) = .done .goesOn w chance)
    {new : Nat → String} (hlacks : p.Lacks new) {i : Instruction} (hi : i ∈ p.code)
    (names : Nat → Nat → String) (address : Nat) :
    evaluate (w.mute names) chance me c (p.mute new) (i.mute (new address)) =
      (evaluate w chance me c p i).mute names := by
  have hgrid : (w.mute names).grid = w.grid := rfl
  rcases i.mute_eq_or (new address) with heq | ⟨target, rfl⟩
  · rw [heq]
    cases i with
    | hop =>
      simp only [evaluate, hgrid]
      split
      · rw [Episode.mute_ofChange, w.mute_move]
      · rfl
    | left => simp only [evaluate, Episode.mute_ofChange, w.mute_turn]
    | right => simp only [evaluate, Episode.mute_ofChange, w.mute_turn]
    | infect entry =>
      simp only [evaluate, hgrid, w.mute_infect, ← Episode.mute_ofChange]
      cases w.grid.occupant? c.ahead with
      | none => rfl
      | some other =>
        cases entry with
        | none => rfl
        | some name =>
          simp only [hlacks.address?_mute hi rfl]
          cases p.address? name <;> rfl
    | jump condition target =>
      simp only [evaluate, holds_mute]
      split
      · exact jump_mute (hlacks.address?_mute hi rfl) names w _ me c condition
      · rfl
    | label name => rfl
  · rw [hsame target]
    rfl

theorem fetch_mute (names : Nat → Nat → String) (w : World) (me : Nat) (p : Program)
    (new : Nat → String) :
    fetch (w.mute names) me (p.mute new) = match fetch w me p with
      | .error f => .error f
      | .ok (c, i, v) => .ok (c, i.mute (new (p.wrap c.pc)), v.mute names) := by
  have hcreatures : (w.mute names).creatures = w.creatures := rfl
  unfold fetch
  rw [hcreatures]
  cases w.creatures[me]? with
  | none => rfl
  | some c =>
    simp only [Program.wrap_mute, Program.getElem?_mute]
    cases p.code[p.wrap c.pc]? <;> rfl

theorem loop_mute {w : World} (ht : w.Truthful) {me : Nat} {c : Creature} {s : Species}
    (ha : w.Actor me c s) {new : Nat → String} (hlacks : s.program.Lacks new)
    (names : Nat → Nat → String) (budget : Int) (left steps : Nat) (chance : Chance) :
    loop me (s.mute new) budget left steps (w.mute names) chance =
      (loop me s budget left steps w chance).mute names := by
  induction left generalizing w c steps chance with
  | zero => rfl
  | succ left ih =>
    have hprogram : (s.mute new).program = s.program.mute new := rfl
    cases hf : fetch w me s.program with
    | error f =>
      simp only [loop, hprogram, fetch_mute, hf]
      rfl
    | ok fetched =>
      obtain ⟨d, i, v⟩ := fetched
      obtain ⟨rfl, hi, rfl⟩ := fetch_eq_ok ha hf
      have hsame (target : String) :
          evaluate (w.hold me ⟨d.heading, s.program.wrap d.pc + 1⟩) chance me d s.program
            (.jump .same target) = .done .goesOn (w.hold me _) chance :=
        evaluate_same ht ha.creature _ d.stance chance s.program target
      simp only [loop, hprogram, fetch_mute, hf,
        evaluate_mute hsame hlacks (Array.mem_of_getElem? hi)]
      refine Episode.mute_andThen names fun progress hr => ?_
      cases progress with
      | ended moved infected =>
        rcases i.mute_eq_or (new (s.program.wrap d.pc)) with heq | ⟨target, rfl⟩
        · rw [heq]
          rfl
        · rw [hsame target] at hr
          cases hr
      | goesOn =>
        -- the creature has only turned about, so the grid is still truthful
        have hcourse := fetch_evaluate_course ha hf chance
        simp only [hr] at hcourse
        obtain ⟨hs, pc, -, hheld, -⟩ := hcourse.goesOn ha
        rw [hheld]
        exact ih (ht.hold me _) (ha.hold _) _ _

section Run

variable {names : Nat → Nat → String} {w : World} (ht : w.Truthful) (hlacks : w.Lacks names)

include ht hlacks

theorem run_mute (chance : Chance) (me : Nat) (budget : Option Int) :
    run (w.mute names) chance me budget = (run w chance me budget).mute names := by
  cases hs : w.speciesOf? me with
  | none =>
    have hnone : (w.mute names).speciesOf? me = none := World.speciesOf?_mute_eq_none names hs
    simp only [run, hs, hnone]
    rfl
  | some s =>
    obtain ⟨c, ha⟩ := World.exists_actor hs
    have hsize : (s.mute (names c.species)).program.size = s.program.size :=
      Program.size_mute _ _
    simp only [run, hs, (ha.mute names).speciesOf?, hsize]
    exact loop_mute ht ha (hlacks _ s ha.species) names _ _ 0 chance

theorem take_mute (chance : Chance) (me : Nat) :
    take (w.mute names) chance me = (take w chance me).mute names := by
  unfold take
  rw [run_mute ht hlacks]
  generalize run w chance me = turn
  obtain ⟨v, chance, es, ns, r⟩ := turn
  cases r with
  | ok o => rfl
  | error f => cases f <;> rfl

theorem takeAll_mute (order : List Nat) (chance : Chance) :
    takeAll order (w.mute names) chance = (takeAll order w chance).mute names := by
  induction order generalizing w chance with
  | nil => rfl
  | cons me rest ih =>
    simp only [takeAll, take_mute ht hlacks]
    refine Episode.mute_andThen names fun o _ => ?_
    rw [world_take, ih (ht.act _) (hlacks.congr (Act.species_after_turn w me chance none)),
      Episode.mute_map]

end Run

end Turn

theorem Round.run_mute {names : Nat → Nat → String} {w : World} (ht : w.Truthful)
    (hlacks : w.Lacks names) (number : Int) (chance : Chance) :
    run number (w.mute names) chance = (run number w chance).mute names := by
  have hcreatures : (w.mute names).creatures = w.creatures := rfl
  unfold run
  rw [hcreatures]
  simp only [turns_eq_takeAll, Turn.takeAll_mute ht hlacks, Episode.mute_map]

namespace Act

variable {names : Nat → Nat → String} {w : World}

/-- A table of species only ever grows. -/
theorem lacks_of_after {a : Act} (h : (a.after w).Lacks names) : w.Lacks names := by
  cases a with
  | enrol s =>
    intro n t ht
    have hlt := (List.getElem?_eq_some_iff.1 ht).1
    exact h n t ((List.getElem?_append_left hlt).trans ht)
  | spawn species p heading => exact h.congr (by rw [after, World.world_spawn])
  | turn me chance budget => exact h.congr (species_after_turn w me chance budget).symm

theorem after_mute (ht : w.Truthful) (hlacks : w.Lacks names) (a : Act) :
    (a.mute names w).after (w.mute names) = (a.after w).mute names ∧
      (a.mute names w).events (w.mute names) = a.events w := by
  cases a with
  | enrol s => exact ⟨w.mute_addSpecies names s, rfl⟩
  | spawn species p heading =>
    simp only [mute, after, events, w.mute_spawn]
    exact ⟨rfl, rfl⟩
  | turn me chance budget =>
    simp only [mute, after, events, Turn.run_mute ht hlacks]
    exact ⟨rfl, rfl⟩

theorem Placed.mute {a : Act} (h : Placed w a) : Placed (w.mute names) (a.mute names w) := by
  cases a with
  | spawn species p heading => exact ⟨by simpa [World.mute] using h.1, h.2⟩
  | _ => trivial

end Act

/-- Muted from the beginning, a run comes to the muted world, and tells the same events. -/
theorem Run.mute {names : Nat → Nat → String} {start w : World} {es : List Event}
    (ht : start.Truthful) (h : Run Act.Placed start es w) (hlacks : w.Lacks names) :
    Run Act.Placed (start.mute names) es (w.mute names) := by
  induction h with
  | start => exact .start
  | @act es v a hv ha ih =>
    have hbefore : v.Lacks names := Act.lacks_of_after hlacks
    have htruth : v.Truthful := hv.invariant (fun _ b hu _ => hu.act b) ht
    obtain ⟨hafter, hevents⟩ := Act.after_mute htruth hbefore a
    rw [← hafter, ← hevents]
    exact (ih hbefore).act ha.mute

namespace World

/-- It is idle for a creature to ask whether it is ahead of itself: it does not turn, and it does
not jump. So the muted world, whose programs can run like any others, is reached like the world
itself, with the same events; and single turns with any budget, turns in any order, and rounds come
to the same in both of them. -/
theorem mute_changes_nothing {width height : Int} {start w : World} {es : List Event}
    (hstart : create? width height = some start) (hrun : Run Act.Placed start es w)
    {names : Nat → Nat → String} (hlacks : w.Lacks names) :
    (∀ (me : Nat) (c : Creature), w.creatures[me]? = some c →
      ∀ (t u : Stance) (chance : Chance) (p : Program) (target : String),
        Turn.evaluate (w.hold me t) chance me (c.hold u) p (.jump .same target) =
          .done .goesOn (w.hold me t) chance) ∧
    (∀ (n : Nat) (s : Species), w.species[n]? = some s → s.program.WellFormed →
      Function.Injective (names n) → (s.mute (names n)).program.WellFormed) ∧
    Run Act.Placed start es (w.mute names) ∧
    ∀ chance : Chance,
      (∀ me budget, Turn.run (w.mute names) chance me budget =
        (Turn.run w chance me budget).mute names) ∧
      (∀ order, Turn.takeAll order (w.mute names) chance =
        (Turn.takeAll order w chance).mute names) ∧
      ∀ number, Round.run number (w.mute names) chance =
        (Round.run number w chance).mute names := by
  have hreachable : w.Reachable Act.Placed := ⟨width, height, start, es, hstart, hrun⟩
  have ht := truthful_of_reachable hreachable
  have hempty : start.mute names = start := by
    unfold create? at hstart
    split at hstart
    · cases hstart
    · obtain rfl := Option.some.inj hstart
      rfl
  have hmuted := hrun.mute (vacant_of_create? hstart).truthful hlacks
  rw [hempty] at hmuted
  exact ⟨fun me c hc t u chance p target => Turn.evaluate_same ht hc t u chance p target,
    fun n s hn hs hnames => hs.mute (hlacks n s hn) hnames, hmuted,
    fun chance => ⟨fun me budget => Turn.run_mute ht hlacks chance me budget,
      fun order => Turn.takeAll_mute ht hlacks order chance,
      fun number => Round.run_mute ht hlacks number chance⟩⟩

/-- A species whose creatures hop unless they are ahead of themselves. -/
def narcissus : Species := ⟨"Narcissus", ⟨0, 0, 0⟩, ⟨#[.jump .same "away", .hop, .label "away"]⟩⟩

/-- One creature hops out of the cell that another has taken from it; the other faces the wall. -/
theorem mute_changes_nothing_overlap :
    let names : Nat → Nat → String := fun _ _ => "idle"
    let start : World := ⟨.empty 2 1, [], []⟩
    let w := (Act.spawn 0 ⟨0, 0⟩ .north).after <| (Act.spawn 0 ⟨0, 0⟩ .east).after <|
      (Act.enrol narcissus).after start
    let chance : Chance := ⟨[], [], ⟨#[], 0⟩⟩
    w.Lacks names ∧ (w.mute names).species.map (·.program) =
      [⟨#[.label "idle", .hop, .label "away"]⟩] ∧
      (∃ es, Run Act.Placed start es (w.mute names)) ∧
      (Turn.takeAll [0, 1] (w.mute names) chance).result =
        .ok [some ⟨.hop, 2, true, false⟩, some ⟨.hop, 2, false, false⟩] := by
  intro names start w chance
  have hlacks : w.Lacks names := by
    intro n s hs
    obtain rfl := List.mem_singleton.1 (List.mem_of_getElem? hs)
    simp [Program.Lacks, narcissus, names, Instruction.operand?]
  have hrun : Run Act.Placed start _ w :=
    .act (.act (.act .start ⟨⟩) ⟨by decide, by decide⟩) ⟨by decide, by decide⟩
  have hstart : create? 2 1 = some start := rfl
  obtain ⟨-, -, hmuted, hsame⟩ := mute_changes_nothing hstart hrun hlacks
  refine ⟨hlacks, by decide +kernel, ⟨_, hmuted⟩, ?_⟩
  rw [(hsame chance).2.1 [0, 1], Episode.result_mute]
  decide +kernel

end World
end Vivarium
