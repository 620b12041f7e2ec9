import Mathlib.Data.List.Iterate
import Vivarium.Proofs.Completion
import Vivarium.Proofs.Turn.Evaluated

/-! What a turn that runs away has done. Its creature has done nothing but turn left, once for each
wall that it has met; as nothing takes that back, such a turn need not be without effect. -/
namespace Vivarium.Turn

theorem holds_same {w : World} (ht : w.Truthful) {me : Nat} {c : Creature}
    (hc : w.creatures[me]? = some c) (chance : Chance) :
    (holds w chance me c .same).1 = false :=
  decide_eq_false (ht.ahead_ne hc c.heading)

/-- The creature turns left before the next instruction: it has asked for a wall, and there is
one. -/
def Bumps (w : World) (c : Creature) (i : Instruction) : Prop :=
  i.opcode = .jump .wall ∧ ¬ w.grid.Contains c.ahead

instance (w : World) (c : Creature) (i : Instruction) : Decidable (Bumps w c i) :=
  inferInstanceAs (Decidable (_ ∧ _))

/-- The headings that a creature takes up by evaluating an instruction after which it goes on. -/
def turnings (w : World) (c : Creature) (i : Instruction) : List Heading :=
  if Bumps w c i then [c.heading.left] else []

theorem swerve?_eq_turnings {w : World} (ht : w.Truthful) {me : Nat} {c : Creature}
    (hc : w.creatures[me]? = some c) {chance : Chance} {condition : Condition}
    (h : (holds w chance me c condition).1 = true) (target : String) :
    (swerve? c.heading condition).toList = turnings w c (.jump condition target) := by
  cases condition with
  | same => simp [holds_same ht hc] at h
  | wall =>
    have hout : ¬ w.grid.Contains c.ahead := by simpa [holds] using h
    simp [swerve?, turnings, Bumps, Instruction.opcode, hout]
  | _ => simp [swerve?, turnings, Bumps, Instruction.opcode]

theorem goesOn_cases {w : World} {chance : Chance} {me : Nat} {c : Creature} {p : Program}
    {i : Instruction} (h : (evaluate w chance me c p i).result = .ok .goesOn) :
    (∃ condition target, i = .jump condition target) ∨ ∃ name, i = .label name := by
  cases i with
  | jump condition target => exact .inl ⟨condition, target, rfl⟩
  | label name => exact .inr ⟨name, rfl⟩
  | hop =>
    simp only [evaluate] at h
    split at h
    · cases Episode.ofChange_ok h
    · simp at h
  | left => cases Episode.ofChange_ok h
  | right => cases Episode.ofChange_ok h
  | infect entry =>
    simp only [evaluate] at h
    split at h
    · simp at h
    · cases entry with
      | none => cases Episode.ofChange_ok h
      | some name =>
        dsimp only at h
        split at h
        · simp at h
        · cases Episode.ofChange_ok h

theorem evaluate_goesOn {w : World} (ht : w.Truthful) {me : Nat} {c : Creature} {s : Species}
    (h : w.Actor me c s) {chance : Chance} {i : Instruction}
    (hr : (evaluate w chance me c s.program i).result = .ok .goesOn) :
    ∃ pc, (evaluate w chance me c s.program i).world =
        w.hold me ⟨c.heading.after (turnings w c i), pc⟩ ∧
      (evaluate w chance me c s.program i).events = (turnings w c i).map (.turned me c.pos) := by
  have hw : w.hold me ⟨c.heading, c.pc⟩ = w := h.hold_stance
  rcases goesOn_cases hr with ⟨condition, target, rfl⟩ | ⟨name, rfl⟩
  · simp only [evaluate]
    by_cases htaken : (holds w chance me c condition).1 = true
    · rw [if_pos htaken, jump_eq h, swerve?_eq_turnings ht h.creature htaken target]
      exact ⟨_, rfl, rfl⟩
    · have hnone : turnings w c (.jump condition target) = [] := by
        refine if_neg fun hbump => htaken ?_
        obtain ⟨hcond, hout⟩ := hbump
        obtain rfl : condition = .wall := by simpa [Instruction.opcode] using hcond
        simpa [holds] using hout
      rw [if_neg htaken, hnone]
      exact ⟨c.pc, hw.symm, rfl⟩
  · exact ⟨c.pc, hw.symm, rfl⟩

theorem fetch_evaluate_goesOn {w v : World} (ht : w.Truthful) {me : Nat} {c d : Creature}
    {s : Species} {chance : Chance} {i : Instruction} (h : w.Actor me c s)
    (hf : fetch w me s.program = .ok (d, i, v))
    (hr : (evaluate v chance me d s.program i).result = .ok .goesOn) :
    ∃ pc, (evaluate v chance me d s.program i).world =
        w.hold me ⟨c.heading.after (turnings w c i), pc⟩ ∧
      (evaluate v chance me d s.program i).events = (turnings w c i).map (.turned me c.pos) := by
  obtain ⟨rfl, -, rfl⟩ := fetch_eq_ok h hf
  have hold := h.hold ⟨d.heading, s.program.wrap d.pc + 1⟩
  rw [← evaluate_hold _ _ _ _ _ _ (s.program.wrap d.pc + 1)] at hr ⊢
  obtain ⟨pc, hworld, hevents⟩ := evaluate_goesOn (ht.hold me _) hold hr
  rw [World.hold_hold] at hworld
  exact ⟨pc, hworld, hevents⟩

/-- A turn that runs away leaves its creature in another stance: it has turned left a number of
times, and never if there was no wall ahead at first or if no instruction has asked for one. -/
theorem loop_runaway {w : World} (ht : w.Truthful) {me : Nat} {c : Creature} {s : Species}
    (h : w.Actor me c s) {budget b : Int} {left steps address : Nat} {chance : Chance}
    {name : String} (hr : (loop me s budget left steps w chance).result =
      .error (.runaway name b address)) :
    ∃ n pc, let hs := List.iterate Heading.left c.heading.left n
      (loop me s budget left steps w chance).world = w.hold me ⟨c.heading.after hs, pc⟩ ∧
        (loop me s budget left steps w chance).events = hs.map (.turned me c.pos) ∧
        (n = 0 ↔ w.grid.Contains c.ahead ∨
          ∀ i ∈ evaluatedWithin me s.program left w chance, i.opcode ≠ .jump .wall) := by
  induction left generalizing w c steps chance with
  | zero => exact ⟨0, c.pc, h.hold_stance.symm, rfl, by simp [evaluatedWithin]⟩
  | succ left ih =>
    obtain ⟨d, i, v, hf, hev, hrest⟩ := goesOn_of_runaway hr
    obtain ⟨pc, hworld, hevents⟩ := fetch_evaluate_goesOn ht h hf hev
    rw [loop_of_goesOn hf hev, evaluatedWithin_of_goesOn hf hev]
    dsimp only at hrest ⊢
    rw [hworld] at hrest ⊢
    rw [hevents]
    obtain ⟨n, pc', hworld', hevents', hiff⟩ := ih (ht.hold me _) (h.hold _) hrest
    rw [hworld', hevents', World.hold_hold]
    -- until it bumps, the creature keeps the heading that the question of a wall ahead is about
    by_cases hbump : Bumps w c i
    · refine ⟨n + 1, pc', ?_, ?_, ?_⟩
      · simp [turnings, hbump, List.iterate]
      · simp [turnings, hbump, List.iterate]
      · simp [hbump.1, hbump.2]
    · have hnone : turnings w c i = [] := if_neg hbump
      refine ⟨n, pc', ?_, ?_, ?_⟩
      · simp [hnone]
      · simp [hnone]
      · rw [hiff, List.forall_mem_cons, hnone]
        change w.grid.Contains c.ahead ∨ _ ↔ _
        refine or_congr_right' fun hout => (and_iff_right ?_).symm
        exact fun hwall => hbump ⟨hwall, hout⟩

theorem take_eq_none {w : World} {chance : Chance} {me : Nat}
    (h : (take w chance me).result = .ok none) :
    ∃ name b pc, (run w chance me).result = .error (.runaway name b pc) := by
  unfold take at h
  dsimp only at h
  split at h
  · next name b pc hr => exact ⟨name, b, pc, hr⟩
  · cases hr : (run w chance me).result <;> simp [Episode.map, hr, Except.map] at h

/-- What a turn that is given up has done: its creature has turned left, some number of times, and
has told so each time. It has done nothing at all just when no wall was ahead at first, or none was
asked for. -/
theorem given_up_turns_left {rule : World → Act → Prop} {w : World} (h : w.Reachable rule)
    {chance : Chance} {me : Nat} (hr : (take w chance me).result = .ok none) :
    ∃ c s n pc, w.Actor me c s ∧
      let hs := List.iterate Heading.left c.heading.left n
      (take w chance me).world = w.hold me ⟨c.heading.after hs, pc⟩ ∧
        (take w chance me).events = hs.map (.turned me c.pos) ∧
        (n = 0 ↔ w.grid.Contains c.ahead ∨
          ∀ i ∈ evaluated w chance me, i.opcode ≠ .jump .wall) := by
  obtain ⟨name, b, address, hrun⟩ := take_eq_none hr
  rw [world_take, events_take]
  simp only [Act.after, Act.events, evaluated, run] at hrun ⊢
  cases hs : w.speciesOf? me with
  | none => simp [hs] at hrun
  | some s =>
    obtain ⟨c, ha⟩ := World.exists_actor hs
    simp only [hs] at hrun
    obtain ⟨n, pc, hloop⟩ := loop_runaway (World.truthful_of_reachable h) ha hrun
    exact ⟨c, s, n, pc, ha, hloop⟩

def dizzy : Species :=
  ⟨"Dizzy", ⟨0, 0, 0⟩, ⟨#[.jump .wall "loop", .label "loop", .jump .always "loop"]⟩⟩

/-- A creature between walls on all sides, about to take its first turn. -/
def cornered : World :=
  (Act.spawn 0 ⟨0, 0⟩ .north).after <| (Act.enrol dizzy).after ⟨.empty 1 1, [], []⟩

theorem cornered_reachable : cornered.Reachable Act.Lawful := by
  have hdizzy : Species.ofSource "Dizzy\nifwall loop\nloop:\ngo loop" ⟨0, 0, 0⟩ = .ok dizzy := by
    decide +kernel
  exact ⟨1, 1, ⟨.empty 1 1, [], []⟩, _, rfl,
    .act (.act .start ⟨_, _, hdizzy⟩) ⟨by decide, by decide⟩⟩

theorem given_up_turns_left_cornered :
    let still : Chance := ⟨[], [], ⟨#[], 0⟩⟩
    cornered.Reachable Act.Lawful ∧ (take cornered still 0).result = .ok none ∧
      ∃ n pc, n ≠ 0 ∧
        let hs := List.iterate Heading.left .west n
        (take cornered still 0).world = cornered.hold 0 ⟨Heading.north.after hs, pc⟩ ∧
          (take cornered still 0).events = hs.map (.turned 0 ⟨0, 0⟩) := by
  intro still
  have hr : (take cornered still 0).result = .ok none := by decide +kernel
  obtain ⟨c, s, n, pc, ha, hworld, hevents, hiff⟩ := given_up_turns_left cornered_reachable hr
  obtain rfl : ⟨0, ⟨0, 0⟩, .north, 0⟩ = c := Option.some.inj (Eq.trans (by decide) ha.creature)
  refine ⟨cornered_reachable, hr, n, pc, fun hn => ?_, hworld, hevents⟩
  rcases hiff.1 hn with hin | hnone
  · exact absurd hin (by decide)
  · exact absurd hnone (by decide +kernel)

/-- A turn that is given up has told an event and changed a heading. -/
theorem given_up_turn_changes_heading :
    let still : Chance := ⟨[], [], ⟨#[], 0⟩⟩
    cornered.Reachable Act.Lawful ∧ (take cornered still 0).result = .ok none ∧
      (take cornered still 0).events = [.turned 0 ⟨0, 0⟩ .west] ∧
      cornered.creatures.map (·.heading) = [.north] ∧
      (take cornered still 0).world.creatures.map (·.heading) = [.west] :=
  ⟨cornered_reachable, by decide +kernel, by decide +kernel, by decide, by decide +kernel⟩

end Vivarium.Turn
