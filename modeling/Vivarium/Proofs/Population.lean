import Vivarium.Proofs.Census
import Vivarium.Proofs.Round.Fairness

/-!
How populations change. Nothing but a takeover changes them: it takes one from the species of the
creature that is taken over and gives one to that of the creature whose turn it is. So there is no way
back for a species that has died out.
-/
namespace Vivarium

def Creature.counts (c : Creature) (species : Nat) : Nat := if c.species = species then 1 else 0

theorem Creature.counts_le (c : Creature) (species : Nat) : c.counts species ≤ 1 := by
  unfold counts
  split <;> omega

namespace World

variable {u v w : World}

theorem population_eq_zero {s : Nat} : w.population s = 0 ↔
    ∀ (id : Nat) (c : Creature), w.creatures[id]? = some c → c.species ≠ s := by
  simp only [population, List.countP_eq_zero, decide_eq_true_eq]
  constructor
  · intro h id c hc
    exact h c (List.mem_of_getElem? hc)
  · intro h c hc
    obtain ⟨id, hid⟩ := List.mem_iff_getElem?.1 hc
    exact h id c hid

theorem population_eq_length {s : Nat} : w.population s = w.creatures.length ↔
    ∀ (id : Nat) (c : Creature), w.creatures[id]? = some c → c.species = s := by
  simp only [population, List.countP_eq_length, decide_eq_true_eq]
  constructor
  · intro h id c hc
    exact h c (List.mem_of_getElem? hc)
  · intro h c hc
    obtain ⟨id, hid⟩ := List.mem_iff_getElem?.1 hc
    exact h id c hid

theorem population_modify {id : Nat} {c : Creature} (hc : w.creatures[id]? = some c)
    (f : Creature → Creature) (s : Nat) :
    (w.modify id f).population s + c.counts s = w.population s + (f c).counts s := by
  obtain ⟨grid, species, creatures⟩ := w
  simp only [population, modify, Creature.counts] at hc ⊢
  induction creatures generalizing id with
  | nil => simp at hc
  | cons d ds ih =>
    cases id with
    | zero =>
      obtain rfl := Option.some.inj hc
      simp only [List.modify_zero_cons, List.countP_cons, decide_eq_true_eq]
      omega
    | succ id =>
      have hrest := ih hc
      simp only [List.modify_succ_cons, List.countP_cons, decide_eq_true_eq]
      omega

theorem population_hold (w : World) (me : Nat) (t : Stance) (s : Nat) :
    (w.hold me t).population s = w.population s := by
  cases hc : w.creatures[me]? with
  | none => simp [hold, modify, List.modify_eq_self (List.getElem?_eq_none_iff.1 hc)]
  | some c =>
    have hmodify := population_modify hc (·.hold t) s
    simp only [Creature.counts, Creature.species_hold] at hmodify
    exact Nat.add_right_cancel hmodify

theorem population_move {id : Nat} {c : Creature} {target : Pos} (hc : w.creatures[id]? = some c)
    (hfrom : w.grid.Contains c.pos) (hto : w.grid.Contains target) (s : Nat) :
    (w.move id target).world.population s = w.population s := by
  rw [move_eq hc hfrom hto]
  exact Nat.add_right_cancel (population_modify (w := { w with grid := _ }) hc _ s)

theorem Known.sum_population (h : w.Known) :
    ((List.range w.species.length).map w.population).sum = w.creatures.length := by
  rw [World.sum_population, List.countP_eq_length]
  intro c hc
  obtain ⟨id, hid⟩ := List.mem_iff_getElem?.1 hc
  exact decide_eq_true (h id c hid)

end World

namespace Turn

/-- The creature `me` takes over another one, as an event tells, and that is all that changes the
populations: the species it was of loses one, and the species of `me` gains one. -/
def Converts (w v : World) (me : Nat) (es : List Event) : Prop :=
  ∃ actor victim other p colour, w.creatures[me]? = some actor ∧ w.creatures[other]? = some victim ∧
    Event.changed other p colour ∈ es ∧
    ∀ s, v.population s + victim.counts s = w.population s + actor.counts s

theorem Course.population {w v : World} {me : Nat} {es : List Event} {r : Except Fault Progress}
    (h : Course w me v es r) :
    (∀ s, v.population s = w.population s) ∧ (∀ moved, r ≠ .ok (.ended moved true)) ∨
      r = .ok (.ended false true) ∧ Converts w v me es := by
  cases h with
  | idle f => exact .inl ⟨fun _ => rfl, by simp⟩
  | held hs pc _ _ hr =>
    refine .inl ⟨fun s => w.population_hold me _ s, fun moved hinfected => ?_⟩
    cases (hr moved true hinfected).2
  | moved hs pc target ha _ _ hfrom hto =>
    refine .inl ⟨fun s => ?_, by simp⟩
    rw [World.population_move (ha.hold _).creature hfrom hto, World.population_hold]
  | @infected c s hs pc other p entry start ha _ _ hp =>
    obtain ⟨victim, hvictim, -⟩ := World.pos?_eq_some.1 hp
    refine .inr ⟨rfl, c, victim, other, p, s.colour, ha.creature, hvictim, by simp, fun k => ?_⟩
    -- the victim may have taken up a stance only if it is the actor itself
    obtain ⟨d, hd, hspecies⟩ : ∃ d, (w.hold me ⟨c.heading.after hs, pc⟩).creatures[other]? = some d ∧
        d.species = victim.species := by
      rw [World.getElem?_hold]
      split
      · exact ⟨victim.hold _, by rw [hvictim, Option.map_some], rfl⟩
      · exact ⟨victim, hvictim, rfl⟩
    have hmodify := World.population_modify hd ({ · with species := c.species, pc := start }) k
    rw [World.population_hold] at hmodify
    rw [World.world_infect]
    simpa only [Creature.counts, hspecies] using hmodify

/-- A slot in a round changes a population by one at most, and only if it is counted as an
infection. -/
theorem take_population {w : World} {chance : Chance} {me : Nat} {o : Option Outcome}
    (h : (take w chance me).result = .ok o) (t : Tally) (s : Nat) :
    (((take w chance me).world.population s : Int) - w.population s).natAbs ≤
      (t.count o).infections - t.infections := by
  have hcourse := (run_course w chance me none).population
  rw [world_take]
  dsimp only [Act.after]
  rcases take_cases h with ⟨outcome, rfl, hr, -⟩ | ⟨name, b, pc, pos, rfl, hr, -⟩
  · simp only [hr, Except.map, Outcome.progress, Except.ok.injEq, Progress.ended.injEq] at hcourse
    rcases hcourse with ⟨hsame, -⟩ | ⟨⟨-, hinfected⟩, actor, victim, other, p, colour, -, -, -, hall⟩
    · simp only [hsame, Tally.count]
      split <;> omega
    · have hs := hall s
      have hactor := actor.counts_le s
      have hvictim := victim.counts_le s
      simp only [Tally.count, hinfected, if_true]
      omega
  · simp only [hr, Except.map, reduceCtorEq, false_and, or_false] at hcourse
    simp only [hcourse.1 s, Tally.count]
    omega

end Turn

namespace Round

theorem turns_population {tally t : Tally} {order : List Nat} {w : World} {chance : Chance}
    (h : (turns tally order w chance).result = .ok t) (s : Nat) :
    (((turns tally order w chance).world.population s : Int) - w.population s).natAbs ≤
      t.infections - tally.infections := by
  induction order generalizing tally w chance with
  | nil =>
    obtain rfl := Except.ok.inj h
    simp [turns]
  | cons me rest ih =>
    obtain ⟨o, ho, hrest⟩ := Episode.ok_of_andThen h
    have hfirst := Turn.take_population ho tally s
    have hothers := ih hrest
    rw [turns, Episode.andThen_of_ok ho]
    dsimp only
    omega

theorem known_turns {w : World} (h : w.Known) (tally : Tally) (order : List Nat) (chance : Chance) :
    (turns tally order w chance).world.Known :=
  turns_keeps _ _ _ _ h fun me _ _ c hv => hv.turn c me none

/-- From `u` to `v`, nobody is lost to the census, and no population has changed by more than the
infections that the tally of the round between them reports. -/
structure Accounts (u : World) (t : Tally) (v : World) : Prop where
  length : v.creatures.length = u.creatures.length
  total : ((List.range v.species.length).map v.population).sum = v.creatures.length
  change : ∀ s, ((v.population s : Int) - u.population s).natAbs ≤ t.infections

theorem run_accounts {w : World} (h : w.Known) {number : Int} {chance : Chance} {t : Tally}
    (ht : (run number w chance).result = .ok t) : Accounts w t (run number w chance).world where
  length := length_turns ..
  total := (known_turns h _ _ _).sum_population
  change := fun s => (turns_population ht s).trans_eq (Int.sub_zero _)

theorem runMany_accounts {w : World} (h : w.Known) {number : Int} {n : Nat} {chance : Chance}
    {rounds : List (Tally × World)}
    (hrounds : (runMany (fun t v => .ok (t, v)) number n w chance).result = .ok rounds) (t : Tally) :
    List.IsChain (fun before after => Accounts before.2 after.1 after.2) ((t, w) :: rounds) := by
  induction n generalizing number w chance rounds t with
  | zero =>
    obtain rfl := Except.ok.inj hrounds
    exact .singleton _
  | succ n ih =>
    obtain ⟨t', ht', hnext⟩ := Episode.ok_of_andThen hrounds
    obtain ⟨rest, hrest, rfl⟩ := Episode.ok_of_map hnext
    exact .cons_cons (run_accounts h ht') (ih (known_turns h _ _ _) hrest t')

end Round

namespace World

/-- Changes of the census are explained by infections. A turn changes a population only if its
outcome says that it has infected, and then one creature goes over from the species of the one that is
taken over to that of the actor. Over the rounds of a run everyone is counted, and what each population
changes by in a round is no more than the infections that are reported for it. -/
theorem infections_explain_census {w : World} (h : w.Reachable Act.Placed) :
    (∀ me chance budget,
      let turn := Turn.run w chance me budget
      (∀ s, turn.world.population s ≠ w.population s →
        ∃ o, turn.result = .ok o ∧ o.infected = true) ∧
      ∀ o, turn.result = .ok o → o.infected = true →
        Turn.Converts w turn.world me turn.events) ∧
    ∀ n chance,
      let rounds := (Round.runMany (fun t v => .ok (t, v)) 1 n w chance).result
      (∀ past, rounds = .ok past → past.length = n ∧
        List.IsChain (fun before after => Round.Accounts before.2 after.1 after.2)
          (({}, w) :: past)) ∧
      (w.Reachable Act.Lawful → chance.Fair w.creatures.length → ∃ past, rounds = .ok past) := by
  refine ⟨fun me chance budget => ?_, fun n chance => ⟨fun past hpast => ?_, fun hw hfair => ?_⟩⟩
  · have hcourse := (Turn.run_course w chance me budget).population
    dsimp only
    cases hr : (Turn.run w chance me budget).result with
    | error f =>
      simp only [hr, Except.map, reduceCtorEq, false_and, or_false] at hcourse
      exact ⟨fun s hs => absurd (hcourse.1 s) hs, by simp⟩
    | ok o =>
      simp only [hr, Except.map, Outcome.progress, Except.ok.injEq, Progress.ended.injEq] at hcourse
      rcases hcourse with ⟨hsame, hnot⟩ | ⟨⟨-, hinfected⟩, hconverts⟩
      · refine ⟨fun s hs => absurd (hsame s) hs, fun o' ho hinfected => ?_⟩
        obtain rfl := Except.ok.inj ho
        exact absurd (congrArg (Except.ok ∘ Progress.ended o.moved) hinfected) (hnot o.moved)
      · exact ⟨fun s _ => ⟨o, rfl, hinfected⟩, fun _ _ _ => hconverts⟩
  · have hnumbers := congrArg List.length (Round.numbers_runMany hpast)
    exact ⟨by simpa using hnumbers, Round.runMany_accounts (known_of_reachable h) hpast {}⟩
  · obtain ⟨p, hp⟩ := (Round.upTo_completes (sound_of_reachable hw) hfair 1 n 0).ok
    exact ⟨p.rounds, Round.rounds_upTo hp⟩

def siege : World :=
  (Act.spawn 1 ⟨0, 0⟩ .east).after <| (Act.spawn 0 ⟨1, 0⟩ .north).after <|
    (Act.enrol infector).after <| (Act.enrol hopper).after ⟨.empty 2 1, [], []⟩

theorem siege_reachable : siege.Reachable Act.Placed :=
  ⟨2, 1, ⟨.empty 2 1, [], []⟩, _, rfl, .act (.act (.act (.act .start ⟨⟩) ⟨⟩)
    ⟨by decide, by decide⟩) ⟨by decide, by decide⟩⟩

theorem infections_explain_census_siege :
    let still : Chance := ⟨[], [[1, 0], [0, 1]], ⟨#[], 0⟩⟩
    let turn := Turn.run siege still 1
    let rounds := (Round.runMany (fun t v => .ok (t, v)) 1 2 siege still).result
    siege.Reachable Act.Placed ∧ (∃ o, turn.result = .ok o ∧ o.infected = true) ∧
      Turn.Converts siege turn.world 1 turn.events ∧
      [0, 1].map siege.population = [1, 1] ∧ [0, 1].map turn.world.population = [0, 2] ∧
      ∃ past, rounds = .ok past ∧ past.map (·.1.infections) = [1, 1] ∧
        List.IsChain (fun before after => Round.Accounts before.2 after.1 after.2)
          (({}, siege) :: past) := by
  intro still turn rounds
  obtain ⟨hturn, hrounds⟩ := infections_explain_census siege_reachable
  have hresult : turn.result = .ok ⟨.infect, 1, false, true⟩ := by decide +kernel
  have htold : rounds.map (List.map (·.1.infections)) = .ok [1, 1] := by decide +kernel
  refine ⟨siege_reachable, ⟨_, hresult, rfl⟩, (hturn 1 still none).2 _ hresult rfl,
    by decide +kernel, by decide +kernel, ?_⟩
  cases hpast : rounds with
  | error f => cases hpast ▸ htold
  | ok past => exact ⟨past, rfl, Except.ok.inj (hpast ▸ htold), ((hrounds 2 still).1 past hpast).2⟩

end World

/-- Nobody comes to the world any more; there may be new species and any turns. -/
def Act.Closed (_ : World) : Act → Prop
  | .spawn .. => False
  | _ => True

namespace World

variable {u v : World} {es : List Event}

theorem length_of_closed (h : Run Act.Closed u es v) : v.creatures.length = u.creatures.length := by
  refine h.invariant (P := fun w => w.creatures.length = u.creatures.length) (fun w a hw ha => ?_) rfl
  cases a with
  | enrol s => exact hw
  | spawn species p heading => exact ha.elim
  | turn me chance budget => exact (Act.length_after_turn w me chance budget).trans hw

/-- Nobody is taken over into a species but by one of that species, and no turn changes the species of
its own creature. -/
theorem extinct_of_closed (h : Run Act.Closed u es v) {s : Nat} (hs : u.population s = 0) :
    v.population s = 0 := by
  refine h.invariant (P := fun w => w.population s = 0) (fun w a hw ha => ?_) hs
  cases a with
  | enrol species => exact hw
  | spawn species p heading => exact ha.elim
  | turn me chance budget =>
    rcases (Turn.run_course w chance me budget).population with ⟨hsame, -⟩ | ⟨-, hconverts⟩
    · exact (hsame s).trans hw
    · obtain ⟨actor, victim, other, p, colour, hactor, -, -, hall⟩ := hconverts
      have hne : actor.counts s = 0 := if_neg (population_eq_zero.1 hw me actor hactor)
      have hsum := hall s
      dsimp only [Act.after]
      omega

/-- Extinction is final, in every world whatever and however long it is run on. Where all creatures are
of one species already, no population changes any more. -/
theorem extinction_final (h : Run Act.Closed u es v) :
    (∀ s, u.population s = 0 → v.population s = 0) ∧
    ((∃ s, u.population s = u.creatures.length) → ∀ s, v.population s = u.population s) := by
  refine ⟨fun s => extinct_of_closed h, fun ⟨winner, hall⟩ s => ?_⟩
  have hothers (s : Nat) (hs : s ≠ winner) : u.population s = 0 :=
    population_eq_zero.2 fun id c hc hspecies =>
      hs (hspecies.symm.trans (population_eq_length.1 hall id c hc))
  by_cases hs : s = winner
  · subst hs
    rw [hall, ← length_of_closed h, population_eq_length]
    intro id c hc
    by_contra hne
    exact population_eq_zero.1 (extinct_of_closed h (hothers _ hne)) id c hc rfl
  · rw [hothers s hs, extinct_of_closed h (hothers s hs)]

theorem extinction_final_siege :
    let still : Chance := ⟨[], [], ⟨#[], 0⟩⟩
    let conquered := (Act.turn 1 still none).after siege
    let later := (Act.turn 1 still none).after <| (Act.turn 0 still (some 3)).after conquered
    (∃ es, Run Act.Closed conquered es later) ∧ conquered.population 0 = 0 ∧
      conquered.population 1 = conquered.creatures.length ∧ later.population 0 = 0 ∧
      ∀ s, later.population s = conquered.population s := by
  intro still conquered later
  have hrun : Run Act.Closed conquered _ later := .act (.act .start ⟨⟩) ⟨⟩
  have hextinct : conquered.population 0 = 0 := by decide +kernel
  have hall : conquered.population 1 = conquered.creatures.length := by decide +kernel
  obtain ⟨hfinal, hsettled⟩ := extinction_final hrun
  exact ⟨⟨_, hrun⟩, hextinct, hall, hfinal 0 hextinct, hsettled ⟨1, hall⟩⟩

end World
end Vivarium
