import Vivarium.Proofs.Round.Whole

/-! Stepping and running agree: any number of steps is a number of whole rounds and the first turns of
one more. A step draws the order of the next round as soon as a round is over, a round draws its own
when it begins; between the two nothing else asks chance. -/
namespace Vivarium

namespace Stepper

/-- What some steps have come to: the stepper after them, for each step whether a round was over with
it, and those rounds, each with the world at its end. -/
structure Trail where
  stepper : Stepper
  ends : List Bool
  rounds : List (Tally × World)

def Trail.append (t u : Trail) : Trail := ⟨u.stepper, t.ends ++ u.ends, t.rounds ++ u.rounds⟩

/-- The trail of a step that has led to a stepper and a world. -/
def trail (s : Stepper) (ended : Bool) (w : World) : Trail :=
  ⟨s, [ended], if ended then (s.last.map fun t => (t, w)).toList else []⟩

/-- A step, as a stretch that leaves the stepper after it. -/
def advance (s : Stepper) (w : World) (chance : Chance) : Episode (Stepper × Bool) :=
  (s.step w chance).2.map fun ended => ((s.step w chance).1, ended)

theorem length_step (s : Stepper) (w : World) (chance : Chance) :
    (s.step w chance).2.world.creatures.length = w.creatures.length := by
  unfold step
  cases s.pending with
  | nil => rfl
  | cons me rest =>
    dsimp only
    split
    · have hlen : (Turn.take w chance me).world.creatures.length = w.creatures.length := by
        rw [Turn.world_take, Act.length_after_turn]
      split <;> exact hlen
    · rfl

def steps : Nat → Stepper → World → Chance → Episode Trail
  | 0, s, w, chance => .done ⟨s, [], []⟩ w chance
  | k + 1, s, w, chance => (s.advance w chance).andThen fun (s, ended) w chance =>
    (steps k s w chance).map (s.trail ended w).append

theorem steps_add (j k : Nat) (s : Stepper) (w : World) (chance : Chance) :
    steps (j + k) s w chance = (steps j s w chance).andThen fun t w chance =>
      (steps k t.stepper w chance).map t.append := by
  induction j generalizing s w chance with
  | zero =>
    have hid : Trail.append ⟨s, [], []⟩ = id := rfl
    rw [Nat.zero_add, steps, Episode.done_andThen, hid, Episode.map_id]
  | succ j ih =>
    rw [Nat.succ_add, steps, steps, Episode.andThen_assoc]
    refine Episode.andThen_congr fun ⟨t, ended⟩ _ => ?_
    simp only [ih, Episode.andThen_map, Episode.map_andThen, Episode.map_map]
    refine Episode.andThen_congr fun u _ => ?_
    congr 1
    funext x
    simp [Trail.append]

theorem andThen_steps_add (e : Episode Stepper) (j k : Nat) :
    e.andThen (steps (j + k)) = (e.andThen (steps j)).andThen fun t w chance =>
      (steps k t.stepper w chance).map t.append := by
  rw [Episode.andThen_assoc]
  exact Episode.andThen_congr fun s _ => steps_add j k s _ _

/-- A round is opened as soon as the one before it is over; no time passes. -/
def opened (round : Int) (last : Option Tally) (w : World) (chance : Chance) : Episode Stepper :=
  .done (openRound round last w chance).1 w (openRound round last w chance).2

section Advance

variable {w : World} {me : Nat} (chance : Chance) (round : Int) (tally : Tally)
  (last : Option Tally)

theorem advance_inside (hme : me < w.creatures.length) {rest : List Nat} (hrest : rest ≠ []) :
    advance ⟨round, me :: rest, tally, last⟩ w chance =
      (Turn.take w chance me).map fun o => (⟨round, rest, tally.count o, last⟩, false) := by
  cases ht : (Turn.take w chance me).result <;>
    simp [advance, step, hme, ht, settle, hrest, Episode.map, Except.map]

theorem advance_last (hme : me < w.creatures.length) :
    advance ⟨round, [me], tally, last⟩ w chance =
      (Turn.take w chance me).andThen fun o w chance =>
        (opened (round + 1) (some (tally.count o)) w chance).map fun s => (s, true) := by
  cases ht : (Turn.take w chance me).result <;>
    simp [advance, step, hme, ht, settle, opened, openRound, Episode.map, Episode.andThen,
      Episode.done, Except.map]

theorem advance_nobody (w : World) :
    advance ⟨round, [], tally, last⟩ w chance =
      (opened (round + 1) (some tally) w chance).map fun s => (s, true) := by
  simp [advance, step, settle, opened, openRound, Episode.map, Episode.done, Except.map]

end Advance

/-- Steps that do not come to the end of their round. -/
theorem steps_inside {order rest : List Nat} (hrest : order = [] ∨ rest ≠ []) {w : World}
    (ho : ∀ me ∈ order, me < w.creatures.length) (chance : Chance) (round : Int) (tally : Tally)
    (last : Option Tally) :
    steps order.length ⟨round, order ++ rest, tally, last⟩ w chance =
      (Round.turns tally order w chance).map fun tally =>
        ⟨⟨round, rest, tally, last⟩, List.replicate order.length false, []⟩ := by
  induction order generalizing tally w chance with
  | nil => rfl
  | cons me order ih =>
    have hme := ho me List.mem_cons_self
    have hrest : rest ≠ [] := hrest.resolve_left (List.cons_ne_nil me order)
    rw [List.length_cons, steps, List.cons_append, advance_inside chance round tally last hme
      (by simp [hrest]), Episode.map_andThen, Round.turns, Episode.andThen_map]
    refine Episode.andThen_congr fun outcome _ => ?_
    have hlen : (Turn.take w chance me).world.creatures.length = w.creatures.length := by
      rw [Turn.world_take, Act.length_after_turn]
    dsimp only
    rw [ih (.inr hrest) (fun i hi => hlen ▸ ho i (List.mem_cons_of_mem me hi)), Episode.map_map]
    rfl

theorem steps_one (s : Stepper) (w : World) (chance : Chance) :
    steps 1 s w chance = (s.advance w chance).andThen fun (s, ended) w chance =>
      .done (s.trail ended w) w chance := by
  rw [steps]
  refine Episode.andThen_congr fun ⟨t, ended⟩ _ => ?_
  simp [steps, Episode.map_eq_andThen, Trail.append, trail]

theorem opened_trail (round : Int) (tally : Tally) (w : World) (chance : Chance) :
    ((opened round (some tally) w chance).map fun s => (s, true)).andThen
        (fun (s, ended) w chance => .done (s.trail ended w) w chance) =
      (opened round (some tally) w chance).map fun s => ⟨s, [true], [(tally, w)]⟩ := by
  simp only [opened, Episode.map_eq_andThen, Episode.done_andThen]
  rfl

/-- As many steps as a round takes: one for each creature, and a single one if there is nobody. -/
theorem steps_round {order : List Nat} {w : World} (ho : ∀ me ∈ order, me < w.creatures.length)
    (chance : Chance) (round : Int) (last : Option Tally) :
    steps (max 1 order.length) ⟨round, order, { round }, last⟩ w chance =
      (Round.turns { round } order w chance).andThen fun tally w chance =>
        (opened (round + 1) (some tally) w chance).map fun s =>
          ⟨s, List.replicate (max 1 order.length - 1) false ++ [true], [(tally, w)]⟩ := by
  rcases List.eq_nil_or_concat order with rfl | ⟨order, me, rfl⟩
  · rw [Round.turns, Episode.done_andThen]
    change steps 1 _ w chance = _
    rw [steps_one, advance_nobody, opened_trail]
    rfl
  · simp only [List.concat_eq_append, List.length_append, List.length_singleton] at ho ⊢
    rw [show max 1 (order.length + 1) = order.length + 1 by omega, steps_add,
      steps_inside (.inr (by simp)) (fun i hi => ho i (by simp [hi])), Episode.map_andThen,
      Round.turns_append, Episode.andThen_assoc]
    refine Episode.andThen_congr fun tally _ => ?_
    have hme : me < (Round.turns { round } order w chance).world.creatures.length := by
      rw [Round.length_turns]
      exact ho me (by simp)
    simp only [steps_one, advance_last _ _ _ _ hme, Round.turns]
    rw [Episode.andThen_assoc, Episode.andThen_map, Episode.andThen_assoc]
    refine Episode.andThen_congr fun outcome _ => ?_
    rw [opened_trail, Episode.map_map, Episode.done_andThen]
    rfl

theorem opened_round {w : World} {chance : Chance} (hfair : chance.Fair w.creatures.length)
    (number : Int) (last : Option Tally) :
    (opened number last w chance).andThen (steps (max 1 w.creatures.length)) =
      (Round.run number w chance).andThen fun tally v chance =>
        (opened (number + 1) (some tally) v chance).map fun s =>
          ⟨s, List.replicate (max 1 w.creatures.length - 1) false ++ [true], [(tally, v)]⟩ := by
  obtain ⟨hperm, -⟩ := Chance.order_fair hfair
  have hlen := hperm.length_eq.trans List.length_range
  have hround := steps_round (fun me h => List.mem_range.1 (hperm.mem_iff.1 h))
    (chance.order w.creatures.length).2 number last
  rw [hlen] at hround
  rw [opened, Episode.done_andThen]
  exact hround

/-- Which of the first `k` steps end a round, if each round takes `n` steps. -/
def ends (n k : Nat) : List Bool := (List.range k).map fun i => decide (n ∣ i + 1)

theorem ends_of_lt {n k : Nat} (h : k < n) : ends n k = List.replicate k false := by
  rw [List.eq_replicate_iff]
  refine ⟨by simp [ends], fun b hb => ?_⟩
  obtain ⟨i, hi, rfl⟩ := List.mem_map.1 hb
  have hlt := List.mem_range.1 hi
  exact decide_eq_false (Nat.not_dvd_of_pos_of_lt (by omega) (by omega))

theorem ends_add {n : Nat} (hn : 0 < n) (k : Nat) :
    ends n (n + k) = List.replicate (n - 1) false ++ [true] ++ ends n k := by
  obtain ⟨m, rfl⟩ : ∃ m, n = m + 1 := ⟨n - 1, by omega⟩
  have hlater (i : Nat) : m + 1 ∣ m + 1 + i + 1 ↔ m + 1 ∣ i + 1 := by
    rw [Nat.add_assoc]
    exact Nat.dvd_add_right (Nat.dvd_refl _)
  have hfirst := ends_of_lt (Nat.lt_succ_self m)
  rw [ends] at hfirst
  simp [ends, List.range_add, Function.comp_def, hlater, List.range_succ, hfirst]

theorem opened_steps {w : World} {chance : Chance} (hfair : chance.Fair w.creatures.length)
    (number : Int) (last : Option Tally) (whole : Nat) {part : Nat}
    (hpart : part < max 1 w.creatures.length) :
    let k := whole * max 1 w.creatures.length + part
    (opened number last w chance).andThen (steps k) =
      (Round.upTo number whole part w chance).map fun p =>
        { stepper := ⟨number + whole, p.pending, p.tally, (p.rounds.getLast?.map (·.1)).or last⟩
          ends := ends (max 1 w.creatures.length) k
          rounds := p.rounds } := by
  induction whole generalizing number last w chance with
  | zero =>
    obtain ⟨hperm, -⟩ := Chance.order_fair hfair
    have hlen := hperm.length_eq.trans List.length_range
    have hin (me : Nat) (h : me ∈ (chance.order w.creatures.length).1.take part) :
        me < w.creatures.length := List.mem_range.1 (hperm.mem_iff.1 (List.mem_of_mem_take h))
    have hrest : (chance.order w.creatures.length).1.take part = [] ∨
        (chance.order w.creatures.length).1.drop part ≠ [] := by
      simp only [List.take_eq_nil_iff, ne_eq, List.drop_eq_nil_iff]
      omega
    have hcount : ((chance.order w.creatures.length).1.take part).length = part := by
      rw [List.length_take, hlen]
      omega
    have hsteps := steps_inside hrest hin (chance.order w.creatures.length).2 number
      { round := number } last
    rw [List.take_append_drop, hcount] at hsteps
    simp only [Nat.zero_mul, Nat.zero_add, ends_of_lt hpart, Round.upTo, Round.runMany, opened,
      Episode.done_andThen, Episode.map_map, Int.natCast_zero, Int.add_zero, List.getLast?_nil,
      Option.map_none, Option.none_or]
    exact hsteps
  | succ whole ih =>
    have hn : 0 < max 1 w.creatures.length := by omega
    have hk : (whole + 1) * max 1 w.creatures.length + part =
        max 1 w.creatures.length + (whole * max 1 w.creatures.length + part) := by
      rw [Nat.succ_mul]
      omega
    have hnumber : number + ((whole + 1 : Nat) : Int) = number + 1 + whole := by omega
    dsimp only
    rw [hk, ends_add hn, hnumber, Round.upTo_succ, Episode.andThen_map, andThen_steps_add,
      opened_round hfair, Episode.andThen_assoc]
    refine Episode.andThen_congr fun tally _ => ?_
    have hlen : (Round.run number w chance).world.creatures.length = w.creatures.length :=
      Round.length_turns ..
    have hrest := ih (Round.fair_run hfair number) (number + 1) (some tally) (hlen.symm ▸ hpart)
    rw [hlen] at hrest
    -- the steps after the first round begin from its end, and their trail follows on its trail
    let joined (u : Trail) : Trail :=
      ⟨u.stepper, List.replicate (max 1 w.creatures.length - 1) false ++ [true] ++ u.ends,
        (tally, (Round.run number w chance).world) :: u.rounds⟩
    rw [Episode.map_andThen, Episode.map_map]
    refine (Episode.andThen_map _ (steps _) joined).symm.trans ?_
    rw [hrest, Episode.map_map]
    congr 1
    funext p
    cases hp : p.rounds.getLast? <;> simp [joined, List.getLast?_cons, hp]

/-- Steps from the start of a simulation are whole rounds and the first turns of one more, a round
being one step long if there is nobody: they leave the same world, have told the same events and
notices, and fail in the same way if they fail. Just the last step of each round says that the round
is over, and what the stepper has come to then is what the round has come to. -/
theorem steps_eq_upTo {w : World} {chance : Chance} (hfair : chance.Fair w.creatures.length)
    (whole : Nat) {part : Nat} (hpart : part < max 1 w.creatures.length) :
    let n := max 1 w.creatures.length
    let rounds := Round.upTo 1 whole part w chance
    (steps (whole * n + part) (start w chance).1 w (start w chance).2 = rounds.map fun p =>
      { stepper := ⟨1 + whole, p.pending, p.tally, p.rounds.getLast?.map (·.1)⟩
        ends := (List.range (whole * n + part)).map fun i => decide (n ∣ i + 1)
        rounds := p.rounds }) ∧
    (∀ p, rounds.result = .ok p → p.tally.turns = part ∧ p.rounds.length = whole) ∧
    (w.Reachable Act.Lawful → ∃ p, rounds.result = .ok p) := by
  refine ⟨?_, fun p hp => ?_, fun h => ?_⟩
  · have hsteps := opened_steps hfair 1 none whole hpart
    simp only [opened, Episode.done_andThen, Option.or_none] at hsteps
    exact hsteps
  · have hrounds := Round.numbers_runMany (Round.rounds_upTo hp)
    exact ⟨Round.turns_upTo hfair hpart hp, by simpa using congrArg List.length hrounds⟩
  · exact (Round.upTo_completes (World.sound_of_reachable h) hfair 1 whole part).ok

/-- A whole round of two creatures, the second one first, and one turn of the next. -/
theorem steps_eq_upTo_three_steps :
    let w := (Act.spawn 0 ⟨2, 0⟩ .west).after <| (Act.spawn 0 ⟨0, 0⟩ .east).after <|
      (Act.enrol World.hopper).after ⟨.empty 3 1, [], []⟩
    let chance : Chance := ⟨[], [[1, 0]], ⟨#[], 0⟩⟩
    chance.Fair w.creatures.length ∧ 1 < max 1 w.creatures.length ∧
      ∃ t, (steps 3 (start w chance).1 w (start w chance).2).result = .ok t ∧
        t.ends = [false, true, false] ∧ t.stepper.round = 2 ∧ t.stepper.tally.turns = 1 ∧
        t.rounds.length = 1 := by
  intro w chance
  have hfair : chance.Fair w.creatures.length := by
    intro order ho
    obtain rfl := List.mem_singleton.1 ho
    exact List.Perm.swap 0 1 []
  have hpart : 1 < max 1 w.creatures.length := by decide
  have hhopper : Species.ofSource "Hopper\nhop" ⟨0, 0, 0⟩ = .ok World.hopper := by rfl
  have hw : w.Reachable Act.Lawful :=
    ⟨3, 1, ⟨.empty 3 1, [], []⟩, _, rfl, .act (.act (.act .start ⟨_, _, hhopper⟩)
      ⟨by decide, by decide⟩) ⟨by decide, by decide⟩⟩
  obtain ⟨hsteps, hcount, hok⟩ := steps_eq_upTo hfair 1 hpart
  obtain ⟨p, hp⟩ := hok hw
  obtain ⟨hturns, hrounds⟩ := hcount p hp
  refine ⟨hfair, hpart, ⟨⟨2, p.pending, p.tally, p.rounds.getLast?.map (·.1)⟩,
    [false, true, false], p.rounds⟩, ?_, rfl, rfl, hturns, hrounds⟩
  have hlen : w.creatures.length = 2 := by decide
  refine (congrArg Episode.result hsteps).trans ?_
  simp only [Episode.map, hp, Except.map, hlen]
  rfl

end Stepper
end Vivarium
