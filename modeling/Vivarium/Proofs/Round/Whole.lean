import Vivarium.Proofs.Completion

/-! Whole rounds, and a simulation that stands in the middle of one. -/
namespace Vivarium

namespace Turn

/-- The turns of the creatures in the given order, and what comes of each. -/
def takeAll : List Nat → World → Chance → Episode (List (Option Outcome))
  | [], w, chance => .done [] w chance
  | me :: rest, w, chance =>
    (take w chance me).andThen fun o w chance => (takeAll rest w chance).map (o :: ·)

end Turn

namespace Round

/-- A tally counts what comes of the turns. -/
theorem turns_eq_takeAll (tally : Tally) (order : List Nat) (w : World) (chance : Chance) :
    turns tally order w chance =
      (Turn.takeAll order w chance).map fun outcomes => outcomes.foldl Tally.count tally := by
  induction order generalizing tally w chance with
  | nil => rfl
  | cons me rest ih =>
    rw [turns, Turn.takeAll, Episode.andThen_map]
    refine Episode.andThen_congr fun o _ => ?_
    rw [ih, Episode.map_map]
    rfl

section Turns

variable (tally : Tally) (order : List Nat) (w : World) (chance : Chance)

/-- A round keeps what the turns of the creatures in its order keep. -/
theorem turns_keeps {P : World → Prop} (h : P w)
    (hturn : ∀ me ∈ order, ∀ v c, P v → P ((Act.turn me c none).after v)) :
    P (turns tally order w chance).world := by
  induction order generalizing tally w chance with
  | nil => exact h
  | cons me rest ih =>
    have htake : P (Turn.take w chance me).world := by
      rw [Turn.world_take]
      exact hturn me List.mem_cons_self w chance h
    exact Episode.andThen_keeps (P := fun v _ => P v) htake fun outcome v c hv =>
      ih (tally.count outcome) v c hv fun i hi => hturn i (List.mem_cons_of_mem me hi)

theorem length_turns : (turns tally order w chance).world.creatures.length = w.creatures.length :=
  turns_keeps (P := fun v => v.creatures.length = w.creatures.length) _ _ _ _ rfl
    fun me _ v c hv => (Act.length_after_turn v me c none).trans hv

theorem species_turns : (turns tally order w chance).world.species = w.species :=
  turns_keeps (P := fun v => v.species = w.species) _ _ _ _ rfl
    fun me _ v c hv => (Act.species_after_turn v me c none).trans hv

theorem size_turns : (turns tally order w chance).world.grid.width = w.grid.width ∧
    (turns tally order w chance).world.grid.height = w.grid.height :=
  turns_keeps (P := fun v => v.grid.width = w.grid.width ∧ v.grid.height = w.grid.height) _ _ _ _
    ⟨rfl, rfl⟩ fun me _ v c hv =>
      have hturn := Act.size_after_turn v me c none
      ⟨hturn.1.trans hv.1, hturn.2.trans hv.2⟩

theorem orders_turns : (turns tally order w chance).chance.orders = chance.orders := by
  induction order generalizing tally w chance with
  | nil => rfl
  | cons me rest ih =>
    exact Episode.andThen_chance (P := fun c => c.orders = chance.orders)
      (Turn.orders_take w chance me)
      fun outcome v c hc => (ih (tally.count outcome) v c).trans hc

theorem turns_append (others : List Nat) : turns tally (order ++ others) w chance =
    (turns tally order w chance).andThen fun tally => turns tally others := by
  induction order generalizing tally w chance with
  | nil => simp [turns]
  | cons me rest ih =>
    rw [List.cons_append, turns, turns, Episode.andThen_assoc]
    exact Episode.andThen_congr fun outcome _ => ih _ _ _

theorem counted_turns {t : Tally} (h : (turns tally order w chance).result = .ok t) :
    t.turns = tally.turns + order.length ∧ t.round = tally.round := by
  induction order generalizing tally w chance with
  | nil =>
    obtain rfl := Except.ok.inj h
    simp
  | cons me rest ih =>
    obtain ⟨outcome, -, hrest⟩ := Episode.ok_of_andThen h
    obtain ⟨hturns, hround⟩ := ih _ _ _ hrest
    have hcount : (tally.count outcome).turns = tally.turns + 1 ∧
        (tally.count outcome).round = tally.round := by
      cases outcome <;> exact ⟨rfl, rfl⟩
    rw [hturns, hround, hcount.1, hcount.2, List.length_cons]
    omega

end Turns

theorem fair_run {w : World} {chance : Chance} (h : chance.Fair w.creatures.length)
    (number : Int) : (run number w chance).chance.Fair (run number w chance).world.creatures.length := by
  rw [run, length_turns, Chance.Fair, orders_turns]
  exact (Chance.order_fair h).2

theorem numbers_runMany {number : Int} {whole : Nat} {w : World} {chance : Chance}
    {rounds : List (Tally × World)}
    (h : (runMany (fun t v => .ok (t, v)) number whole w chance).result = .ok rounds) :
    rounds.map (·.1.round) = (List.range whole).map fun i : Nat => number + i := by
  induction whole generalizing number w chance rounds with
  | zero =>
    obtain rfl := Except.ok.inj h
    rfl
  | succ whole ih =>
    obtain ⟨t, ht, hnext⟩ := Episode.ok_of_andThen h
    obtain ⟨rest, hrest, rfl⟩ := Episode.ok_of_map hnext
    have hround : t.round = number := (counted_turns _ _ _ _ ht).2
    simp only [List.map_cons, hround, ih hrest, List.range_succ_eq_map, List.map_map]
    refine List.cons_eq_cons.2 ⟨by simp, List.map_congr_left fun i _ => ?_⟩
    simp only [Function.comp_apply]
    omega

/-- Rounds may be looked at when all of them are over. -/
theorem ok_of_looks {α : Type} {look : Tally → World → Except Fault α} {number : Int} {whole : Nat}
    {w : World} {chance : Chance} {rounds : List (Tally × World)} {as : List α}
    (h : (runMany (fun t v => .ok (t, v)) number whole w chance).result = .ok rounds)
    (hlook : rounds.map (fun r => look r.1 r.2) = as.map .ok) :
    (runMany look number whole w chance).result = .ok as := by
  induction whole generalizing number w chance rounds as with
  | zero =>
    obtain rfl := Except.ok.inj h
    obtain rfl := List.map_eq_nil_iff.1 hlook.symm
    rfl
  | succ whole ih =>
    obtain ⟨t, ht, hnext⟩ := Episode.ok_of_andThen h
    obtain ⟨rest, hrest, rfl⟩ := Episode.ok_of_map hnext
    cases as with
    | nil => cases hlook
    | cons a as =>
      obtain ⟨ha, has⟩ := List.cons.inj hlook
      dsimp only at ha
      rw [runMany, Episode.andThen_of_ok ht]
      simp only [ha, Episode.map, ih hrest has, Except.map]

/-- A simulation in the middle of a round: the rounds that are over, each with the world at its end,
those whose turn is still to come, and what the round has come to so far. -/
structure Standing where
  rounds : List (Tally × World)
  pending : List Nat
  tally : Tally

/-- Whole rounds one after another, then the first turns of one more. -/
def upTo (number : Int) (whole part : Nat) (w : World) (chance : Chance) : Episode Standing :=
  (runMany (fun t v => .ok (t, v)) number whole w chance).andThen fun rounds w chance =>
    let (order, chance) := chance.order w.creatures.length
    (turns { round := number + whole } (order.take part) w chance).map
      fun tally => ⟨rounds, order.drop part, tally⟩

theorem upTo_succ (number : Int) (whole part : Nat) (w : World) (chance : Chance) :
    upTo number (whole + 1) part w chance = (run number w chance).andThen fun t w chance =>
      (upTo (number + 1) whole part w chance).map fun s =>
        { s with rounds := (t, w) :: s.rounds } := by
  rw [upTo, runMany, Episode.andThen_assoc]
  refine Episode.andThen_congr fun t _ => ?_
  have hnumber : number + ((whole + 1 : Nat) : Int) = number + 1 + whole := by omega
  simp only [upTo, Episode.map_andThen, Episode.andThen_map, Episode.map_map, hnumber]

theorem turns_upTo {number : Int} {whole part : Nat} {w : World} {chance : Chance} {p : Standing}
    (hfair : chance.Fair w.creatures.length) (hpart : part < max 1 w.creatures.length)
    (h : (upTo number whole part w chance).result = .ok p) : p.tally.turns = part := by
  induction whole generalizing number w chance p with
  | zero =>
    have hlen := (Chance.order_fair hfair).1.length_eq.trans List.length_range
    simp only [upTo, runMany, Episode.done_andThen] at h
    obtain ⟨t, ht, rfl⟩ := Episode.ok_of_map h
    have hturns := (counted_turns _ _ _ _ ht).1
    simp only [List.length_take, hlen, Int.zero_add] at hturns
    change t.turns = part
    omega
  | succ whole ih =>
    rw [upTo_succ] at h
    obtain ⟨t, ht, hrest⟩ := Episode.ok_of_andThen h
    obtain ⟨q, hq, rfl⟩ := Episode.ok_of_map hrest
    have hlen : (run number w chance).world.creatures.length = w.creatures.length :=
      length_turns ..
    change q.tally.turns = part
    exact ih (fair_run hfair number) (hlen.symm ▸ hpart) hq

theorem rounds_upTo {number : Int} {whole part : Nat} {w : World} {chance : Chance} {p : Standing}
    (h : (upTo number whole part w chance).result = .ok p) :
    (runMany (fun t v => .ok (t, v)) number whole w chance).result = .ok p.rounds := by
  obtain ⟨rounds, hrounds, h⟩ := Episode.ok_of_andThen h
  obtain ⟨tally, -, rfl⟩ := Episode.ok_of_map h
  exact hrounds

/-- Nothing goes wrong in a sound world, however far it is run. -/
theorem upTo_completes {w : World} (h : w.Sound) {chance : Chance}
    (hfair : chance.Fair w.creatures.length) (number : Int) (whole part : Nat) :
    (upTo number whole part w chance).Completes w := by
  induction whole generalizing number w chance with
  | zero =>
    simp only [upTo, runMany, Episode.done_andThen]
    refine (turns_completes h (fun me hme => ?_) _ _).map _
    exact (Chance.order_within hfair.within).1 me (List.mem_of_mem_take hme)
  | succ whole ih =>
    rw [upTo_succ]
    have hrun := run_completes h number hfair.within
    exact hrun.andThen fun t _ => (ih (hrun.sound h) (fair_run hfair number) _).map _

end Round

end Vivarium
