import Vivarium.Proofs.Completion
import Vivarium.Proofs.Turn.Frame
import Vivarium.Proofs.World.Agreement

/-!
A turn looks at nothing, and changes nothing, but the cells next to its creature and those who are
there. So turns of creatures that are far from each other can be taken in either order.
-/
namespace Vivarium

/-- Two changes come to the same on a part of the plane, and tell the same. -/
structure Change.AgreeOn (S : Pos → Prop) (a b : Change) : Prop where
  world : a.world.AgreeOn S b.world
  result : a.result = b.result

/-- Two stretches come to the same on a part of the plane, and are otherwise the same. -/
structure Episode.AgreeOn {α : Type} (S : Pos → Prop) (e e' : Episode α) : Prop where
  world : e.world.AgreeOn S e'.world
  chance : e.chance = e'.chance
  events : e.events = e'.events
  notices : e.notices = e'.notices
  result : e.result = e'.result

namespace Episode.AgreeOn

variable {α β : Type} {S : Pos → Prop}

theorem done (a : α) {v w : World} (h : v.AgreeOn S w) (chance : Chance) :
    AgreeOn S (Episode.done a v chance) (Episode.done a w chance) :=
  ⟨h, rfl, rfl, rfl, rfl⟩

theorem failed (f : Fault) {v w : World} (h : v.AgreeOn S w) (chance : Chance) :
    AgreeOn S (Episode.failed f v chance : Episode α) (Episode.failed f w chance) :=
  ⟨h, rfl, rfl, rfl, rfl⟩

theorem ofChange {x y : Change} (h : x.AgreeOn S y) (a : α) (chance : Chance) :
    AgreeOn S (Episode.ofChange x a chance) (Episode.ofChange y a chance) where
  world := h.world
  chance := rfl
  events := by simp only [Episode.ofChange, Change.events, h.result]
  notices := rfl
  result := by simp only [Episode.ofChange, h.result]

theorem andThen {e e' : Episode α} {next : α → World → Chance → Episode β} (h : AgreeOn S e e')
    (hn : ∀ a, e.result = .ok a → AgreeOn S (next a e.world e.chance) (next a e'.world e.chance)) :
    AgreeOn S (e.andThen next) (e'.andThen next) := by
  cases hr : e.result with
  | error f =>
    rw [andThen_of_error hr, andThen_of_error (h.result ▸ hr)]
    exact ⟨h.world, h.chance, h.events, h.notices, rfl⟩
  | ok a =>
    rw [andThen_of_ok hr, andThen_of_ok (h.result ▸ hr), ← h.chance]
    have hrest := hn a hr
    exact ⟨hrest.world, hrest.chance, by rw [h.events, hrest.events],
      by rw [h.notices, hrest.notices], hrest.result⟩

theorem map {e e' : Episode α} (h : AgreeOn S e e') (f : α → β) :
    AgreeOn S (e.map f) (e'.map f) :=
  ⟨h.world, h.chance, h.events, h.notices, congrArg (Except.map f) h.result⟩

end Episode.AgreeOn

namespace World.AgreeOn

variable {S : Pos → Prop} {v w : World} {id : Nat} {c : Creature}

theorem hold (h : v.AgreeOn S w) (me : Nat) (t : Stance) :
    (v.hold me t).AgreeOn S (w.hold me t) := h.modify (·.pos_hold t) me

theorem turn (h : v.AgreeOn S w) (hv : v.creatures[id]? = some c) (hw : w.creatures[id]? = some c)
    (heading : Heading) : (v.turn id heading).AgreeOn S (w.turn id heading) := by
  rw [turn_eq hv, turn_eq hw]
  exact ⟨h.modify (f := ({ · with heading })) (fun _ => rfl) id, rfl⟩

theorem infect (h : v.AgreeOn S w) (hv : v.creatures[id]? = some c)
    (hw : w.creatures[id]? = some c) (species pc : Nat) :
    (v.infect id species pc).AgreeOn S (w.infect id species pc) := by
  refine ⟨?_, ?_⟩
  · rw [world_infect, world_infect]
    exact h.modify (f := ({ · with species, pc })) (fun _ => rfl) id
  · simp only [World.infect, hv, hw, species_modify, h.species]
    cases w.species[species]? <;> rfl

theorem hop (h : v.AgreeOn S w) (hv : v.creatures[id]? = some c) (hw : w.creatures[id]? = some c)
    {target : Pos} (hto : v.grid.Contains target) :
    (v.move id target).AgreeOn S (w.move id target) := by
  by_cases hfrom : v.grid.Contains c.pos
  · refine ⟨h.move hv hw hfrom hto, ?_⟩
    rw [move_eq hv hfrom hto, move_eq hw ((h.contains _).1 hfrom) ((h.contains _).1 hto)]
  · have hfrom' : ¬ w.grid.Contains c.pos := fun hc => hfrom ((h.contains _).2 hc)
    rw [move_of_not_contains hv hfrom, move_of_not_contains hw hfrom']
    exact ⟨h, rfl⟩

end World.AgreeOn

namespace Turn

/-- The part of the plane that a turn at `p` is about: the cell `p` and those next to it. -/
def Near (p q : Pos) : Prop := p.distance q ≤ 1

section Local

variable {S : Pos → Prop} {v w : World} {me : Nat} {c : Creature} (h : v.AgreeOn S w)
  (ht : v.Truthful) (hv : v.creatures[me]? = some c) (hS : ∀ q, Near c.pos q → S q)

include h hv hS

theorem actor_agree : w.creatures[me]? = some c :=
  (h.creatures me c (hS _ (by simp [Near]))).1 hv

omit hv in
theorem ahead_agree : v.grid.occupant? c.ahead = w.grid.occupant? c.ahead :=
  h.cells _ (hS _ (by simp [Near, Creature.ahead]))

omit hv in
include ht in
theorem exists_ahead {other : Nat} (ho : v.grid.occupant? c.ahead = some other) :
    ∃ d, v.creatures[other]? = some d ∧ w.creatures[other]? = some d := by
  obtain ⟨d, hd, hpos⟩ := World.pos?_eq_some.1 (ht _ _ ho)
  have hnear : S d.pos := hpos ▸ hS _ (by simp [Near, Creature.ahead])
  exact ⟨d, hd, (h.creatures other d hnear).1 hd⟩

omit hv in
include ht in
theorem holds_agree (chance : Chance) (condition : Condition) :
    holds v chance me c condition = holds w chance me c condition := by
  have hcontains : v.grid.Contains c.ahead ↔ w.grid.Contains c.ahead := h.contains _
  have hahead := ahead_agree h hS
  cases condition with
  | empty => simp only [holds, hcontains, hahead]
  | wall => simp only [holds, hcontains]
  | same => simp only [holds, hahead]
  | enemy =>
    simp only [holds, ← hahead]
    cases ho : v.grid.occupant? c.ahead with
    | none => rfl
    | some other =>
      obtain ⟨d, hd, hd'⟩ := exists_ahead h ht hS ho
      simp [hd, hd']
  | random => rfl
  | always => rfl

theorem jump_agree (chance : Chance) (p : Program) (condition : Condition) (target : String) :
    (jump v chance me c p condition target).AgreeOn S (jump w chance me c p condition target) := by
  have hw := actor_agree h hv hS
  have harrive {v w : World} (h : v.AgreeOn S w) (pc : Nat) : Episode.AgreeOn S
      (.done Progress.goesOn (v.modify me ({ · with pc })) chance)
      (.done Progress.goesOn (w.modify me ({ · with pc })) chance) :=
    .done _ (h.modify (f := ({ · with pc })) (fun _ => rfl) me) chance
  unfold jump
  cases swerve? c.heading condition with
  | none =>
    refine (Episode.AgreeOn.done () h chance).andThen fun _ _ => ?_
    cases p.address? target with
    | none => exact .failed _ h chance
    | some pc => exact harrive h pc
  | some heading =>
    have hturn := h.turn hv hw heading
    refine (Episode.AgreeOn.ofChange hturn () chance).andThen fun _ _ => ?_
    cases p.address? target with
    | none => exact .failed _ hturn.world chance
    | some pc => exact harrive hturn.world pc

include ht in
theorem evaluate_agree (chance : Chance) (p : Program) (i : Instruction) :
    (evaluate v chance me c p i).AgreeOn S (evaluate w chance me c p i) := by
  have hw := actor_agree h hv hS
  have hcontains : v.grid.Contains c.ahead ↔ w.grid.Contains c.ahead := h.contains _
  have hahead := ahead_agree h hS
  cases i with
  | hop =>
    simp only [evaluate, ← hcontains, ← hahead]
    split
    · next hfree => exact .ofChange (h.hop hv hw hfree.1) _ chance
    · exact .done _ h chance
  | left => exact .ofChange (h.turn hv hw _) _ chance
  | right => exact .ofChange (h.turn hv hw _) _ chance
  | infect entry =>
    simp only [evaluate, ← hahead]
    cases ho : v.grid.occupant? c.ahead with
    | none => exact .done _ h chance
    | some other =>
      obtain ⟨d, hd, hd'⟩ := exists_ahead h ht hS ho
      cases entry with
      | none => exact .ofChange (h.infect hd hd' _ _) _ chance
      | some name =>
        dsimp only
        cases p.address? name with
        | none => exact .failed _ h chance
        | some start => exact .ofChange (h.infect hd hd' _ _) _ chance
  | jump condition target =>
    simp only [evaluate, holds_agree h ht hS]
    split
    · exact jump_agree h hv hS _ p condition target
    · exact .done _ h _
  | label name => exact .done _ h chance

end Local

theorem loop_agree {S : Pos → Prop} {v w : World} {me : Nat} {c : Creature} {s : Species}
    (h : v.AgreeOn S w) (ht : v.Truthful) (ha : v.Actor me c s) (hS : ∀ q, Near c.pos q → S q)
    (budget : Int) (left steps : Nat) (chance : Chance) :
    (loop me s budget left steps v chance).AgreeOn S (loop me s budget left steps w chance) := by
  induction left generalizing v w c steps chance with
  | zero =>
    have hw := actor_agree h ha.creature hS
    simp only [loop, ha.creature, hw]
    exact .failed _ h chance
  | succ left ih =>
    have ha' : w.Actor me c s := ⟨actor_agree h ha.creature hS, h.species ▸ ha.species⟩
    simp only [loop, fetch_eq ha, fetch_eq ha']
    cases hi : s.program.code[s.program.wrap c.pc]? with
    | none => exact .failed _ h chance
    | some i =>
      have hf : fetch v me s.program =
          .ok (c, i, v.hold me ⟨c.heading, s.program.wrap c.pc + 1⟩) := by
        simp only [fetch_eq ha, hi]
      have hfetched := h.hold me ⟨c.heading, s.program.wrap c.pc + 1⟩
      have hev := evaluate_agree hfetched (ht.hold me _) (ha.hold _).creature hS chance s.program i
      rw [evaluate_hold, evaluate_hold] at hev
      refine hev.andThen fun progress hr => ?_
      cases progress with
      | ended moved infected => exact .done _ hev.world _
      | goesOn =>
        -- the creature is still where it was, so the same part of the plane is about it
        have hcourse := fetch_evaluate_course ha hf chance
        simp only [hr] at hcourse
        obtain ⟨hs, pc, -, hheld, -⟩ := hcourse.goesOn ha
        have hworld := hev.world
        rw [hheld] at hworld ⊢
        exact ih hworld (ht.hold me _) (ha.hold _) hS _ _

theorem run_agree {S : Pos → Prop} {v w : World} {me : Nat} {c : Creature} (h : v.AgreeOn S w)
    (ht : v.Truthful) (hc : v.creatures[me]? = some c) (hS : ∀ q, Near c.pos q → S q)
    (chance : Chance) (budget : Option Int) :
    (run v chance me budget).AgreeOn S (run w chance me budget) := by
  have hspecies : w.speciesOf? me = v.speciesOf? me := by
    simp [World.speciesOf?, hc, actor_agree h hc hS, h.species]
  unfold run
  rw [hspecies]
  cases hs : v.speciesOf? me with
  | none => exact .failed _ h chance
  | some s =>
    obtain ⟨c', ha⟩ := World.exists_actor hs
    obtain rfl := Option.some.inj (hc.symm.trans ha.creature)
    exact loop_agree h ht ha hS _ _ 0 chance

theorem take_agree {S : Pos → Prop} {v w : World} {me : Nat} {c : Creature} (h : v.AgreeOn S w)
    (ht : v.Truthful) (hc : v.creatures[me]? = some c) (hS : ∀ q, Near c.pos q → S q)
    (chance : Chance) : (take v chance me).AgreeOn S (take w chance me) := by
  have hrun := run_agree h ht hc hS chance none
  unfold take
  dsimp only
  rw [← hrun.result]
  split
  · next s b pc hr =>
    have hpos := pos?_of_error hc hr
    have hpos' := pos?_of_error (actor_agree h hc hS) (hrun.result.symm.trans hr)
    simp only [World.pos?] at hpos hpos'
    exact ⟨hrun.world, hrun.chance, hrun.events, by rw [hrun.notices, hpos, hpos'], rfl⟩
  · exact hrun.map some

theorem run_outside {w : World} (ht : w.Truthful) {me : Nat} {c : Creature}
    (hc : w.creatures[me]? = some c) (chance : Chance) (budget : Option Int) :
    (run w chance me budget).world.AgreeOn (fun q => ¬ Near c.pos q) w := by
  have hself : ¬ ¬ Near c.pos c.pos := by simp [Near]
  have hahead (d : Heading) : ¬ ¬ Near c.pos (c.pos.step d) := by simp [Near]
  have hhold (t : Stance) : (w.hold me t).AgreeOn (fun q => ¬ Near c.pos q) w :=
    .modify_outside hc hself hself
  have hcourse := run_course w chance me budget
  dsimp only at hcourse
  generalize (run w chance me budget).world = v, (run w chance me budget).events = es,
    (run w chance me budget).result.map Outcome.progress = r at hcourse ⊢
  cases hcourse with
  | idle => exact .refl _ w
  | held hs pc ha =>
    obtain rfl := Option.some.inj (hc.symm.trans ha.creature)
    exact hhold _
  | moved hs pc target ha _ htarget hfrom hto =>
    obtain rfl := Option.some.inj (hc.symm.trans ha.creature)
    subst htarget
    exact .trans (.move_outside (ha.hold _).creature hfrom hto hself (hahead _)) (hhold _)
  | infected hs pc other p entry start ha _ ho =>
    obtain rfl := Option.some.inj (hc.symm.trans ha.creature)
    obtain ⟨d, hd, hpos⟩ := World.pos?_eq_some.1 (ht.hold me _ _ _ ho)
    have hnear : ¬ ¬ Near c.pos d.pos := hpos ▸ hahead _
    rw [World.world_infect]
    exact .trans (.modify_outside hd hnear hnear) (hhold _)

theorem chance_take {w : World} {chance : Chance} {me : Nat}
    (h : ∀ i ∈ evaluated w chance me, i.opcode ≠ .jump .random) :
    (take w chance me).chance = chance := by
  refine Eq.trans ?_ (chance_run h)
  unfold take
  dsimp only
  split <;> rfl

theorem Near.not_near {p q r : Pos} (hfar : 3 ≤ p.distance q) (hp : Near p r) : ¬ Near q r := by
  intro hq
  have htriangle := p.distance_triangle r q
  rw [r.distance_comm q] at htriangle
  unfold Near at hp hq
  omega

/-- A turn comes to the same after that of a distant creature, and leaves what that one has done. -/
theorem take_after_distant {w : World} (ht : w.Truthful) {a b : Nat} {c d : Creature}
    (ha : w.creatures[a]? = some c) (hb : w.creatures[b]? = some d)
    (hfar : 3 ≤ c.pos.distance d.pos) {chance : Chance}
    (hca : ∀ i ∈ evaluated w chance a, i.opcode ≠ .jump .random) :
    let first := take w chance a
    let second := take first.world first.chance b
    (take w chance b).AgreeOn (Near d.pos) second ∧
      second.world.AgreeOn (fun q => ¬ Near d.pos q) first.world ∧
      first.world.AgreeOn (fun q => ¬ Near c.pos q) w := by
  dsimp only
  have hout := run_outside ht ha chance none
  have htruth : (run w chance a).world.Truthful := ht.turn chance a none
  have hagree : w.AgreeOn (Near d.pos) (run w chance a).world :=
    hout.symm.mono fun q hq hp => hp.not_near hfar hq
  have hb' := actor_agree hagree hb fun q hq => hq
  rw [chance_take hca, world_take, world_take]
  exact ⟨take_agree hagree ht hb (fun q hq => hq) chance, run_outside htruth hb' chance none, hout⟩

/-- Turns of creatures at a distance of three or more, neither of which asks a coin, come to the
same in either order: to the same world, and to the same outcome of each. -/
theorem distant_turns_commute {rule : World → Act → Prop} {w : World} (h : w.Reachable rule)
    {a b : Nat} {c d : Creature} (ha : w.creatures[a]? = some c) (hb : w.creatures[b]? = some d)
    (hfar : 3 ≤ c.pos.distance d.pos) {chance : Chance}
    (hca : ∀ i ∈ evaluated w chance a, i.opcode ≠ .jump .random)
    (hcb : ∀ i ∈ evaluated w chance b, i.opcode ≠ .jump .random) :
    let first := take w chance a
    let second := take first.world first.chance b
    let first' := take w chance b
    let second' := take first'.world first'.chance a
    second.world = second'.world ∧ second.chance = second'.chance ∧
      first.result = second'.result ∧ second.result = first'.result := by
  have ht := World.truthful_of_reachable h
  have hfar' : 3 ≤ d.pos.distance c.pos := d.pos.distance_comm c.pos ▸ hfar
  obtain ⟨hsecond, hleaves, hfirst⟩ := take_after_distant ht ha hb hfar hca
  obtain ⟨hsecond', hleaves', hfirst'⟩ := take_after_distant ht hb ha hfar' hcb
  refine ⟨World.AgreeOn.eq (.of_split (Near c.pos) ?_ (.of_split (Near d.pos) ?_ ?_)), ?_,
    hsecond'.result, hsecond.result.symm⟩
  · -- near the one creature
    exact .trans (hleaves.mono fun q hq => hq.2.not_near hfar)
      (hsecond'.world.mono fun q hq => hq.2)
  · -- near the other one
    exact .trans (hsecond.world.symm.mono fun q hq => hq.2)
      (hleaves'.symm.mono fun q hq => hq.1.2)
  · -- near neither
    exact .trans (hleaves.mono fun q hq => hq.2) (.trans (hfirst.mono fun q hq => hq.1.2)
      (.trans (hfirst'.symm.mono fun q hq => hq.2) (hleaves'.symm.mono fun q hq => hq.1.2)))
  · rw [← hsecond.chance, ← hsecond'.chance, chance_take hca, chance_take hcb]

/-- An infector has a hopper ahead; another hopper, three steps away, is about to hop towards it. -/
def row : World :=
  (Act.spawn 0 ⟨4, 0⟩ .west).after <| (Act.spawn 0 ⟨2, 0⟩ .north).after <|
    (Act.spawn 1 ⟨1, 0⟩ .east).after <| (Act.enrol World.infector).after <|
    (Act.enrol World.hopper).after ⟨.empty 5 1, [], []⟩

theorem distant_turns_commute_row :
    let still : Chance := ⟨[], [], ⟨#[], 0⟩⟩
    let after := (take (take row still 0).world (take row still 0).chance 2).world
    row.Reachable (fun _ _ => True) ∧
      after.creatures = [⟨1, ⟨1, 0⟩, .east, 1⟩, ⟨1, ⟨2, 0⟩, .north, 0⟩, ⟨0, ⟨3, 0⟩, .west, 1⟩] ∧
      (take (take row still 2).world (take row still 2).chance 0).world = after := by
  intro still after
  have hw : row.Reachable (fun _ _ => True) :=
    ⟨5, 1, ⟨.empty 5 1, [], []⟩, _, rfl,
      .act (.act (.act (.act (.act .start ⟨⟩) ⟨⟩) ⟨⟩) ⟨⟩) ⟨⟩⟩
  have ha : row.creatures[0]? = some ⟨1, ⟨1, 0⟩, .east, 0⟩ := by decide
  have hb : row.creatures[2]? = some ⟨0, ⟨4, 0⟩, .west, 0⟩ := by decide
  have hca : ∀ i ∈ evaluated row still 0, i.opcode ≠ .jump .random := by decide
  have hcb : ∀ i ∈ evaluated row still 2, i.opcode ≠ .jump .random := by decide
  have hcommute := distant_turns_commute hw ha hb (by decide) hca hcb
  exact ⟨hw, by decide, hcommute.1.symm⟩

end Turn
end Vivarium
