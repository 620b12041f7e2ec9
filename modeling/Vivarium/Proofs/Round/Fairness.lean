import Vivarium.Proofs.Program.Listing
import Vivarium.Proofs.Round.Whole
import Vivarium.Proofs.World.Agreement

/-!
Fair rounds: everyone has one turn, and what a round is said to have come to is what has happened in
it. The tally is counted from outcomes, so each turn has to tell by its events and notices what its
outcome says.
-/
namespace Vivarium

namespace Event

def isMoved : Event → Bool
  | .moved .. => true
  | _ => false

def isChanged : Event → Bool
  | .changed .. => true
  | _ => false

end Event

/-- Between two tallies there are the events and the notices of a stretch, and no turn is counted
for two things. -/
structure Tally.Counts (t : Tally) (events : List Event) (notices : List Notice) (t' : Tally) :
    Prop where
  moves : t'.moves = t.moves + events.countP Event.isMoved
  infections : t'.infections = t.infections + events.countP Event.isChanged
  aborted : t'.aborted = t.aborted + notices.length
  once : t'.moves + t'.infections + t'.aborted + t.turns ≤
    t.moves + t.infections + t.aborted + t'.turns

namespace Tally.Counts

variable {t t' t'' : Tally} {es fs : List Event} {ns ms : List Notice}

theorem refl (t : Tally) : t.Counts [] [] t := ⟨by simp, by simp, by simp, Int.le_refl _⟩

theorem append (h : t.Counts es ns t') (h' : t'.Counts fs ms t'') :
    t.Counts (es ++ fs) (ns ++ ms) t'' := by
  obtain ⟨hmoves, hinfections, haborted, honce⟩ := h
  obtain ⟨hmoves', hinfections', haborted', honce'⟩ := h'
  constructor
  · rw [List.countP_append]
    omega
  · rw [List.countP_append]
    omega
  · rw [List.length_append]
    omega
  · omega

end Tally.Counts

namespace Turn

section Notices

variable (w : World) (chance : Chance) (me : Nat) (c : Creature) (p : Program)

theorem notices_jump (condition : Condition) (target : String) :
    (jump w chance me c p condition target).notices = [] := by
  unfold jump
  apply Episode.notices_andThen
  · cases swerve? c.heading condition <;> rfl
  · intro _ v d
    cases p.address? target <;> rfl

theorem notices_evaluate (i : Instruction) : (evaluate w chance me c p i).notices = [] := by
  cases i with
  | hop =>
    simp only [evaluate]
    split <;> rfl
  | infect entry =>
    simp only [evaluate]
    split
    · rfl
    · cases entry with
      | none => rfl
      | some name =>
        dsimp only
        split <;> rfl
  | jump condition target =>
    simp only [evaluate]
    split
    · apply notices_jump
    · rfl
  | _ => rfl

theorem notices_loop (s : Species) (budget : Int) (left steps : Nat) :
    (loop me s budget left steps w chance).notices = [] := by
  induction left generalizing steps w chance with
  | zero => rfl
  | succ left ih =>
    unfold loop
    split
    · rfl
    · apply Episode.notices_andThen
      · apply notices_evaluate
      · intro progress v d
        cases progress with
        | ended moved infected => rfl
        | goesOn => exact ih v d (steps + 1)

/-- A turn itself gives no notice; only who gives it up does. -/
theorem notices_run (budget : Option Int) : (run w chance me budget).notices = [] := by
  unfold run
  split
  · rfl
  · apply notices_loop

end Notices

/-- What a course has come to is told by its events: a move by one that says so, a takeover by one
that says so, and nothing else by either. -/
theorem Course.counts {w v : World} {me : Nat} {es : List Event} {r : Except Fault Progress}
    (h : Course w me v es r) :
    (∀ f, r = .error f → es.countP Event.isMoved = 0 ∧ es.countP Event.isChanged = 0) ∧
    ∀ moved infected, r = .ok (.ended moved infected) →
      es.countP Event.isMoved = moved.toNat ∧ es.countP Event.isChanged = infected.toNat ∧
        moved.toNat + infected.toNat ≤ 1 := by
  have hmoved (me : Nat) (p : Pos) (hs : List Heading) :
      (hs.map (Event.turned me p)).countP Event.isMoved = 0 := by
    simp [List.countP_map, Function.comp_def, Event.isMoved]
  have hchanged (me : Nat) (p : Pos) (hs : List Heading) :
      (hs.map (Event.turned me p)).countP Event.isChanged = 0 := by
    simp [List.countP_map, Function.comp_def, Event.isChanged]
  cases h with
  | idle f => simp
  | held hs pc _ _ hr =>
    refine ⟨fun f _ => ⟨hmoved .., hchanged ..⟩, fun moved infected hended => ?_⟩
    obtain ⟨rfl, rfl⟩ := hr moved infected hended
    exact ⟨hmoved .., hchanged .., by decide⟩
  | moved hs pc target =>
    refine ⟨by simp, fun moved infected hended => ?_⟩
    obtain ⟨rfl, rfl⟩ := Progress.ended.inj (Except.ok.inj hended)
    simp [hmoved, hchanged, Event.isMoved, Event.isChanged]
  | infected hs pc other p entry start =>
    refine ⟨by simp, fun moved infected hended => ?_⟩
    obtain ⟨rfl, rfl⟩ := Progress.ended.inj (Except.ok.inj hended)
    simp [hmoved, hchanged, Event.isMoved, Event.isChanged]

theorem take_cases {w : World} {chance : Chance} {me : Nat} {o : Option Outcome}
    (h : (take w chance me).result = .ok o) :
    (∃ outcome, o = some outcome ∧ (run w chance me).result = .ok outcome ∧
      (take w chance me).notices = []) ∨
    ∃ name b pc pos, o = none ∧ (run w chance me).result = .error (.runaway name b pc) ∧
      (take w chance me).notices = [⟨me, pos, .runaway name b pc⟩] := by
  have hnotices := notices_run w chance me none
  unfold take at h ⊢
  dsimp only at h ⊢
  cases hr : (run w chance me).result with
  | ok outcome =>
    simp only [hr, Episode.map, Except.map, Except.ok.injEq] at h ⊢
    exact .inl ⟨outcome, h.symm, rfl, hnotices⟩
  | error f =>
    cases f with
    | runaway name b pc =>
      simp only [hr, hnotices, List.nil_append, Except.ok.injEq] at h ⊢
      exact .inr ⟨name, b, pc, _, h.symm, rfl, rfl⟩
    | _ => simp [hr, Episode.map, Except.map] at h

theorem take_counts {w : World} {chance : Chance} {me : Nat} {o : Option Outcome}
    (h : (take w chance me).result = .ok o) (t : Tally) :
    t.Counts (take w chance me).events (take w chance me).notices (t.count o) := by
  obtain ⟨hgiven, hended⟩ := Course.counts (run_course w chance me none)
  rw [events_take]
  dsimp only [Act.events]
  rcases take_cases h with ⟨outcome, rfl, hr, hnotices⟩ | ⟨name, b, pc, pos, rfl, hr, hnotices⟩
  · rw [hr] at hended
    obtain ⟨hmoves, hinfections, honce⟩ := hended outcome.moved outcome.infected rfl
    have hcount (b : Bool) (n : Int) : (if b = true then n + 1 else n) = n + b.toNat := by
      cases b <;> simp
    rw [hnotices]
    constructor <;>
      simp only [Tally.count, hcount, hmoves, hinfections, List.length_nil] <;> omega
  · rw [hr] at hgiven
    obtain ⟨hmoves, hinfections⟩ := hgiven (.runaway name b pc) rfl
    rw [hnotices]
    constructor <;> simp only [Tally.count, hmoves, hinfections, List.length_singleton] <;> omega

theorem exists_name_of_runaway {w : World} (h : w.Sound) {me : Nat} (hme : me < w.creatures.length)
    {chance : Chance} {name : String} {b : Int} {pc : Nat}
    (hr : (run w chance me).result = .error (.runaway name b pc)) :
    ∃ s ∈ w.species, s.name = name := by
  obtain ⟨c, s, ha, -⟩ := h.exists_actor hme
  refine ⟨s, List.mem_of_getElem? ha.species, ?_⟩
  simp only [run, ha.speciesOf?] at hr
  rcases loop_result h ha _ _ 0 chance with ⟨o, ho⟩ | ⟨pc', hpc⟩
  · cases ho.symm.trans hr
  · cases hpc.symm.trans hr
    rfl

/-- A turn takes nobody but its creature to another place, and that one to a place next to it. -/
theorem Course.pos?_of_ne {w v : World} {me id : Nat} {es : List Event} {r : Except Fault Progress}
    (h : Course w me v es r) (hid : id ≠ me) : v.pos? id = w.pos? id := by
  cases h with
  | idle f => rfl
  | held hs pc => apply World.pos?_hold
  | moved hs pc target ha _ _ hfrom hto =>
    rw [World.pos?_move (ha.hold _).creature hfrom hto, if_neg hid.symm, World.pos?_hold]
  | infected hs pc other p entry start => rw [World.pos?_infect, World.pos?_hold]

theorem Course.distance_le {w v : World} {me : Nat} {es : List Event} {r : Except Fault Progress}
    (h : Course w me v es r) {p : Pos} (hp : w.pos? me = some p) :
    ∃ q, v.pos? me = some q ∧ p.distance q ≤ 1 := by
  cases h with
  | idle f => exact ⟨p, hp, by simp⟩
  | held hs pc => exact ⟨p, (World.pos?_hold ..).trans hp, by simp⟩
  | moved hs pc target ha _ htarget hfrom hto =>
    obtain rfl := Option.some.inj ((World.pos?_of_creature ha.creature).symm.trans hp)
    refine ⟨target, ?_, by simp [htarget]⟩
    rw [World.pos?_move (ha.hold _).creature hfrom hto, if_pos rfl]
  | infected hs pc other q entry start =>
    refine ⟨p, ?_, by simp⟩
    rw [World.pos?_infect, World.pos?_hold, hp]

end Turn

theorem Pos.isLine_text (p : Pos) : Text.IsLine p.text := by
  unfold Pos.text
  simp only [Text.isLine_append, Text.isLine_toString_int]
  decide

theorem Fault.isLine_message_runaway {name : String} (hname : Text.IsLine name) (b : Int)
    (pc : Nat) : Text.IsLine (runaway name b pc).message := by
  unfold message
  dsimp only
  simp only [Text.isLine_append, Text.isLine_toString, Text.isLine_toString_int]
  refine ⟨⟨⟨⟨⟨⟨?_, hname⟩, ?_⟩, trivial⟩, ?_⟩, trivial⟩, ?_⟩ <;> decide +kernel

theorem Notice.isLine_text {n : Notice} {name : String} {b : Int} {pc : Nat}
    (hfault : n.fault = .runaway name b pc) (hname : Text.IsLine name) : Text.IsLine n.text := by
  have hmessage := Fault.isLine_message_runaway hname b pc
  unfold Notice.text
  rw [hfault]
  simp only [Text.isLine_append, Text.isLine_toString]
  refine ⟨⟨⟨⟨⟨⟨?_, trivial⟩, ?_⟩, n.pos.isLine_text⟩, ?_⟩, hmessage⟩, ?_⟩ <;> decide +kernel

namespace Round

theorem turns_counts {tally t : Tally} {order : List Nat} {w : World} {chance : Chance}
    (h : (turns tally order w chance).result = .ok t) :
    tally.Counts (turns tally order w chance).events (turns tally order w chance).notices t := by
  induction order generalizing tally w chance with
  | nil =>
    obtain rfl := Except.ok.inj h
    exact .refl tally
  | cons me rest ih =>
    obtain ⟨o, ho, hrest⟩ := Episode.ok_of_andThen h
    rw [turns, Episode.andThen_of_ok ho]
    exact (Turn.take_counts ho tally).append (ih hrest)

theorem exists_name_of_notice {order : List Nat} {w : World} (h : w.Sound)
    (ho : ∀ me ∈ order, me < w.creatures.length) (tally : Tally) (chance : Chance) {n : Notice}
    (hn : n ∈ (turns tally order w chance).notices) :
    ∃ s ∈ w.species, ∃ b pc, n.fault = .runaway s.name b pc := by
  induction order generalizing tally w chance with
  | nil => cases hn
  | cons me rest ih =>
    have hme := ho me List.mem_cons_self
    have htake := Turn.take_completes h hme chance
    obtain ⟨o, hresult⟩ := htake.ok
    rw [turns, Episode.andThen_of_ok hresult] at hn
    rcases List.mem_append.1 hn with hn | hn
    · rcases Turn.take_cases hresult with ⟨-, -, -, hnone⟩ | ⟨name, b, pc, pos, -, hr, hone⟩
      · simp [hnone] at hn
      · obtain rfl := List.mem_singleton.1 (hone ▸ hn)
        obtain ⟨s, hs, rfl⟩ := Turn.exists_name_of_runaway h hme hr
        exact ⟨s, hs, b, pc, rfl⟩
    · have hspecies : (Turn.take w chance me).world.species = w.species := by
        rw [Turn.world_take, Act.species_after_turn]
      have hlength : (Turn.take w chance me).world.creatures.length = w.creatures.length := by
        rw [Turn.world_take, Act.length_after_turn]
      have hexists := ih (htake.sound h)
        (fun i hi => hlength ▸ ho i (List.mem_cons_of_mem me hi)) _ _ hn
      rwa [hspecies] at hexists

section Positions

variable (tally : Tally) {order : List Nat} {w : World} (chance : Chance) {id : Nat}

theorem pos?_turns (hid : id ∉ order) :
    (turns tally order w chance).world.pos? id = w.pos? id := by
  refine turns_keeps (P := fun v => v.pos? id = w.pos? id) _ _ _ _ rfl fun me hme v c hv => ?_
  have hne : id ≠ me := fun hid' => hid (hid' ▸ hme)
  exact ((Turn.run_course v c me none).pos?_of_ne hne).trans hv

theorem distance_turns (hnodup : order.Nodup) {p : Pos} (hp : w.pos? id = some p) :
    ∃ q, (turns tally order w chance).world.pos? id = some q ∧ p.distance q ≤ 1 := by
  induction order generalizing tally w chance with
  | nil => exact ⟨p, hp, by simp⟩
  | cons me rest ih =>
    obtain ⟨hme, hrest⟩ := List.nodup_cons.1 hnodup
    have hcourse := Turn.run_course w chance me none
    have hworld : (Turn.take w chance me).world = (Turn.run w chance me).world :=
      Turn.world_take w chance me
    by_cases hid : id = me
    · subst hid
      obtain ⟨q, hq, hd⟩ := hcourse.distance_le hp
      refine ⟨q, ?_, hd⟩
      exact Episode.andThen_keeps (P := fun v _ => v.pos? id = some q) (hworld ▸ hq)
        fun o v d hv => (pos?_turns (tally.count o) d hme).trans hv
    · have hstays : (Turn.take w chance me).world.pos? id = some p := by
        rw [hworld, hcourse.pos?_of_ne hid, hp]
      cases hr : (Turn.take w chance me).result with
      | error f =>
        rw [turns, Episode.andThen_of_error hr]
        exact ⟨p, hstays, by simp⟩
      | ok o =>
        rw [turns, Episode.andThen_of_ok hr]
        exact ih (tally.count o) _ hrest hstays

end Positions

end Round

theorem Species.isLine_name {source : String} {colour : Colour} {s : Species}
    (h : ofSource source colour = .ok s) : Text.IsLine s.name := by
  unfold ofSource at h
  cases hp : Program.parse source with
  | error e => simp [hp] at h
  | ok parsed =>
    obtain ⟨name, p⟩ := parsed
    simp only [hp, Except.ok.injEq] at h
    subst h
    exact Program.isLine_of_parse hp

theorem World.isLine_names {w : World} (h : w.Reachable Act.Lawful) :
    ∀ s ∈ w.species, Text.IsLine s.name := by
  refine h.invariant (P := fun v => ∀ s ∈ v.species, Text.IsLine s.name) (by simp)
    fun v a hv ha => ?_
  cases a with
  | enrol s =>
    obtain ⟨source, colour, hs⟩ := ha
    exact List.forall_mem_append.2 ⟨hv, by simpa using Species.isLine_name hs⟩
  | spawn species p heading =>
    rw [Act.after, world_spawn]
    exact hv
  | turn me chance budget =>
    rw [Act.species_after_turn]
    exact hv

namespace Round

/-- A round comes to its end, and is nothing but one turn of each creature, in some order. Its tally
is of as many turns as there are creatures, of the moves and the infections that events have told,
and of the turns given up that notices have, each in a line of its own; no turn is more than one of
these. Nobody ends it further than one step from where it began. -/
theorem run_once_each {w : World} (h : w.Reachable Act.Lawful) {chance : Chance}
    (hfair : chance.Fair w.creatures.length) (number : Int) :
    let n := w.creatures.length
    let e := run number w chance
    ∃ t, e.result = .ok t ∧
      (∃ order next, order.Perm (List.range n) ∧
        e = (Turn.takeAll order w next).map fun outcomes =>
          outcomes.foldl Tally.count { round := number }) ∧
      t.turns = n ∧ t.moves = e.events.countP Event.isMoved ∧
      t.infections = e.events.countP Event.isChanged ∧ t.aborted = e.notices.length ∧
      (∀ notice ∈ e.notices, Text.IsLine notice.text) ∧
      t.moves + t.infections + t.aborted ≤ t.turns ∧
      ∀ id p, w.pos? id = some p → ∃ q, e.world.pos? id = some q ∧ p.distance q ≤ 1 := by
  intro n e
  have hsound := World.sound_of_reachable h
  have hnames := World.isLine_names h
  obtain ⟨t, ht⟩ := (run_completes hsound number hfair.within).ok
  obtain ⟨hperm, -⟩ := Chance.order_fair hfair
  have hnodup : (chance.order n).1.Nodup := hperm.nodup_iff.2 List.nodup_range
  have hturns := (counted_turns { round := number } (chance.order n).1 w _ ht).1
  rw [hperm.length_eq, List.length_range] at hturns
  have hcounts : Tally.Counts { round := number } e.events e.notices t := turns_counts ht
  obtain ⟨hmoves, hinfections, haborted, honce⟩ := hcounts
  refine ⟨t, ht, ⟨_, _, hperm, turns_eq_takeAll _ _ _ _⟩, by simpa using hturns,
    by simpa using hmoves, by simpa using hinfections, by simpa using haborted,
    fun notice hnotice => ?_, by simpa using honce, fun id p hp => distance_turns _ _ hnodup hp⟩
  obtain ⟨s, hs, b, pc, hfault⟩ :=
    exists_name_of_notice hsound (Chance.order_within hfair.within).1 _ _ hnotice
  exact Notice.isLine_text hfault (hnames s hs)

def looper : Species := ⟨"Looper", ⟨0, 0, 0⟩, ⟨#[.label "loop", .jump .always "loop"]⟩⟩

theorem run_once_each_three_ways :
    let w := (Act.spawn 2 ⟨3, 0⟩ .north).after <| (Act.spawn 1 ⟨2, 0⟩ .east).after <|
      (Act.spawn 0 ⟨0, 0⟩ .east).after <| (Act.enrol looper).after <|
      (Act.enrol World.infector).after <| (Act.enrol World.hopper).after ⟨.empty 4 1, [], []⟩
    let chance : Chance := ⟨[], [[2, 0, 1]], ⟨#[], 0⟩⟩
    w.Reachable Act.Lawful ∧ chance.Fair w.creatures.length ∧
      (run 1 w chance).result = .ok ⟨1, 3, 1, 1, 1⟩ ∧
      ∃ q, (run 1 w chance).world.pos? 0 = some q ∧ Pos.distance ⟨0, 0⟩ q ≤ 1 := by
  intro w chance
  have hhopper : Species.ofSource "Hopper\nhop" ⟨0, 0, 0⟩ = .ok World.hopper := by rfl
  have hinfector : Species.ofSource "Infector\ninfect" ⟨0, 0, 0⟩ = .ok World.infector := by rfl
  have hlooper : Species.ofSource "Looper\nloop:\ngo loop" ⟨0, 0, 0⟩ = .ok looper := by
    decide +kernel
  have hw : w.Reachable Act.Lawful :=
    ⟨4, 1, ⟨.empty 4 1, [], []⟩, _, rfl, .act (.act (.act (.act (.act (.act .start
      ⟨_, _, hhopper⟩) ⟨_, _, hinfector⟩) ⟨_, _, hlooper⟩) ⟨by decide, by decide⟩)
      ⟨by decide, by decide⟩) ⟨by decide, by decide⟩⟩
  have hfair : chance.Fair w.creatures.length := by
    intro order ho
    obtain rfl := List.mem_singleton.1 ho
    decide
  obtain ⟨t, ht, -, hturns, hmoves, hinfections, haborted, -, -, hnear⟩ := run_once_each hw hfair 1
  have hround := (counted_turns _ _ _ _ ht).2
  obtain ⟨round, turns, moves, infections, aborted⟩ := t
  have htold : (run 1 w chance).events.countP Event.isMoved = 1 ∧
      (run 1 w chance).events.countP Event.isChanged = 1 ∧ (run 1 w chance).notices.length = 1 := by
    decide +kernel
  rw [htold.1] at hmoves
  rw [htold.2.1] at hinfections
  rw [htold.2.2] at haborted
  dsimp only at hround hturns hmoves hinfections haborted
  subst hround hturns hmoves hinfections haborted
  exact ⟨hw, hfair, ht, hnear 0 ⟨0, 0⟩ (by decide)⟩

end Round

end Vivarium
