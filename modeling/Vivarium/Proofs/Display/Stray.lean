import Vivarium.Display.Scene
import Vivarium.Proofs.World.Known
import Vivarium.Proofs.World.Sound

/-! Marks without creatures and creatures without marks. A creature that a newcomer has pushed out
of its cell empties that cell when it hops away, in the grid and in the scene. The newcomer is then
in a cell that is taken for empty: it is marked again as soon as it turns about, but it has no mark
to take along when it hops. -/
namespace Vivarium

/-- A creature is in a cell that the grid shows empty, and turns about in it without leaving, or
leaves it without turning about. -/
def World.Strays (w : World) (me : Nat) (es : List Event) (v : World) : Prop :=
  ∃ p, w.pos? me = some p ∧ w.grid.occupant? p = none ∧
    ((∃ heading, .turned me p heading ∈ es) ↔ v.pos? me = some p)

def Act.Strays (w : World) : Act → Prop
  | .turn me chance budget =>
    let turn := Turn.run w chance me budget
    w.Strays me turn.events turn.world
  | _ => False

namespace Scene

/-- Just the taken cells are marked. -/
def Covers (s : Scene) (w : World) : Prop := ∀ p, p ∈ s.cells ↔ (w.grid.occupant? p).isSome

section Cells

variable {s : Scene} {p : Pos}

theorem mem_cells_created (s : Scene) (id : Nat) (p : Pos) (heading : Heading) (colour : Colour)
    {q : Pos} : q ∈ (s.apply (.created id p heading colour)).cells ↔ p = q ∨ q ∈ s.cells := by
  simp only [mem_cells, mark?_created]
  split <;> simp [*]

theorem mem_cells_turned (s : Scene) (id : Nat) (p : Pos) (heading : Heading) {q : Pos} :
    q ∈ (s.apply (.turned id p heading)).cells ↔ p = q ∨ q ∈ s.cells := by
  simp only [mem_cells, mark?_turned]
  split <;> simp [*]

theorem mem_cells_changed (s : Scene) (id : Nat) (p : Pos) (colour : Colour) {q : Pos} :
    q ∈ (s.apply (.changed id p colour)).cells ↔ p = q ∨ q ∈ s.cells := by
  simp only [mem_cells, mark?_changed]
  split <;> simp [*]

theorem mem_cells_moved (hp : p ∈ s.cells) (id : Nat) (target : Pos) {q : Pos} :
    q ∈ (s.apply (.moved id p target)).cells ↔ target = q ∨ p ≠ q ∧ q ∈ s.cells := by
  obtain ⟨m, hm⟩ := Option.isSome_iff_exists.1 (mem_cells.1 hp)
  simp only [mem_cells, mark?_moved hm]
  split
  · simp [*]
  · split <;> simp [*]

theorem apply_moved_of_not_mem (hp : p ∉ s.cells) (id : Nat) (target : Pos) :
    s.apply (.moved id p target) = s := by
  rw [mem_cells, Option.not_isSome_iff_eq_none] at hp
  exact apply_moved_of_none hp id target

theorem mem_cells_turns (s : Scene) (id : Nat) (p : Pos) (hs : List Heading) {q : Pos} :
    q ∈ (s.applyAll (hs.map (.turned id p))).cells ↔ (hs ≠ [] ∧ p = q) ∨ q ∈ s.cells := by
  induction hs generalizing s with
  | nil => simp
  | cons d hs ih =>
    rw [List.map_cons, applyAll_cons, ih, mem_cells_turned]
    grind

end Cells

end Scene

namespace World

theorem strays_iff {v w : World} {me : Nat} {es : List Event} {p : Pos} (hp : w.pos? me = some p) :
    w.Strays me es v ↔ w.grid.occupant? p = none ∧
      ((∃ heading, .turned me p heading ∈ es) ↔ v.pos? me = some p) := by
  simp [Strays, hp]

theorem not_strays_of_taken {v w : World} {me : Nat} {es : List Event} {p : Pos}
    (hp : w.pos? me = some p) (ho : (w.grid.occupant? p).isSome) : ¬ w.Strays me es v := by
  rw [strays_iff hp]
  rintro ⟨hnone, -⟩
  simp [hnone] at ho

end World

namespace Scene

section Course

variable {s : Scene} {v w : World} {me : Nat}

theorem covers_turns_iff (hc : s.Covers w) (id : Nat) (p : Pos) (hs : List Heading) :
    (s.applyAll (hs.map (.turned id p))).Covers w ↔
      (hs ≠ [] → (w.grid.occupant? p).isSome) := by
  constructor
  · intro h hne
    exact (h p).1 ((mem_cells_turns s id p hs).2 (.inl ⟨hne, rfl⟩))
  · intro h q
    rw [mem_cells_turns, hc q]
    refine or_iff_right_of_imp ?_
    rintro ⟨hne, rfl⟩
    exact h hne

theorem covers_changed_iff {p : Pos} (hp : p ∈ s.cells) (id : Nat) (colour : Colour) :
    (s.apply (.changed id p colour)).Covers w ↔ s.Covers w := by
  refine forall_congr' fun q => ?_
  rw [mem_cells_changed, or_iff_right_of_imp]
  rintro rfl
  exact hp

/-- Whoever leaves a marked cell takes the mark along; whoever leaves an unmarked one stays
unmarked. -/
theorem covers_moved_iff {c : Creature} {target : Pos} (hcreature : w.creatures[me]? = some c)
    (hfrom : w.grid.Contains c.pos) (hto : w.grid.Contains target) (hfree : target ∉ s.cells)
    (hc : ∀ q, c.pos ≠ q → (q ∈ s.cells ↔ (w.grid.occupant? q).isSome)) :
    (s.apply (.moved me c.pos target)).Covers (w.move me target).world ↔ c.pos ∈ s.cells := by
  simp only [Covers, World.occupant?_move hcreature hfrom hto]
  by_cases hp : c.pos ∈ s.cells
  · refine iff_of_true (fun q => ?_) hp
    rw [mem_cells_moved hp]
    split
    · simp [*]
    · split
      · simp [*]
      · next htarget hleft => simp [htarget, hleft, hc q hleft]
  · rw [apply_moved_of_not_mem hp]
    refine iff_of_false (fun h => hfree ((h target).2 ?_)) hp
    simp

theorem exists_turned_mem {p : Pos} {hs : List Heading} {es : List Event}
    (h : ∀ heading, .turned me p heading ∉ es) :
    (∃ heading, Event.turned me p heading ∈ hs.map (.turned me p) ++ es) ↔ hs ≠ [] := by
  cases hs <;> simp [h]

/-- The scene goes on to cover the world, unless the creature strays. -/
theorem covers_course_iff {es : List Event} {r : Except Fault Progress} (hc : s.Covers w)
    (ht : w.Truthful) (h : Turn.Course w me v es r) :
    (s.applyAll es).Covers v ↔ ¬ w.Strays me es v := by
  cases h with
  | idle =>
    refine iff_of_true hc ?_
    rintro ⟨p, hp, -, hiff⟩
    simp [hp] at hiff
  | @held c sp hs pc _ ha =>
    have hp : w.pos? me = some c.pos := World.pos?_of_creature ha.creature
    have hturned : (∃ heading, Event.turned me c.pos heading ∈ hs.map (.turned me c.pos)) ↔
        hs ≠ [] := by
      cases hs <;> simp
    rw [World.strays_iff hp, hturned, World.pos?_hold]
    refine (covers_turns_iff hc me c.pos hs).trans ?_
    cases w.grid.occupant? c.pos <;> simp [hp]
  | @moved c sp hs pc target ha _ htarget hfrom hto hfree =>
    have hold := ha.hold ⟨c.heading.after hs, pc⟩
    have hp : w.pos? me = some c.pos := World.pos?_of_creature ha.creature
    have hleaves : target ≠ c.pos := htarget ▸ Pos.step_ne _ _
    have hcells (q : Pos) : q ∈ (s.applyAll (hs.map (.turned me c.pos))).cells ↔
        (hs ≠ [] ∧ c.pos = q) ∨ (w.grid.occupant? q).isSome := by
      rw [mem_cells_turns, hc q]
    rw [applyAll_append, applyAll_cons, applyAll_nil, World.strays_iff hp,
      exists_turned_mem (by simp), World.pos?_move hold.creature hfrom hto]
    refine (covers_moved_iff hold.creature hfrom hto ?_ fun q hq => ?_).trans ?_
    · rw [hcells]
      simp [hleaves.symm, hfree]
    · rw [hcells]
      simp [show c.pos ≠ q from hq]
    · refine (hcells c.pos).trans ?_
      cases w.grid.occupant? c.pos <;> simp [hleaves]
  | @infected c sp hs pc other p entry start ha _ ho hother =>
    have hp : w.pos? me = some c.pos := World.pos?_of_creature ha.creature
    -- the grid shows the victim where it is, so its cell is marked already
    have hvictim : w.grid.occupant? p = some other := by
      obtain rfl := Option.some.inj (hother.symm.trans (ht _ _ ho))
      exact ho
    have hmarked : p ∈ (s.applyAll (hs.map (.turned me c.pos))).cells := by
      rw [mem_cells_turns, hc p]
      simp [hvictim]
    rw [applyAll_append, applyAll_cons, applyAll_nil, covers_changed_iff hmarked,
      World.strays_iff hp, exists_turned_mem (by simp), World.pos?_infect, World.pos?_hold,
      World.world_infect]
    refine (covers_turns_iff hc me c.pos hs).trans ?_
    cases w.grid.occupant? c.pos <;> simp [hp]

/-- Every mark is where some creature is. -/
def Grounded (s : Scene) (w : World) : Prop := ∀ p ∈ s.cells, ∃ id, w.pos? id = some p

theorem Grounded.turns {c : Creature} (hg : s.Grounded w) (hcreature : w.creatures[me]? = some c)
    (hs : List Heading) : (s.applyAll (hs.map (.turned me c.pos))).Grounded w := by
  intro p hp
  rcases (mem_cells_turns s me c.pos hs).1 hp with ⟨-, rfl⟩ | hp
  · exact ⟨me, World.pos?_of_creature hcreature⟩
  · exact hg p hp

theorem Grounded.move {c : Creature} {target : Pos} (hg : s.Grounded w)
    (hcreature : w.creatures[me]? = some c) (hfrom : w.grid.Contains c.pos)
    (hto : w.grid.Contains target) :
    (s.apply (.moved me c.pos target)).Grounded (w.move me target).world := by
  have hp : w.pos? me = some c.pos := World.pos?_of_creature hcreature
  have hothers (q : Pos) (hq : c.pos ≠ q) (hmem : q ∈ s.cells) :
      ∃ id, (w.move me target).world.pos? id = some q := by
    obtain ⟨id, hid⟩ := hg q hmem
    have hne : me ≠ id := by
      rintro rfl
      exact hq (Option.some.inj (hp.symm.trans hid))
    exact ⟨id, by rw [World.pos?_move hcreature hfrom hto, if_neg hne, hid]⟩
  intro q hq
  by_cases hmarked : c.pos ∈ s.cells
  · rcases (mem_cells_moved hmarked me target).1 hq with rfl | ⟨hne, hmem⟩
    · exact ⟨me, by rw [World.pos?_move hcreature hfrom hto, if_pos rfl]⟩
    · exact hothers q hne hmem
  · rw [apply_moved_of_not_mem hmarked] at hq
    exact hothers q (fun h => hmarked (h ▸ hq)) hq

theorem Grounded.course {es : List Event} {r : Except Fault Progress} (hg : s.Grounded w)
    (h : Turn.Course w me v es r) : (s.applyAll es).Grounded v := by
  cases h with
  | idle => exact hg
  | held hs pc ha => simpa [Grounded] using hg.turns ha.creature hs
  | @moved c sp hs pc target ha _ _ hfrom hto =>
    have hturned : (s.applyAll (hs.map (.turned me c.pos))).Grounded
        (w.hold me ⟨c.heading.after hs, pc⟩) := by
      simpa [Grounded] using hg.turns ha.creature hs
    rw [applyAll_append]
    exact hturned.move (c := c.hold ⟨c.heading.after hs, pc⟩) (ha.hold _).creature hfrom hto
  | @infected c sp hs pc other p entry start ha _ _ hother =>
    rw [applyAll_append]
    intro q hq
    simp only [World.pos?_infect, World.pos?_hold]
    rcases (mem_cells_changed _ other p sp.colour).1 hq with rfl | hq
    · exact ⟨other, hother⟩
    · exact hg.turns ha.creature hs q hq

end Course

section Run

variable {s : Scene} {w : World} {a : Act}

theorem mem_cells_spawn {species : Nat} {p : Pos} (hs : species < w.species.length)
    (hp : w.grid.Contains p) (heading : Heading) {q : Pos} :
    q ∈ (s.applyAll (w.spawn species p heading).events).cells ↔ p = q ∨ q ∈ s.cells := by
  rw [Change.events, World.result_spawn (List.getElem?_eq_getElem hs) hp]
  exact mem_cells_created s w.creatures.length p heading _

theorem Grounded.act (hg : s.Grounded w) (ha : Act.Placed w a) :
    (s.applyAll (a.events w)).Grounded (a.after w) := by
  cases a with
  | enrol species => exact hg
  | spawn species p heading =>
    intro q hq
    rcases (mem_cells_spawn ha.1 ha.2 heading).1 hq with rfl | hq
    · exact ⟨w.creatures.length, by simp [Act.after, World.pos?_spawn]⟩
    · obtain ⟨id, hid⟩ := hg q hq
      have hne : id ≠ w.creatures.length := Nat.ne_of_lt (World.pos?_lt hid)
      exact ⟨id, by simp [Act.after, World.pos?_spawn, hne, hid]⟩
  | turn me chance budget => exact hg.course (Turn.run_course w chance me budget)

theorem covers_act_iff (hc : s.Covers w) (ht : w.Truthful) (ha : Act.Placed w a) :
    (s.applyAll (a.events w)).Covers (a.after w) ↔ ¬ a.Strays w := by
  cases a with
  | enrol species => exact iff_of_true hc not_false
  | spawn species p heading =>
    refine iff_of_true (fun q => ?_) not_false
    rw [Act.events, mem_cells_spawn ha.1 ha.2, hc q, Act.after, World.world_spawn, if_pos ha.2,
      Grid.occupant?_put _ ha.2]
    split <;> simp [*]
  | turn me chance budget => exact covers_course_iff hc ht (Turn.run_course w chance me budget)

theorem covers_of_run {start : World} {es : List Event} (hstart : start.Vacant)
    (hr : Run (fun v a => Act.Placed v a ∧ ¬ a.Strays v) start es w) :
    w.Truthful ∧ (applyAll [] es).Covers w := by
  induction hr with
  | start =>
    refine ⟨hstart.truthful, fun p => ?_⟩
    simp [cells, Keyed.keys, hstart.occupant?]
  | act _ ha ih =>
    rw [applyAll_append]
    exact ⟨ih.1.act _, (covers_act_iff ih.2 ih.1 ha.1).2 ha.2⟩

theorem grounded_of_run {start : World} {es : List Event} (hr : Run Act.Placed start es w) :
    (applyAll [] es).Grounded w := by
  induction hr with
  | start =>
    intro p hp
    simp [cells, Keyed.keys] at hp
  | act _ ha ih =>
    rw [applyAll_append]
    exact ih.act ha

/-- Whoever was put where: every mark is where some creature is. Just the taken cells are marked as
long as nobody strays; and once they are, the next act keeps it so unless it strays. -/
theorem covers_until_strays {start : World} {es : List Event} (hstart : start.Vacant)
    (hr : Run Act.Placed start es w) :
    (∀ p ∈ (applyAll [] es).cells, ∃ c ∈ w.creatures, c.pos = p) ∧
      (Run (fun v a => Act.Placed v a ∧ ¬ a.Strays v) start es w → (applyAll [] es).Covers w) ∧
      ((applyAll [] es).Covers w → ∀ a, Act.Placed w a →
        ((applyAll [] (es ++ a.events w)).Covers (a.after w) ↔ ¬ a.Strays w)) := by
  have ht : w.Truthful := hr.invariant (fun _ a hv _ => hv.act a) hstart.truthful
  refine ⟨fun p hp => ?_, fun h => (covers_of_run hstart h).2, fun hc a ha => ?_⟩
  · obtain ⟨id, hid⟩ := grounded_of_run hr p hp
    obtain ⟨c, hcreature, hpos⟩ := World.pos?_eq_some.1 hid
    exact ⟨c, List.mem_of_getElem? hcreature, hpos⟩
  · rw [applyAll_append]
    exact covers_act_iff hc ht ha

def pivot : Species := ⟨"Pivot", ⟨0, 0, 0⟩, ⟨#[.left]⟩⟩

/-- A newcomer takes the cell of an earlier creature, which hops away then. -/
def deserted : World :=
  (Act.turn 0 ⟨[], [], ⟨#[], 0⟩⟩ none).after <| (Act.spawn 1 ⟨0, 0⟩ .north).after <|
    (Act.spawn 0 ⟨0, 0⟩ .east).after <| (Act.enrol pivot).after <|
    (Act.enrol World.hopper).after ⟨.empty 2 1, [], []⟩

/-- The newcomer turns about in a cell that is shown empty. -/
theorem covers_until_strays_pivot :
    let next := Act.turn 1 ⟨[], [], ⟨#[], 0⟩⟩ none
    ∃ start es, World.create? 2 1 = some start ∧ Run Act.Placed start es deserted ∧
      (applyAll [] es).Covers deserted ∧
      ¬ (applyAll [] (es ++ next.events deserted)).Covers (next.after deserted) := by
  intro next
  have hcreate : World.create? 2 1 = some ⟨.empty 2 1, [], []⟩ := rfl
  have hstart := World.vacant_of_create? hcreate
  obtain ⟨es, hr⟩ : ∃ es, Run (fun v a => Act.Placed v a ∧ ¬ a.Strays v)
      ⟨.empty 2 1, [], []⟩ es deserted :=
    ⟨_, .act (.act (.act (.act (.act .start ⟨⟨⟩, not_false⟩) ⟨⟨⟩, not_false⟩)
      ⟨⟨by decide, by decide⟩, not_false⟩) ⟨⟨by decide, by decide⟩, not_false⟩)
      ⟨⟨⟩, World.not_strays_of_taken (p := ⟨0, 0⟩) (by decide) (by decide)⟩⟩
  have hplaced : Run Act.Placed _ es deserted := hr.mono fun _ _ h => h.1
  obtain ⟨-, hkept, hiff⟩ := covers_until_strays hstart hplaced
  have hcovers := hkept hr
  have hstrays : next.Strays deserted :=
    ⟨⟨0, 0⟩, by decide, by decide, iff_of_true ⟨.west, by decide⟩ (by decide)⟩
  exact ⟨_, es, hcreate, hplaced, hcovers, fun h => (hiff hcovers next ⟨⟩).1 h hstrays⟩

/-- Lawful acts lead to a mark in a cell where the grid has nobody. -/
theorem phantom_of_newcomer :
    ∃ start es w, World.create? 2 1 = some start ∧ Run Act.Lawful start es w ∧
      ⟨0, 0⟩ ∈ (applyAll [] es).cells ∧ w.get ⟨0, 0⟩ = .ok none := by
  have hhopper : Species.ofSource "Hopper\nhop" ⟨0, 0, 0⟩ = .ok World.hopper := by rfl
  have hpivot : Species.ofSource "Pivot\nleft" ⟨0, 0, 0⟩ = .ok pivot := by rfl
  refine ⟨_, _, (Act.turn 1 ⟨[], [], ⟨#[], 0⟩⟩ none).after deserted, rfl,
    .act (.act (.act (.act (.act (.act .start ⟨_, _, hhopper⟩) ⟨_, _, hpivot⟩)
      ⟨by decide, by decide⟩) ⟨by decide, by decide⟩) (show 0 < _ by decide))
      (show 1 < _ by decide), by decide, by rfl⟩

end Run

end Scene
end Vivarium
