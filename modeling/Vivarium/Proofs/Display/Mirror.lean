import Vivarium.Display.Scene
import Vivarium.Proofs.Account

/-! As long as nobody is put into a taken cell, a scene that has heard all events mirrors the world:
one mark for each taken cell, in the colour and with the heading of whoever is there. -/
namespace Vivarium

def Likeness.mark (l : Likeness) : Mark := ⟨l.colour, l.heading⟩

namespace World

variable {w : World} {id : Nat} {p q : Pos}

/-- The mark that a cell ought to have, none if nobody is in it. -/
def mark? (w : World) (p : Pos) : Option Mark :=
  ((w.grid.occupant? p).bind w.likeness?).map Likeness.mark

/-- The looks of a creature do not matter to a cell in which it is not. -/
theorem bind_update_of_ne (h : w.grid.occupant? q ≠ some id) (l : Option Likeness) :
    (w.grid.occupant? q).bind (Function.update w.likeness? id l) =
      (w.grid.occupant? q).bind w.likeness? := by
  cases ho : w.grid.occupant? q with
  | none => rfl
  | some j =>
    have hj : j ≠ id := by
      rintro rfl
      exact h ho
    simp [hj]

end World

namespace Scene

/-- Every cell is marked as whoever is in it looks. -/
def Mirrors (s : Scene) (w : World) : Prop := ∀ p, s.mark? p = w.mark? p

theorem mark?_turns {s : Scene} {p : Pos} {m : Mark} (h : s.mark? p = some m) (id : Nat)
    (hs : List Heading) (q : Pos) : (s.applyAll (hs.map (.turned id p))).mark? q =
      if p = q then some ⟨m.colour, m.heading.after hs⟩ else s.mark? q := by
  induction hs generalizing s m with
  | nil =>
    split
    · next hq => simp [← hq, h]
    · rfl
  | cons d hs ih =>
    have hd : (s.apply (.turned id p d)).mark? p = some ⟨m.colour, d⟩ := by
      simp [mark?_turned, h]
    rw [List.map_cons, applyAll_cons, ih hd, mark?_turned]
    split <;> rfl

section Change

variable {s t : Scene} {v w : World} {me : Nat} {c : Creature} {sp : Species}

theorem Mirrors.actor (hm : s.Mirrors w) (hh : w.Housed) (ha : w.Actor me c sp) :
    s.mark? c.pos = some ⟨sp.colour, c.heading⟩ := by
  have ho := hh me c.pos (World.pos?_of_creature ha.creature)
  simp [hm c.pos, World.mark?, ho, ha.likeness?, Likeness.mark]

theorem Mirrors.relook (hm : s.Mirrors w) (ht : w.Truthful) (hh : w.Housed) {p : Pos}
    {l : Likeness} (hp : w.pos? me = some p) (hgrid : v.grid = w.grid)
    (hlook : v.likeness? = Function.update w.likeness? me (some l))
    (hmark : ∀ q, t.mark? q = if p = q then some l.mark else s.mark? q) : t.Mirrors v := by
  intro q
  rw [hmark, World.mark?, hgrid, hlook]
  split
  · next hq =>
    subst hq
    simp [hh me p hp]
  · next hq =>
    rw [World.bind_update_of_ne (ht.occupant?_ne hp hq)]
    exact hm q

theorem Mirrors.turns (hm : s.Mirrors w) (ht : w.Truthful) (hh : w.Housed)
    (ha : w.Actor me c sp) (hs : List Heading) (pc : Nat) :
    (s.applyAll (hs.map (.turned me c.pos))).Mirrors (w.hold me ⟨c.heading.after hs, pc⟩) :=
  hm.relook ht hh (World.pos?_of_creature ha.creature) rfl (World.likeness?_hold ha _)
    (mark?_turns (hm.actor hh ha) me hs)

theorem Mirrors.move (hm : s.Mirrors w) (ht : w.Truthful) (hh : w.Housed) {target : Pos}
    (ha : w.Actor me c sp) (hfrom : w.grid.Contains c.pos) (hto : w.grid.Contains target) :
    (s.apply (.moved me c.pos target)).Mirrors (w.move me target).world := by
  have hp : w.pos? me = some c.pos := World.pos?_of_creature ha.creature
  intro q
  rw [mark?_moved (hm.actor hh ha), World.mark?, World.occupant?_move ha.creature hfrom hto,
    World.likeness?_move ha hfrom hto]
  split
  · simp [Likeness.mark]
  · split
    · rfl
    · next hq =>
      rw [World.bind_update_of_ne (ht.occupant?_ne hp hq)]
      exact hm q

theorem Mirrors.infect (hm : s.Mirrors w) (ht : w.Truthful) (hh : w.Housed) (hk : w.Known)
    {species : Nat} (hc : w.creatures[me]? = some c) (hs : w.species[species]? = some sp)
    (start : Nat) :
    (s.apply (.changed me c.pos sp.colour)).Mirrors (w.infect me species start).world := by
  obtain ⟨old, hold⟩ := hk.exists_species hc
  refine hm.relook ht hh (World.pos?_of_creature hc)
    (by rw [World.world_infect, World.grid_modify]) (World.likeness?_infect hc hs start) fun q => ?_
  rw [mark?_changed, hm.actor hh ⟨hc, hold⟩]
  rfl

theorem Mirrors.spawn (hm : s.Mirrors w) (ht : w.Truthful) {species : Nat} {p : Pos}
    (hs : species < w.species.length) (hp : w.grid.Contains p) (heading : Heading) :
    (s.applyAll (w.spawn species p heading).events).Mirrors (w.spawn species p heading).world := by
  have hget := List.getElem?_eq_getElem hs
  intro q
  rw [Change.events, World.result_spawn hget hp, applyAll_cons, applyAll_nil, mark?_created,
    World.mark?, World.likeness?_spawn hget, World.world_spawn, if_pos hp, Grid.occupant?_put _ hp]
  split
  · simp [Likeness.mark]
  · -- the number of the newcomer was not in the grid before, so no other cell looks different
    have hnew : w.grid.occupant? q ≠ some w.creatures.length :=
      fun ho => absurd (World.pos?_lt (ht q _ ho)) (Nat.lt_irrefl _)
    rw [World.bind_update_of_ne hnew]
    exact hm q

theorem Mirrors.course {es : List Event} {r : Except Fault Progress} (hm : s.Mirrors w)
    (ht : w.Truthful) (hh : w.Housed) (hk : w.Known) (h : Turn.Course w me v es r) :
    (s.applyAll es).Mirrors v := by
  cases h with
  | idle => exact hm
  | held hs pc ha => exact hm.turns ht hh ha hs pc
  | @moved c sp hs pc target ha _ _ hfrom hto =>
    have hturned := hm.turns ht hh ha hs pc
    rw [applyAll_append]
    exact hturned.move (c := c.hold ⟨c.heading.after hs, pc⟩) (ht.hold me _) (hh.hold me _)
      (ha.hold _) hfrom hto
  | @infected c sp hs pc other p entry start ha _ _ hp =>
    have hturned := hm.turns ht hh ha hs pc
    rw [← World.pos?_hold w me other ⟨c.heading.after hs, pc⟩] at hp
    obtain ⟨d, hd, rfl⟩ := World.pos?_eq_some.1 hp
    rw [applyAll_append]
    exact hturned.infect (ht.hold me _) (hh.hold me _) (hk.hold me _) hd ha.species start

theorem Mirrors.act (hm : s.Mirrors w) (ht : w.Truthful) (hh : w.Housed) (hk : w.Known) {a : Act}
    (ha : Act.Placed w a) : (s.applyAll (a.events w)).Mirrors (a.after w) := by
  cases a with
  | enrol species =>
    intro p
    rw [World.mark?, Act.after, World.likeness?_enrol hk]
    exact hm p
  | spawn species p heading => exact hm.spawn ht ha.1 ha.2 heading
  | turn me chance budget => exact hm.course ht hh hk (Turn.run_course w chance me budget)

end Change

/-- What a mirror rests on, all of which is kept as long as nobody is put into a taken cell. -/
theorem mirrors_of_run {start w : World} {es : List Event} (hstart : start.Vacant)
    (hr : Run (fun v a => Act.Placed v a ∧ Act.OntoFree v a) start es w) :
    w.Truthful ∧ w.Housed ∧ w.Known ∧ (applyAll [] es).Mirrors w := by
  induction hr with
  | start =>
    refine ⟨hstart.truthful, hstart.housed, hstart.known, fun p => ?_⟩
    simp [World.mark?, hstart.occupant?, mark?, Keyed.get?]
  | act _ ha ih =>
    obtain ⟨ht, hh, hk, hm⟩ := ih
    rw [applyAll_append]
    exact ⟨ht.act _, hh.act ha.2, hk.act ha.1, hm.act ht hh hk ha.1⟩

/-- As long as nobody is put into a taken cell, just the taken cells are marked, each once, with the
colour of the species and the heading of the creature in it. -/
theorem cells_mirror_grid {start w : World} {es : List Event} (hstart : start.Vacant)
    (hr : Run (fun v a => Act.Placed v a ∧ Act.OntoFree v a) start es w) :
    (applyAll [] es).cells.Nodup ∧
      (∀ p, p ∈ (applyAll [] es).cells ↔ ∃ id, w.get p = .ok (some id)) ∧
      ∀ p id, w.get p = .ok (some id) → ∃ c s, w.creatures[id]? = some c ∧
        w.species[c.species]? = some s ∧ (applyAll [] es).mark? p = some ⟨s.colour, c.heading⟩ := by
  obtain ⟨ht, hh, hk, hm⟩ := mirrors_of_run hstart hr
  have hmark (p : Pos) (id : Nat) (hp : w.grid.occupant? p = some id) :
      ∃ c s, w.creatures[id]? = some c ∧ w.species[c.species]? = some s ∧
        (applyAll [] es).mark? p = some ⟨s.colour, c.heading⟩ := by
    obtain ⟨c, hc, rfl⟩ := World.pos?_eq_some.1 (ht p id hp)
    obtain ⟨s, hs⟩ := hk.exists_species hc
    exact ⟨c, s, hc, hs, hm.actor hh ⟨hc, hs⟩⟩
  refine ⟨nodup_cells_applyAll (s := []) List.nodup_nil es, fun p => ?_, fun p id hp => ?_⟩
  · simp only [mem_cells, World.get_eq_some]
    constructor
    · intro hp
      rw [hm p, World.mark?] at hp
      cases ho : w.grid.occupant? p with
      | none => simp [ho] at hp
      | some id => exact ⟨id, rfl⟩
    · rintro ⟨id, hp⟩
      obtain ⟨c, s, -, -, hs⟩ := hmark p id hp
      simp [hs]
  · exact hmark p id (World.get_eq_some.1 hp)

theorem cells_mirror_grid_hop_and_paint :
    let still : Chance := ⟨[], [], ⟨#[], 0⟩⟩
    let start : World := ⟨.empty 3 1, [World.hopper, World.painter], []⟩
    let w := (Act.turn 1 still none).after <| (Act.turn 0 still none).after <|
      (Act.spawn 1 ⟨2, 0⟩ .west).after <| (Act.spawn 0 ⟨0, 0⟩ .east).after start
    start.Vacant ∧ ∃ es, Run (fun v a => Act.Placed v a ∧ Act.OntoFree v a) start es w ∧
      ⟨0, 0⟩ ∉ (applyAll [] es).cells ∧
      (applyAll [] es).mark? ⟨1, 0⟩ = some ⟨⟨255, 0, 0⟩, .east⟩ := by
  intro still start w
  have hstart : start.Vacant := ⟨rfl, Grid.occupant?_empty 3 1⟩
  obtain ⟨es, hr⟩ : ∃ es, Run (fun v a => Act.Placed v a ∧ Act.OntoFree v a) start es w :=
    ⟨_, .act (.act (.act (.act .start ⟨⟨by decide, by decide⟩, by decide, by decide⟩)
      ⟨⟨by decide, by decide⟩, by decide, by decide⟩) ⟨⟨⟩, ⟨⟩⟩) ⟨⟨⟩, ⟨⟩⟩⟩
  have ho : w.grid.occupant? ⟨1, 0⟩ = some 0 := by decide
  have hempty : w.grid.occupant? ⟨0, 0⟩ = none := by decide
  have hc : w.creatures[0]? = some ⟨1, ⟨1, 0⟩, .east, 0⟩ := by decide
  have hp : w.species[1]? = some World.painter := by decide
  obtain ⟨-, hcells, hmarks⟩ := cells_mirror_grid hstart hr
  refine ⟨hstart, es, hr, fun h => ?_, ?_⟩
  · obtain ⟨id, hid⟩ := (hcells _).1 h
    rw [World.get_eq_some, hempty] at hid
    cases hid
  · obtain ⟨c, s, hc', hs, hmark⟩ := hmarks _ 0 (World.get_eq_some.2 ho)
    obtain rfl := Option.some.inj (hc.symm.trans hc')
    obtain rfl := Option.some.inj (hp.symm.trans hs)
    exact hmark

end Scene
end Vivarium
