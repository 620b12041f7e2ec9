import Mathlib.Control.Monad.Basic
import Vivarium.Proofs.Turn.Evaluated
import Vivarium.Proofs.World.Housed
import Vivarium.Proofs.World.Sound

/-!
The frame of a turn: all that it leaves as it was. A turn that is broken off has only changed the
stance of its creature; any other has besides made it hop, or take over the creature ahead, or
neither.
-/
namespace Vivarium

namespace World

/-- Where a creature is and which way it faces. -/
def place? (w : World) (id : Nat) : Option (Pos × Heading) :=
  w.creatures[id]?.map fun c => (c.pos, c.heading)

theorem place?_modify {f : Creature → Creature} (w : World) (id i : Nat)
    (hf : i = id → ∀ c, (f c).pos = c.pos ∧ (f c).heading = c.heading) :
    (w.modify id f).place? i = w.place? i := by
  simp only [place?, getElem?_modify]
  split
  · next hi => simp [Option.map_map, Function.comp_def, hf hi.symm]
  · rfl

end World

namespace Turn

/-- What the instruction that ends a turn does for the creature `c` with number `me`. -/
inductive Ends (w : World) (me : Nat) (c : Creature) (p : Program) :
    Instruction → (moved infected : Bool) → World → Prop
  | hop : w.grid.Contains c.pos → w.grid.Contains c.ahead → w.grid.occupant? c.ahead = none →
      Ends w me c p .hop true false (w.move me c.ahead).world
  | infect {entry : Option String} {other start : Nat} {d : Creature} :
      w.grid.occupant? c.ahead = some other → w.creatures[other]? = some d →
      p.entry? entry = some start →
      Ends w me c p (.infect entry) false true (w.infect other c.species start).world
  | hold (i : Instruction) (t : Stance) : Ends w me c p i false false (w.hold me t)

theorem infect_ends {w : World} {me other start : Nat} {c : Creature} {p : Program}
    {chance : Chance} (entry : Option String) {moved infected : Bool}
    (ho : w.grid.occupant? c.ahead = some other) (hst : p.entry? entry = some start)
    (hr : (Episode.ofChange (w.infect other c.species start) (Progress.ended false true)
      chance).result = .ok (.ended moved infected)) :
    Ends w me c p (.infect entry) moved infected (w.infect other c.species start).world := by
  cases hd : w.creatures[other]? with
  | none => simp [World.infect, hd, Episode.ofChange, Except.map] at hr
  | some d =>
    obtain ⟨rfl, rfl⟩ := Progress.ended.inj (Episode.ofChange_ok hr)
    exact .infect ho hd hst

theorem evaluate_ends {w : World} {me : Nat} {c : Creature} {s : Species} (ha : w.Actor me c s)
    {chance : Chance} {i : Instruction} {moved infected : Bool}
    (hr : (evaluate w chance me c s.program i).result = .ok (.ended moved infected)) :
    Ends w me c s.program i moved infected (evaluate w chance me c s.program i).world := by
  have hw : w.hold me c.stance = w := ha.hold_stance
  have hstay (i : Instruction) : Ends w me c s.program i false false w := by
    have hhold : Ends w me c s.program i false false (w.hold me c.stance) := .hold i c.stance
    rwa [hw] at hhold
  cases i with
  | hop =>
    simp only [evaluate] at hr ⊢
    split
    · next hfree =>
      rw [if_pos hfree] at hr
      obtain ⟨rfl, rfl⟩ := Progress.ended.inj (Episode.ofChange_ok hr)
      by_cases hfrom : w.grid.Contains c.pos
      · exact .hop hfrom hfree.1 hfree.2
      · rw [World.move_of_not_contains ha.creature hfrom] at hr
        cases hr
    · next hfree =>
      rw [if_neg hfree] at hr
      cases hr
      exact hstay _
  | left =>
    obtain ⟨rfl, rfl⟩ := Progress.ended.inj (Episode.ofChange_ok hr)
    simp only [evaluate, World.turn_eq ha.creature, ha.modify_heading, Episode.ofChange_eq]
    exact .hold _ _
  | right =>
    obtain ⟨rfl, rfl⟩ := Progress.ended.inj (Episode.ofChange_ok hr)
    simp only [evaluate, World.turn_eq ha.creature, ha.modify_heading, Episode.ofChange_eq]
    exact .hold _ _
  | infect entry =>
    simp only [evaluate] at hr ⊢
    cases ho : w.grid.occupant? c.ahead with
    | none =>
      simp only [ho] at hr
      cases hr
      exact hstay _
    | some other =>
      simp only [ho] at hr
      cases entry with
      | none => exact infect_ends none ho rfl hr
      | some name =>
        cases hst : s.program.address? name with
        | none => simp [hst] at hr
        | some start =>
          simp only [hst] at hr ⊢
          exact infect_ends (some name) ho hst hr
  | jump condition target =>
    simp only [evaluate] at hr
    split at hr
    · rw [jump_eq ha] at hr
      cases hat : s.program.address? target <;> simp [hat] at hr
    · cases hr
  | label name => cases hr

/-- A turn that ends has changed its creature's stance, and then its last instruction ended it. -/
theorem loop_ends {w : World} {me : Nat} {c : Creature} {s : Species} (ha : w.Actor me c s)
    {budget : Int} {left steps : Nat} {chance : Chance} {o : Outcome}
    (hr : (loop me s budget left steps w chance).result = .ok o) :
    ∃ t i, (evaluatedWithin me s.program left w chance).getLast? = some i ∧
      Ends (w.hold me t) me (c.hold t) s.program i o.moved o.infected
        (loop me s budget left steps w chance).world := by
  induction left generalizing w c steps chance with
  | zero => cases hr
  | succ left ih =>
    obtain ⟨d, i, v, hf, ⟨moved, infected, hev, rfl⟩ | ⟨hev, hrest⟩⟩ := ended_or_goesOn_of_ok hr
    · rw [loop_of_ended hf hev, evaluatedWithin_of_ended hf hev]
      obtain ⟨rfl, -, rfl⟩ := fetch_eq_ok ha hf
      refine ⟨⟨d.heading, s.program.wrap d.pc + 1⟩, i, rfl, ?_⟩
      rw [← evaluate_hold _ _ _ _ _ _ (s.program.wrap d.pc + 1)] at hev ⊢
      exact evaluate_ends (ha.hold _) hev
    · -- the rest of the turn starts from a new stance of the same creature
      have hcourse := fetch_evaluate_course ha hf chance
      simp only [hev] at hcourse
      obtain ⟨hs, pc, -, hw, -⟩ := hcourse.goesOn ha
      rw [loop_of_goesOn hf hev]
      dsimp only
      rw [hw] at hrest ⊢
      obtain ⟨t, j, hlast, hends⟩ := ih (ha.hold _) hrest
      refine ⟨t, j, ?_, ?_⟩
      · simp only [evaluatedWithin_of_goesOn hf hev, hw, List.getLast?_cons, hlast,
          Option.getD_some]
      · simpa only [World.hold_hold, Creature.hold_hold] using hends

theorem hold_of_error {w : World} {me : Nat} {c : Creature} (hc : w.creatures[me]? = some c)
    {chance : Chance} {budget : Option Int} {f : Fault}
    (hr : (run w chance me budget).result = .error f) :
    ∃ t, (run w chance me budget).world = w.hold me t := by
  have hstay : w = w.hold me c.stance := by
    have hid : w.hold me c.stance = w.modify me id := World.modify_congr hc rfl
    rw [hid]
    simp [World.modify]
  have hcourse := run_course w chance me budget
  simp only [hr, Except.map] at hcourse
  generalize (run w chance me budget).world = v, (run w chance me budget).events = es at hcourse ⊢
  cases hcourse with
  | idle => exact ⟨c.stance, hstay⟩
  | held hs pc _ _ _ => exact ⟨_, rfl⟩

theorem pos?_of_error {w : World} {me : Nat} {c : Creature} (hc : w.creatures[me]? = some c)
    {chance : Chance} {budget : Option Int} {f : Fault}
    (hr : (run w chance me budget).result = .error f) :
    (run w chance me budget).world.pos? me = some c.pos := by
  obtain ⟨t, ht⟩ := hold_of_error hc hr
  rw [ht, World.pos?_hold, World.pos?_of_creature hc]

/-- What every turn of `me` leaves as it was: the species, the size of the roster, the places of all
others, and which species `me` is of, be it `c` before the turn and `d` after it. -/
structure Spares (w v : World) (me : Nat) (c d : Creature) : Prop where
  table : v.species = w.species
  length : v.creatures.length = w.creatures.length
  places : ∀ id, id ≠ me → v.place? id = w.place? id
  creature : v.creatures[me]? = some d
  species : d.species = c.species

/-- The creature hops, from where `c` is to the free cell ahead, where it is `d`. -/
structure Hops (w v : World) (me : Nat) (c d : Creature) : Prop where
  ahead : d.pos = c.pos.step d.heading
  free : w.get d.pos = .ok none
  grid : v.grid = (w.grid.put c.pos none).put d.pos (some me)

/-- The creature `d` with number `me` takes over `other`, which is ahead of it. -/
structure TakesOver (w v : World) (me : Nat) (d : Creature) (other start : Nat) : Prop where
  ahead : w.get (d.pos.step d.heading) = .ok (some other)
  other_ne : other ≠ me
  taken : ∃ x, w.creatures[other]? = some x ∧
    v.creatures[other]? = some { x with species := d.species, pc := start }
  rest : ∀ id, id ≠ me → id ≠ other → v.creatures[id]? = w.creatures[id]?

section Hold

variable {w v : World} {me : Nat} {c d : Creature} {t : Stance}

theorem spares_hold (hc : w.creatures[me]? = some c) (t : Stance) :
    Spares w (w.hold me t) me c (c.hold t) where
  table := rfl
  length := World.length_hold w me t
  places := fun id hid => World.place?_modify _ _ _ fun h => absurd h hid
  creature := by simp [World.getElem?_hold, hc]
  species := rfl

theorem Spares.of_hold (h : Spares (w.hold me t) v me (c.hold t) d) : Spares w v me c d where
  table := h.table
  length := h.length.trans (World.length_hold w me t)
  places := fun id hid =>
    (h.places id hid).trans (World.place?_modify _ _ _ fun h => absurd h hid)
  creature := h.creature
  species := h.species

theorem Hops.of_hold (h : Hops (w.hold me t) v me (c.hold t) d) : Hops w v me c d :=
  ⟨h.ahead, h.free, h.grid⟩

theorem TakesOver.of_hold {other start : Nat} (h : TakesOver (w.hold me t) v me d other start) :
    TakesOver w v me d other start := by
  have hsame {id : Nat} (hid : id ≠ me) : (w.hold me t).creatures[id]? = w.creatures[id]? := by
    rw [World.getElem?_hold, if_neg hid.symm]
  refine ⟨h.ahead, h.other_ne, hsame h.other_ne ▸ h.taken, fun id hid hother => ?_⟩
  rw [h.rest id hid hother, hsame hid]

end Hold

theorem Ends.frame {w v : World} (ht : w.Truthful) {me : Nat} {c : Creature} {p : Program}
    {i : Instruction} {moved infected : Bool} (hc : w.creatures[me]? = some c)
    (h : Ends w me c p i moved infected v) :
    ∃ d, Spares w v me c d ∧
      (moved = true → Hops w v me c d) ∧ (moved = false → d.pos = c.pos ∧ v.grid = w.grid) ∧
      (infected = true → ∃ entry other start, i = .infect entry ∧ p.entry? entry = some start ∧
        TakesOver w v me d other start) ∧
      (infected = false → ∀ id, id ≠ me → v.creatures[id]? = w.creatures[id]?) := by
  cases h with
  | hop hfrom hto hfree =>
    rw [World.move_eq hc hfrom hto]
    refine ⟨{ c with pos := c.ahead }, ⟨rfl, by simp, fun id hid => ?_, by simp [hc], rfl⟩,
      fun _ => ⟨rfl, ?_, rfl⟩, by simp, by simp, fun _ id hid => ?_⟩
    · exact World.place?_modify _ _ _ fun h => absurd h hid
    · simp [World.get, hto, hfree]
    · simp [World.getElem?_modify, hid.symm]
  | @infect entry other start x ho hx hst =>
    have hne : other ≠ me := fun h => ht.ahead_ne hc c.heading (h ▸ ho)
    rw [World.world_infect]
    refine ⟨c, ⟨rfl, by simp, fun id _ => ?_, ?_, rfl⟩, by simp, fun _ => ⟨rfl, rfl⟩,
      fun _ => ⟨entry, other, start, rfl, hst, World.get_eq_some.2 ho, hne, ⟨x, hx, ?_⟩,
        fun id _ hid => ?_⟩, by simp⟩
    · exact World.place?_modify _ _ _ fun _ _ => ⟨rfl, rfl⟩
    · simp [World.getElem?_modify, hne, hc]
    · simp [hx]
    · simp [World.getElem?_modify, hid.symm]
  | hold i t =>
    refine ⟨c.hold t, spares_hold hc t, by simp, fun _ => ⟨rfl, rfl⟩, by simp, fun _ id hid => ?_⟩
    rw [World.getElem?_hold, if_neg hid.symm]

/-- The frame of a turn. All that is broken off has changed nothing but its creature's stance. An
outcome says exactly whether the creature has left its cell, and then it has hopped; and whether it
has taken over another one, which is the only one that can have changed. -/
theorem turn_frame {rule : World → Act → Prop} {w : World} (h : w.Reachable rule) {me : Nat}
    {c : Creature} (hc : w.creatures[me]? = some c) (chance : Chance) (budget : Option Int) :
    let v := (run w chance me budget).world
    let result := (run w chance me budget).result
    ∃ d, Spares w v me c d ∧ (∀ f, result = .error f → v = w.hold me d.stance) ∧
      ∀ o, result = .ok o →
        (d.pos ≠ c.pos ↔ o.moved = true) ∧ (o.moved = true → Hops w v me c d) ∧
        (o.moved = false → v.grid = w.grid) ∧
        (o.infected = true → ∃ s entry other start, w.species[c.species]? = some s ∧
          (evaluated w chance me budget).getLast? = some (.infect entry) ∧
          s.program.entry? entry = some start ∧ TakesOver w v me d other start) ∧
        (o.infected = false → ∀ id, id ≠ me → v.creatures[id]? = w.creatures[id]?) := by
  dsimp only
  cases hr : (run w chance me budget).result with
  | error f =>
    obtain ⟨t, hv⟩ := hold_of_error hc hr
    exact ⟨c.hold t, hv ▸ spares_hold hc t, fun _ _ => hv, by simp⟩
  | ok o =>
    cases hs : w.speciesOf? me with
    | none => simp [run, hs] at hr
    | some s =>
      obtain ⟨c', ha⟩ := World.exists_actor hs
      obtain rfl := Option.some.inj (hc.symm.trans ha.creature)
      simp only [run, evaluated, hs] at hr ⊢
      obtain ⟨t, i, hlast, hends⟩ := loop_ends ha hr
      have ht := (World.truthful_of_reachable h).hold me t
      obtain ⟨d, hspares, hhops, hstays, htakes, hrest⟩ := hends.frame ht (ha.hold t).creature
      refine ⟨d, hspares.of_hold, by simp, fun o' ho => ?_⟩
      obtain rfl := Except.ok.inj ho
      have hahead : o.moved = true → d.pos ≠ c.pos := fun hm => by
        rw [(hhops hm).ahead]
        exact Pos.step_ne _ _
      refine ⟨⟨fun hd => ?_, hahead⟩, fun hm => (hhops hm).of_hold, fun hm => (hstays hm).2,
        fun hi => ?_, fun hi id hid => ?_⟩
      · cases hm : o.moved with
        | true => rfl
        | false => exact absurd (hstays hm).1 hd
      · obtain ⟨entry, other, start, rfl, hst, htaken⟩ := htakes hi
        exact ⟨s, entry, other, start, ha.species, hlast, hst, htaken.of_hold⟩
      · rw [hrest hi id hid, World.getElem?_hold, if_neg hid.symm]

def seizer : Species :=
  ⟨"Seizer", ⟨0, 0, 0⟩,
    ⟨#[.jump .wall "seize", .label "seize", .infect (some "rest"), .label "rest", .left]⟩⟩

/-- A seizer with a wall ahead has a hopper on its left. -/
def ambush : World :=
  (Act.spawn 1 ⟨0, 0⟩ .west).after <| (Act.spawn 0 ⟨0, 1⟩ .north).after <|
    (Act.enrol seizer).after <| (Act.enrol World.hopper).after ⟨.empty 1 2, [], []⟩

/-- The seizer stays, the hopper becomes a seizer that is about to rest, and no cell changes. -/
theorem turn_frame_ambush :
    let still : Chance := ⟨[], [], ⟨#[], 0⟩⟩
    let v := (run ambush still 1).world
    ambush.Reachable (fun _ _ => True) ∧ ambush.creatures[1]? = some ⟨1, ⟨0, 0⟩, .west, 0⟩ ∧
      (run ambush still 1).result = .ok ⟨.infect, 3, false, true⟩ ∧
      v.creatures[0]? = some ⟨1, ⟨0, 1⟩, .north, 3⟩ ∧ v.grid = ambush.grid := by
  intro still v
  have hw : ambush.Reachable (fun _ _ => True) :=
    ⟨1, 2, ⟨.empty 1 2, [], []⟩, _, rfl, .act (.act (.act (.act .start ⟨⟩) ⟨⟩) ⟨⟩) ⟨⟩⟩
  have hc : ambush.creatures[1]? = some ⟨1, ⟨0, 0⟩, .west, 0⟩ := by decide
  have hr : (run ambush still 1).result = .ok ⟨.infect, 3, false, true⟩ := by decide +kernel
  obtain ⟨d, hspares, -, hended⟩ := turn_frame hw hc still none
  obtain ⟨-, -, hgrid, hinfected, -⟩ := hended _ hr
  obtain ⟨s, entry, other, start, hs, hlast, hstart, htakes⟩ := hinfected rfl
  -- nobody but the hopper is there to be taken over
  obtain ⟨x, hx, hv⟩ := htakes.taken
  have hlt : other < 2 := (List.getElem?_eq_some_iff.1 hx).1
  obtain rfl : other = 0 := by have := htakes.other_ne; omega
  obtain rfl : ⟨0, ⟨0, 1⟩, .north, 0⟩ = x := Option.some.inj (Eq.trans (by decide) hx)
  obtain rfl : seizer = s := Option.some.inj (Eq.trans (by decide) hs)
  obtain rfl : some "rest" = entry := by
    have hevaluated : (evaluated ambush still 1).getLast? = some (.infect (some "rest")) := by decide +kernel
    simpa [hevaluated] using hlast
  obtain rfl : 3 = start := Option.some.inj (Eq.trans (by decide +kernel) hstart)
  exact ⟨hw, hc, hr, by rw [hv, hspares.species], hgrid rfl⟩

/-- Two creatures of a species that takes over whoever is ahead, one facing the other. -/
def siblings : World :=
  (Act.spawn 0 ⟨1, 0⟩ .north).after <| (Act.spawn 0 ⟨0, 0⟩ .east).after <|
    (Act.enrol World.infector).after ⟨.empty 2 1, [], []⟩

/-- The other may be of the species, and at the start of its program, already. -/
theorem takeover_changes_nobody :
    let turn := run siblings ⟨[], [], ⟨#[], 0⟩⟩ 0
    siblings.Reachable Act.Lawful ∧ turn.result = .ok ⟨.infect, 1, false, true⟩ ∧
      ¬ ∃ id, id ≠ 0 ∧ turn.world.creatures[id]? ≠ siblings.creatures[id]? := by
  intro turn
  have hinfector : Species.ofSource "Infector\ninfect" ⟨0, 0, 0⟩ = .ok World.infector := by rfl
  refine ⟨⟨2, 1, ⟨.empty 2 1, [], []⟩, _, rfl, .act (.act (.act .start ⟨_, _, hinfector⟩)
    ⟨by decide, by decide⟩) ⟨by decide, by decide⟩⟩, by decide +kernel, ?_⟩
  rintro ⟨id, hid, hne⟩
  have hworld : turn.world = siblings.hold 0 ⟨.east, 1⟩ := by decide
  rw [hworld, World.getElem?_hold, if_neg hid.symm] at hne
  exact hne rfl

end Turn
end Vivarium
