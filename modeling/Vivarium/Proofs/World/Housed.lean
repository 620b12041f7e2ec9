import Vivarium.Proofs.World.Truthful

/-! Grid and roster are inverse to each other as long as nobody is put into a taken cell. -/
namespace Vivarium

namespace Grid

def occupied (g : Grid) : Nat := g.cells.countP (·.isSome)

def occupants (g : Grid) : List Nat := g.cells.toList.filterMap id

theorem length_occupants (g : Grid) : g.occupants.length = g.occupied := by
  rw [occupants, occupied, List.length_filterMap_eq_countP, ← Array.countP_toList]
  rfl

theorem exists_offset_eq {g : Grid} {k : Nat} (hk : k < g.cells.size) :
    ∃ p, g.Contains p ∧ g.offset p = k := by
  rw [g.size_cells] at hk
  have hw : 0 < g.width := Nat.pos_of_ne_zero fun h => by simp [h] at hk
  have hx := Nat.mod_lt k hw
  have hy : k / g.width < g.height := Nat.div_lt_of_lt_mul hk
  refine ⟨⟨(k % g.width : Nat), (k / g.width : Nat)⟩, ⟨Int.natCast_nonneg _, Int.ofNat_lt.2 hx,
    Int.natCast_nonneg _, Int.ofNat_lt.2 hy⟩, ?_⟩
  simp only [offset, Int.toNat_natCast]
  rw [Nat.mul_comm]
  exact Nat.div_add_mod k g.width

theorem eq_of_occupant? {g g' : Grid} (hwidth : g.width = g'.width) (hheight : g.height = g'.height)
    (ho : ∀ p, g.occupant? p = g'.occupant? p) : g = g' := by
  obtain ⟨width, height, cells, hsize⟩ := g
  obtain ⟨width', height', cells', hsize'⟩ := g'
  obtain rfl : width = width' := hwidth
  obtain rfl : height = height' := hheight
  have hcells : cells = cells' := by
    refine Array.ext (hsize.trans hsize'.symm) fun k hk hk' => ?_
    obtain ⟨p, hp, hpk⟩ := exists_offset_eq (g := ⟨width, height, cells, hsize⟩) hk
    have hp' : (⟨width, height, cells', hsize'⟩ : Grid).Contains p := hp
    have hpk' : (⟨width, height, cells', hsize'⟩ : Grid).offset p = k := hpk
    have hcell := ho p
    rw [occupant?, occupant?, if_pos hp, if_pos hp', hpk, hpk'] at hcell
    simpa [hk, hk'] using hcell
  subst hcells
  rfl

theorem occupant?_eq_some {g : Grid} {p : Pos} {id : Nat} :
    g.occupant? p = some id ↔ g.Contains p ∧ g.cells[g.offset p]? = some (some id) := by
  rw [occupant?]
  split
  · next h => simp [h, Option.join_eq_some_iff]
  · next h => simp [h]

theorem mem_occupants {g : Grid} {id : Nat} :
    id ∈ g.occupants ↔ ∃ p, g.occupant? p = some id := by
  simp only [occupants, List.mem_filterMap, id_eq, exists_eq_right, Array.mem_toList_iff,
    occupant?_eq_some]
  constructor
  · intro h
    obtain ⟨k, hk, hid⟩ := Array.mem_iff_getElem.1 h
    obtain ⟨p, hp, rfl⟩ := exists_offset_eq hk
    exact ⟨p, hp, by simp [hk, hid]⟩
  · rintro ⟨p, -, hid⟩
    exact Array.mem_of_getElem? hid

end Grid

namespace World

/-- Every creature is shown in the cell in which it is. -/
def Housed (w : World) : Prop :=
  ∀ id p, w.pos? id = some p → w.grid.occupant? p = some id

theorem Housed.congr {v w : World} (h : w.Housed) (hg : v.grid = w.grid)
    (hp : ∀ id, v.pos? id = w.pos? id) : v.Housed := by
  intro id p hpos
  rw [hp] at hpos
  rw [hg]
  exact h id p hpos

theorem Housed.hold {w : World} (h : w.Housed) (me : Nat) (t : Stance) : (w.hold me t).Housed :=
  h.congr rfl fun id => pos?_hold w me id t

theorem Housed.infect {w : World} (h : w.Housed) (id species pc : Nat) :
    (w.infect id species pc).world.Housed := by
  rw [world_infect]
  exact h.congr rfl (pos?_modify (f := ({ · with species, pc })) (fun _ => rfl) w id)

theorem Housed.move {w : World} {id : Nat} {c : Creature} {target : Pos} (h : w.Housed)
    (hc : w.creatures[id]? = some c) (hs : w.grid.Contains c.pos) (ht : w.grid.Contains target)
    (hfree : w.grid.occupant? target = none) : (w.move id target).world.Housed := by
  intro j p hj
  rw [pos?_move hc hs ht] at hj
  rw [occupant?_move hc hs ht]
  have hown : w.grid.occupant? c.pos = some id := h id c.pos (pos?_of_creature hc)
  split at hj
  · next hid =>
    obtain rfl := Option.some.inj hj
    simp [hid]
  · next hid =>
    have hp := h j p hj
    have htarget : target ≠ p := by
      rintro rfl
      simp [hfree] at hp
    have hleft : c.pos ≠ p := by
      rintro rfl
      exact hid (Option.some.inj (hown.symm.trans hp))
    simpa [htarget, hleft] using hp

theorem Housed.spawn {w : World} (h : w.Housed) (species : Nat) {p : Pos} (heading : Heading)
    (hp : w.grid.Contains p) (hfree : w.grid.occupant? p = none) :
    (w.spawn species p heading).world.Housed := by
  intro j q hj
  rw [pos?_spawn] at hj
  rw [world_spawn]
  simp only [hp, if_true]
  rw [Grid.occupant?_put _ hp]
  split at hj
  · next hid =>
    obtain rfl := Option.some.inj hj
    simp [hid]
  · have hq := h j q hj
    have hne : p ≠ q := by
      rintro rfl
      simp [hfree] at hq
    simpa [hne] using hq

theorem Housed.turn {w : World} (h : w.Housed) (chance : Chance) (me : Nat)
    (budget : Option Int) : (Turn.run w chance me budget).world.Housed := by
  apply Turn.run_invariant h
  · intro c s t _ _
    exact h.hold me t
  · intro v c s hv hactor hfrom hto hfree
    exact hv.move hactor.creature hfrom hto hfree
  · intro v c s other start hv _ _ _
    exact hv.infect other c.species start

theorem get_eq_some {w : World} {p : Pos} {id : Nat} :
    w.get p = .ok (some id) ↔ w.grid.occupant? p = some id := by
  unfold get
  split
  · simp
  · next hp => simp [Grid.occupant?_eq_some, hp]

/-- Two cells with one number are one cell, since the creature of that number is in both. -/
theorem Truthful.nodup_occupants {w : World} (h : w.Truthful) : w.grid.occupants.Nodup := by
  rw [Grid.occupants, List.Nodup, List.pairwise_filterMap, List.pairwise_iff_getElem]
  intro i j hi hj hij a ha b hb hab
  subst hab
  obtain ⟨p, hp, rfl⟩ := Grid.exists_offset_eq (by simpa using hi)
  obtain ⟨q, hq, rfl⟩ := Grid.exists_offset_eq (by simpa using hj)
  have hop := h p a (Grid.occupant?_eq_some.2
    ⟨hp, Array.getElem?_eq_some_iff.2 ⟨Grid.offset_lt hp, ha⟩⟩)
  have hoq := h q a (Grid.occupant?_eq_some.2
    ⟨hq, Array.getElem?_eq_some_iff.2 ⟨Grid.offset_lt hq, hb⟩⟩)
  obtain rfl := Option.some.inj (hop.symm.trans hoq)
  omega

theorem Truthful.occupants_subset {w : World} (h : w.Truthful) :
    w.grid.occupants ⊆ List.range w.creatures.length := by
  intro id hid
  obtain ⟨p, hp⟩ := Grid.mem_occupants.1 hid
  exact List.mem_range.2 (pos?_lt (h p id hp))

/-- The cells and the roster hold the same numbers, so there are as many of them. -/
theorem occupants_perm {w : World} (ht : w.Truthful) (hh : w.Housed) :
    w.grid.occupants.Perm (List.range w.creatures.length) := by
  refine (List.perm_ext_iff_of_nodup ht.nodup_occupants List.nodup_range).2 fun id => ?_
  refine ⟨fun hid => ht.occupants_subset hid, fun hid => ?_⟩
  have hid := List.mem_range.1 hid
  have hpos : w.pos? id = some w.creatures[id].pos := by simp [pos?, hid]
  exact Grid.mem_occupants.2 ⟨_, hh id _ hpos⟩

end World

/-- Newcomers are put into empty cells only. -/
def Act.OntoFree (w : World) : Act → Prop
  | .spawn _ p _ => w.grid.Contains p ∧ w.grid.occupant? p = none
  | _ => True

namespace World

theorem Housed.act {w : World} (h : w.Housed) {a : Act} (ha : Act.OntoFree w a) :
    (a.after w).Housed := by
  cases a with
  | enrol s => exact h.congr rfl fun _ => rfl
  | spawn species p heading => exact h.spawn species heading ha.1 ha.2
  | turn me chance budget => exact h.turn chance me budget

theorem housed_of_reachable {w : World} (h : w.Reachable Act.OntoFree) : w.Housed := by
  refine h.invariant (fun width height _ _ id p hpos => ?_) fun v a hv ha => hv.act ha
  simp [pos?] at hpos

/-- As long as nobody is put into a taken cell, a cell shows a creature just when the creature is
there; each creature has a cell of its own, and there are as many taken cells as creatures. -/
theorem grid_complete {w : World} (h : w.Reachable Act.OntoFree) :
    (∀ (p : Pos) (id : Nat),
      w.get p = .ok (some id) ↔ ∃ c, w.creatures[id]? = some c ∧ c.pos = p) ∧
      (∀ (i j : Nat) (c d : Creature), w.creatures[i]? = some c → w.creatures[j]? = some d →
        c.pos = d.pos → i = j) ∧
      w.grid.occupied = w.creatures.length := by
  have ht := truthful_of_reachable h
  have hh := housed_of_reachable h
  refine ⟨fun p id => ?_, fun i j c d hc hd hpos => ?_, ?_⟩
  · rw [get_eq_some, ← pos?_eq_some]
    exact ⟨ht p id, hh id p⟩
  · have hi := hh i c.pos (pos?_of_creature hc)
    have hj := hh j d.pos (pos?_of_creature hd)
    rw [← hpos, hi] at hj
    exact Option.some.inj hj
  · rw [← Grid.length_occupants, (occupants_perm ht hh).length_eq, List.length_range]

def infector : Species := ⟨"Infector", ⟨0, 0, 0⟩, ⟨#[.infect none]⟩⟩

theorem grid_complete_hop_and_infection :
    let still : Chance := ⟨[], [], ⟨#[], 0⟩⟩
    let w := (Act.turn 1 still none).after <| (Act.turn 0 still none).after <|
      (Act.spawn 1 ⟨2, 0⟩ .west).after <| (Act.spawn 0 ⟨0, 0⟩ .east).after <|
      (Act.enrol infector).after <| (Act.enrol hopper).after ⟨.empty 3 1, [], []⟩
    w.Reachable Act.OntoFree ∧ w.creatures.map (·.species) = [1, 1] ∧
      w.get ⟨1, 0⟩ = .ok (some 0) ∧ w.get ⟨2, 0⟩ = .ok (some 1) ∧ w.grid.occupied = 2 := by
  intro still w
  have hw : w.Reachable Act.OntoFree :=
    ⟨3, 1, ⟨.empty 3 1, [], []⟩, _, rfl, .act (.act (.act (.act (.act (.act .start ⟨⟩) ⟨⟩)
      ⟨by decide, by decide⟩) ⟨by decide, by decide⟩) ⟨⟩) ⟨⟩⟩
  have hc : w.creatures = [⟨1, ⟨1, 0⟩, .east, 0⟩, ⟨1, ⟨2, 0⟩, .west, 1⟩] := by decide
  obtain ⟨hfound, -, hcount⟩ := grid_complete hw
  rw [hc] at hfound hcount
  exact ⟨hw, by rw [hc]; rfl, (hfound _ _).2 ⟨_, rfl, rfl⟩, (hfound _ _).2 ⟨_, rfl, rfl⟩, hcount⟩

end World
end Vivarium
