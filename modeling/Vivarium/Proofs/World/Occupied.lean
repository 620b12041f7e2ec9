import Mathlib.Data.List.Perm.Subperm
import Vivarium.Proofs.World.Housed

/-!
How many cells are taken. A creature that hops takes a new cell and gives up its old one, whoever is
shown there; if nobody is, as another creature was put into the cell and has left it, then one more cell
is taken. Nothing else that a turn does has a part in it.
-/
namespace Vivarium

theorem Grid.occupied_put {g : Grid} {p : Pos} (o : Option Nat) (hp : g.Contains p) :
    (g.put p o).occupied + (g.occupant? p).toList.length = g.occupied + o.toList.length := by
  have hlt := offset_lt hp
  have hone (o : Option Nat) : o.toList.length = if o.isSome then 1 else 0 := by
    cases o <;> rfl
  have hcell : g.occupant? p = g.cells[g.offset p] := by
    rw [occupant?, if_pos hp, Array.getElem?_eq_getElem hlt, Option.join_some]
  have hcount := Array.boole_getElem_le_countP (p := (·.isSome)) hlt
  change (g.cells.setIfInBounds (g.offset p) o).countP (·.isSome) + _ = _
  rw [Array.setIfInBounds_def, dif_pos hlt, Array.countP_set hlt, hcell, hone, hone, occupied]
  omega

namespace World

theorem occupied_move {w : World} {id : Nat} {c : Creature} {target : Pos}
    (hc : w.creatures[id]? = some c) (hs : w.grid.Contains c.pos) (ht : w.grid.Contains target)
    (hfree : w.grid.occupant? target = none) :
    (w.move id target).world.grid.occupied + (w.grid.occupant? c.pos).toList.length =
      w.grid.occupied + 1 := by
  have hleft := Grid.occupied_put none hs
  have hstill : (w.grid.put c.pos none).occupant? target = none := by
    rw [Grid.occupant?_put _ hs, hfree, ite_self]
  have htaken := Grid.occupied_put (some id) (show (w.grid.put c.pos none).Contains target from ht)
  rw [hstill] at htaken
  rw [move_eq hc hs ht]
  change ((w.grid.put c.pos none).put target (some id)).occupied + _ = _
  simp only [Option.toList_none, Option.toList_some, List.length_nil, List.length_singleton]
    at hleft htaken
  omega

theorem get_eq_none {w : World} {p : Pos} (hp : w.grid.Contains p) :
    w.get p = .ok none ↔ w.grid.occupant? p = none := by
  rw [get, if_pos hp, Except.ok.injEq]

theorem occupied_course {w v : World} {me : Nat} {c : Creature} {es : List Event}
    {r : Except Fault Progress} (hc : w.creatures[me]? = some c) (h : Turn.Course w me v es r) :
    (v.grid.occupied = w.grid.occupied ∨ v.grid.occupied = w.grid.occupied + 1) ∧
      (v.grid.occupied = w.grid.occupied + 1 ↔
        (∃ infected, r = .ok (.ended true infected)) ∧ w.get c.pos = .ok none) := by
  -- a turn without a hop leaves every cell as it was
  have hstay (hgrid : v.grid = w.grid) (hr : ∀ infected, r ≠ .ok (.ended true infected)) :
      (v.grid.occupied = w.grid.occupied ∨ v.grid.occupied = w.grid.occupied + 1) ∧
        (v.grid.occupied = w.grid.occupied + 1 ↔
          (∃ infected, r = .ok (.ended true infected)) ∧ w.get c.pos = .ok none) := by
    rw [hgrid]
    refine ⟨.inl rfl, iff_of_false (Nat.ne_of_lt (Nat.lt_succ_self _)) ?_⟩
    rintro ⟨⟨infected, hended⟩, -⟩
    exact hr infected hended
  cases h with
  | idle f => exact hstay rfl (by simp)
  | held hs pc _ _ hr =>
    exact hstay rfl fun infected hended => absurd (hr _ _ hended).1 (by decide)
  | infected hs pc other p entry start =>
    refine hstay ?_ (by simp)
    rw [world_infect]
    rfl
  | @moved d s hs pc target ha _ _ hfrom hto hfree =>
    obtain rfl := Option.some.inj (hc.symm.trans ha.creature)
    have hcount := occupied_move (ha.hold ⟨c.heading.after hs, pc⟩).creature hfrom hto hfree
    rw [get_eq_none hfrom]
    change _ + (w.grid.occupant? c.pos).toList.length = w.grid.occupied + 1 at hcount
    cases ho : w.grid.occupant? c.pos with
    | none =>
      rw [ho] at hcount
      exact ⟨.inr hcount, iff_of_true hcount ⟨⟨false, rfl⟩, rfl⟩⟩
    | some id =>
      rw [ho] at hcount
      have hsame := Nat.succ_inj.1 hcount
      refine ⟨.inl hsame, iff_of_false (fun h => ?_) (by simp)⟩
      omega

theorem Truthful.occupied_le {w : World} (h : w.Truthful) :
    w.grid.occupied ≤ w.creatures.length := by
  have hle := (List.subperm_of_subset h.nodup_occupants h.occupants_subset).length_le
  rwa [Grid.length_occupants, List.length_range] at hle

/-- A taken cell may come to be another one, but no act leaves fewer of them. -/
theorem occupied_le_after (a : Act) (w : World) :
    w.grid.occupied ≤ (a.after w).grid.occupied := by
  cases a with
  | enrol s => exact Nat.le_refl _
  | spawn species p heading =>
    rw [Act.after, world_spawn]
    dsimp only
    split
    · next hp =>
      have hput := Grid.occupied_put (some w.creatures.length) hp
      have hbefore : (w.grid.occupant? p).toList.length ≤ 1 := Option.length_toList_le
      rw [Option.toList_some, List.length_singleton] at hput
      omega
    · exact Nat.le_refl _
  | turn me chance budget =>
    apply Turn.run_invariant (P := fun v => w.grid.occupied ≤ v.grid.occupied) (Nat.le_refl _)
    · intro c s t _ _
      exact Nat.le_refl _
    · intro v c s hv ha hfrom hto hfree
      have hcount := occupied_move ha.creature hfrom hto hfree
      have hbefore : (v.grid.occupant? c.pos).toList.length ≤ 1 := Option.length_toList_le
      omega
    · intro v c s other start hv _ _ _
      rw [world_infect]
      exact hv

theorem occupied_le_of_run {rule : World → Act → Prop} {v w : World} {es : List Event}
    (h : Run rule w es v) : w.grid.occupied ≤ v.grid.occupied :=
  h.invariant (P := fun v => w.grid.occupied ≤ v.grid.occupied)
    (fun u a hu _ => Nat.le_trans hu (occupied_le_after a u)) (Nat.le_refl _)

/-- A turn leaves as many cells taken as there were, or one more, and this just if its creature hops
out of a cell in which nobody is shown. So there are never fewer of them than there were, and never more
than there are creatures. -/
theorem occupied_turn {rule : World → Act → Prop} {w : World} (h : w.Reachable rule) {me : Nat}
    {c : Creature} (hc : w.creatures[me]? = some c) (chance : Chance) (budget : Option Int) :
    let turn := Turn.run w chance me budget
    (turn.world.grid.occupied = w.grid.occupied ∨
      turn.world.grid.occupied = w.grid.occupied + 1) ∧
    (turn.world.grid.occupied = w.grid.occupied + 1 ↔
      (∃ o, turn.result = .ok o ∧ o.moved = true) ∧ w.get c.pos = .ok none) ∧
    turn.world.grid.occupied ≤ turn.world.creatures.length ∧
    w.grid.occupied ≤ w.creatures.length ∧
    ∀ {es : List Event} {v : World}, Run rule w es v → w.grid.occupied ≤ v.grid.occupied := by
  intro turn
  have ht := truthful_of_reachable h
  obtain ⟨hcount, hiff⟩ := occupied_course hc (Turn.run_course w chance me budget)
  refine ⟨hcount, hiff.trans (and_congr_left' ?_), ?_, ht.occupied_le, occupied_le_of_run⟩
  · change (∃ infected, turn.result.map Outcome.progress = _) ↔ _
    cases turn.result <;> simp [Except.map, Outcome.progress]
  · exact (ht.act (.turn me chance budget)).occupied_le

/-- The last hopper to leave a shared cell takes one cell more. -/
theorem occupied_turn_from_unseen :
    let still : Chance := ⟨[], [], ⟨#[], 0⟩⟩
    let w := (Act.turn 0 still none).after <| (Act.spawn 0 ⟨0, 0⟩ .south).after <|
      (Act.spawn 0 ⟨0, 0⟩ .east).after <| (Act.enrol hopper).after ⟨.empty 2 2, [], []⟩
    w.Reachable (fun _ _ => True) ∧ w.creatures[1]? = some ⟨0, ⟨0, 0⟩, .south, 0⟩ ∧
      w.grid.occupied = 1 ∧ (Turn.run w still 1).world.grid.occupied = 2 ∧
      (Turn.run w still 1).world.creatures.length = 2 := by
  intro still w
  have hw : w.Reachable (fun _ _ => True) :=
    ⟨2, 2, ⟨.empty 2 2, [], []⟩, _, rfl, .act (.act (.act (.act .start ⟨⟩) ⟨⟩) ⟨⟩) ⟨⟩⟩
  have hc : w.creatures[1]? = some ⟨0, ⟨0, 0⟩, .south, 0⟩ := by decide
  have hone : w.grid.occupied = 1 := by decide +kernel
  obtain ⟨-, hiff, -⟩ := occupied_turn hw hc still none
  rw [hone] at hiff
  exact ⟨hw, hc, hone, hiff.2 ⟨⟨⟨.hop, 1, true, false⟩, by decide +kernel, rfl⟩, by decide +kernel⟩,
    by decide⟩

end World
end Vivarium
