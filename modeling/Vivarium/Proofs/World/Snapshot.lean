import Vivarium.Census
import Vivarium.Proofs.Recording
import Vivarium.Proofs.World.Occupied
import Vivarium.Proofs.World.Shown

/-!
Snapshots of the grid against the census. A creature is counted wherever it is, and seen in a snapshot
only if the grid shows it, which it always does as long as nobody is put into a taken cell.
-/
namespace Vivarium

namespace Grid

variable {α β : Type} {g : Grid} {f f' : Option Nat → α}

theorem map_rows (g : Grid) (f : Option Nat → α) (h : α → β) :
    (g.rows f).map (·.map h) = g.rows (h ∘ f) := by
  simp [rows, Function.comp_def]

theorem rows_congr (h : ∀ p, f (g.occupant? p) = f' (g.occupant? p)) : g.rows f = g.rows f' := by
  simp only [rows, h]

theorem row_eq {y : Nat} (hy : y < g.height) :
    ((List.range g.width).map fun x : Nat => g.occupant? ⟨x, y⟩) =
      (g.cells.toList.drop (y * g.width)).take g.width := by
  have hend : (y + 1) * g.width ≤ g.cells.size := by
    rw [g.size_cells, Nat.mul_comm g.width]
    exact Nat.mul_le_mul_right _ hy
  rw [Nat.succ_mul] at hend
  refine List.ext_getElem ?_ fun x hx hx' => ?_
  · simp only [List.length_map, List.length_range, List.length_take, List.length_drop,
      Array.length_toList]
    omega
  · have hlt : x < g.width := by simpa using hx
    have hin : g.Contains ⟨x, y⟩ :=
      ⟨Int.natCast_nonneg _, Int.ofNat_lt.2 hlt, Int.natCast_nonneg _, Int.ofNat_lt.2 hy⟩
    have hcell : y * g.width + x < g.cells.size := by omega
    simp [occupant?, hin, offset, hcell]

theorem flatten_rows (g : Grid) (f : Option Nat → α) : (g.rows f).flatten = g.cells.toList.map f := by
  have hfirst (n : Nat) (hn : n ≤ g.height) :
      ((List.range n).map fun y : Nat =>
        (List.range g.width).map fun x : Nat => g.occupant? ⟨x, y⟩).flatten =
        g.cells.toList.take (n * g.width) := by
    induction n with
    | zero => simp
    | succ n ih =>
      rw [List.range_succ, List.map_append, List.flatten_append, ih (by omega), List.map_singleton,
        List.flatten_singleton, row_eq hn, Nat.succ_mul, List.take_add]
  have hall := hfirst g.height (Nat.le_refl _)
  rw [List.take_of_length_le (by simp [g.size_cells, Nat.mul_comm])] at hall
  rw [← hall, List.map_flatten, List.map_map]
  simp [rows, Function.comp_def]

end Grid

namespace World

variable {w : World}

/-- The cells that are seen empty are those of the grid, whatever is looked for in a creature. -/
theorem Truthful.isNone_rows {α : Type} (h : w.Truthful) (feature : Creature → α) :
    (w.grid.rows fun o => do return feature (← w.creatures[← o]?)).map (·.map Option.isNone) =
      w.grid.rows Option.isNone := by
  rw [Grid.map_rows]
  refine Grid.rows_congr fun p => ?_
  cases ho : w.grid.occupant? p with
  | none => rfl
  | some id =>
    obtain ⟨c, hc, -⟩ := pos?_eq_some.1 (h p id ho)
    simp [hc]

def isOf (w : World) (species id : Nat) : Bool := w.creatures[id]?.any (·.species = species)

theorem count_occupancy (w : World) (s : Nat) :
    w.occupancy.flatten.count (some s) = w.grid.occupants.countP (w.isOf s) := by
  rw [occupancy, Grid.flatten_rows, List.count_eq_countP, List.countP_map, Grid.occupants,
    List.countP_filterMap]
  refine List.countP_congr fun o _ => ?_
  cases o with
  | none => simp
  | some id => cases hc : w.creatures[id]? <;> simp [isOf, hc]

theorem population_eq_countP (w : World) (s : Nat) :
    w.population s = (List.range w.creatures.length).countP (w.isOf s) := by
  have hrange : (List.range w.creatures.length).map (w.creatures[·]?) = w.creatures.map some :=
    List.ext_getElem (by simp) fun i hi hi' => by simp
  calc w.population s = (w.creatures.map some).countP (·.any (·.species = s)) := by
        rw [population, List.countP_map]; rfl
    _ = (List.range w.creatures.length).countP (w.isOf s) := by
        rw [← hrange, List.countP_map]; rfl

/-- Snapshots of species and of headings are empty in the cells where the grid is, and nowhere else. No
more creatures of a species are seen than there are; all of them are if nobody was ever put into a taken
cell. An array of 32 bits can hold the snapshot as long as it can hold the numbers of the species. -/
theorem snapshots_agree {rule : World → Act → Prop} (h : w.Reachable rule) :
    (w.occupancy.map (·.map Option.isNone) = w.grid.rows Option.isNone ∧
      w.headings.map (·.map Option.isNone) = w.grid.rows Option.isNone) ∧
    (∀ s, w.occupancy.flatten.count (some s) ≤ w.population s) ∧
    (w.Reachable Act.OntoFree → ∀ s, w.occupancy.flatten.count (some s) = w.population s) ∧
    ((∀ c ∈ w.creatures, c.species ≤ Recording.greatestNumber) →
      Recording.occupancy w = .ok w.occupancy) := by
  have ht := truthful_of_reachable h
  refine ⟨⟨ht.isNone_rows (·.species), ht.isNone_rows (·.heading)⟩, fun s => ?_, fun hfree s => ?_,
    Recording.occupancy_eq⟩
  · rw [count_occupancy, population_eq_countP]
    exact (List.subperm_of_subset ht.nodup_occupants ht.occupants_subset).countP_le _
  · rw [count_occupancy, population_eq_countP]
    exact (occupants_perm ht (housed_of_reachable hfree)).countP_eq _

/-- Of three hoppers two are seen, as one has been pushed out of its cell. -/
theorem snapshots_agree_crowd :
    let still : Chance := ⟨[], [], ⟨#[], 0⟩⟩
    let w := (Act.turn 1 still none).after <| (Act.spawn 1 ⟨1, 0⟩ .west).after <|
      (Act.spawn 0 ⟨0, 0⟩ .east).after <| (Act.enrol infector).after <|
      (Act.enrol hopper).after ⟨.empty 2 1, [], []⟩
    (crowd.Reachable (fun _ _ => True) ∧ crowd.population 0 = 3 ∧
      crowd.occupancy.flatten.count (some 0) ≤ 3 ∧
      crowd.headings.map (·.map Option.isNone) = [[false, true, false]]) ∧
    w.Reachable Act.OntoFree ∧ w.population 1 = 2 ∧ w.occupancy.flatten.count (some 1) = 2 := by
  intro still w
  have hcrowd : crowd.Reachable (fun _ _ => True) :=
    ⟨3, 1, ⟨.empty 3 1, [], []⟩, _, rfl, .act (.act (.act (.act .start ⟨⟩) ⟨⟩) ⟨⟩) ⟨⟩⟩
  have hw : w.Reachable Act.OntoFree :=
    ⟨2, 1, ⟨.empty 2 1, [], []⟩, _, rfl, .act (.act (.act (.act (.act .start ⟨⟩) ⟨⟩)
      ⟨by decide, by decide⟩) ⟨by decide, by decide⟩) ⟨⟩⟩
  have hpopulation : crowd.population 0 = 3 := by decide
  have hgrid : crowd.grid.rows Option.isNone = [[false, true, false]] := by decide
  have hboth : w.population 1 = 2 := by decide
  obtain ⟨⟨-, hheadings⟩, hcount, -⟩ := snapshots_agree hcrowd
  obtain ⟨-, -, hall, -⟩ := snapshots_agree hw
  exact ⟨⟨hcrowd, hpopulation, hpopulation ▸ hcount 0, hheadings.trans hgrid⟩, hw, hboth,
    hboth ▸ hall hw 1⟩

end World
end Vivarium
