import Vivarium.Number.Sum
import Vivarium.Proofs.Number.Rounding

/-!
Plain sums of amounts, in which nothing is below zero. No infinite number meets its opposite in them, so
that they are always numbers.
-/
namespace Vivarium.Binary64

/-- What is not below zero. -/
inductive IsAmount : Binary64 → Prop
  | finite {q : Rat} (h : 0 ≤ q) : IsAmount (.finite q)
  | negativeZero : IsAmount .negativeZero
  | infinite : IsAmount (.infinite false)

namespace IsAmount

theorem ne_undefined {x : Binary64} (h : x.IsAmount) : x ≠ .undefined := by
  rintro rfl
  cases h

theorem ofRat {q : Rat} (h : 0 ≤ q) : IsAmount (.ofRat q) := by
  rw [ofRat_of_nonneg h]
  split
  · exact .infinite
  · exact .finite (round_nonneg h)

theorem add {x y : Binary64} (hx : x.IsAmount) (hy : y.IsAmount) : (x.add y).IsAmount := by
  cases hx with
  | finite hp =>
    cases hy with
    | finite hq => exact .ofRat (add_nonneg hp hq)
    | negativeZero => exact .finite hp
    | infinite => exact .infinite
  | negativeZero =>
    cases hy with
    | finite hq => exact .finite hq
    | negativeZero => exact .negativeZero
    | infinite => exact .infinite
  | infinite => cases hy <;> exact .infinite

theorem divNat {x : Binary64} (h : x.IsAmount) (n : Nat) : (x.divNat n).IsAmount := by
  cases h with
  | finite hq => exact .ofRat (div_nonneg hq (Nat.cast_nonneg n))
  | negativeZero => exact .negativeZero
  | infinite => exact .infinite

end IsAmount

section Sums

variable {xs : List Binary64} (h : ∀ x ∈ xs, x.IsAmount)

include h

theorem isAmount_sumOnto {x : Binary64} (hx : x.IsAmount) : (sumOnto x xs).IsAmount := by
  induction xs generalizing x with
  | nil => exact hx
  | cons y ys ih =>
    obtain ⟨hy, hys⟩ := List.forall_mem_cons.1 h
    exact ih hys (hx.add hy)

theorem isAmount_sumPairs : ∀ x ∈ sumPairs xs, x.IsAmount := by
  fun_induction sumPairs xs with
  | case1 x y zs ih =>
    obtain ⟨hx, hrest⟩ := List.forall_mem_cons.1 h
    obtain ⟨hy, hzs⟩ := List.forall_mem_cons.1 hrest
    exact List.forall_mem_cons.2 ⟨hx.add hy, ih hzs⟩
  | case2 => exact h

theorem isAmount_zipWith {ys : List Binary64} (hys : ∀ y ∈ ys, y.IsAmount) :
    ∀ x ∈ xs.zipWith add ys, x.IsAmount := by
  intro x hx
  rw [← List.map_uncurry_zip_eq_zipWith] at hx
  obtain ⟨⟨a, b⟩, hab, rfl⟩ := List.mem_map.1 hx
  obtain ⟨ha, hb⟩ := List.of_mem_zip hab
  exact (h a ha).add (hys b hb)

theorem isAmount_sumLanes : ∀ x ∈ sumLanes xs, x.IsAmount := by
  unfold sumLanes
  generalize List.range _ = steps
  have hfirst : ∀ x ∈ xs.take lanes, x.IsAmount := fun x hx => h x (List.mem_of_mem_take hx)
  generalize xs.take lanes = sums at hfirst
  induction steps generalizing sums with
  | nil => exact hfirst
  | cons i steps ih =>
    refine ih _ (isAmount_zipWith hfirst fun x hx => ?_)
    exact h x (List.mem_of_mem_drop (List.mem_of_mem_take hx))

theorem isAmount_sumBlock : (sumBlock xs).IsAmount := by
  unfold sumBlock
  dsimp only
  split
  · exact isAmount_sumOnto h .negativeZero
  · refine isAmount_sumOnto (fun x hx => h x (List.mem_of_mem_drop hx)) ?_
    have hsums := isAmount_sumPairs (isAmount_sumPairs (isAmount_sumPairs (isAmount_sumLanes h)))
    cases hlast : sumPairs (sumPairs (sumPairs (sumLanes xs))) with
    | nil => exact .negativeZero
    | cons x rest => exact hsums x (hlast ▸ List.mem_cons_self)

theorem isAmount_sumHalves : (sumHalves xs).IsAmount := by
  fun_induction sumHalves xs with
  | case1 xs hfew => exact isAmount_sumBlock h
  | case2 xs hmany half ihtake ihdrop =>
    exact (ihtake fun x hx => h x (List.mem_of_mem_take hx)).add
      (ihdrop fun x hx => h x (List.mem_of_mem_drop hx))

theorem isAmount_sum : (sum xs).IsAmount := by
  cases xs with
  | nil => exact .finite le_rfl
  | cons x ys =>
    obtain ⟨hx, hys⟩ := List.forall_mem_cons.1 h
    rw [sum]
    split
    · exact hx
    · exact hx.add (isAmount_sumHalves hys)

end Sums

end Vivarium.Binary64
