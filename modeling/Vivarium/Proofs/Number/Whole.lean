import Mathlib.Algebra.Order.BigOperators.Group.List
import Vivarium.Proofs.Number.Sum

/-!
Sums of whole numbers. As long as the numbers add up to no more than `2 ^ 53`, none of the additions is
rounded, in whatever order they are made, and there is nothing to compensate.
-/
namespace Vivarium

namespace Binary64

/-- The numbers are whole, none below zero, and add up to `n`. -/
inductive Sums : List Binary64 → Nat → Prop
  | nil : Sums [] 0
  | cons {x : Binary64} {xs : List Binary64} {m n : Nat} (hx : x.toRat? = some (m : Rat))
    (hxs : Sums xs n) : Sums (x :: xs) (m + n)

theorem eq_zero_of_toRat? {n : Nat} (h : negativeZero.toRat? = some (n : Rat)) : n = 0 :=
  Nat.cast_eq_zero.1 (Option.some.inj h).symm

theorem finite_add {x : Binary64} {m n : Nat} (hx : x.toRat? = some (n : Rat))
    (h : m + n ≤ 2 ^ 53) : add (.finite (m : Rat)) x = .finite ((m + n : Nat) : Rat) := by
  cases x with
  | finite q =>
    obtain rfl := Option.some.inj hx
    rw [add, ← Nat.cast_add, ofRat_natCast_of_le h]
  | negativeZero =>
    obtain rfl := eq_zero_of_toRat? hx
    rfl
  | infinite => cases hx
  | undefined => cases hx

theorem toRat?_add {x y : Binary64} {m n : Nat} (hx : x.toRat? = some (m : Rat))
    (hy : y.toRat? = some (n : Rat)) (h : m + n ≤ 2 ^ 53) :
    (x.add y).toRat? = some ((m + n : Nat) : Rat) := by
  cases x with
  | finite p =>
    obtain rfl := Option.some.inj hx
    rw [finite_add hy h, toRat?]
  | negativeZero =>
    obtain rfl := eq_zero_of_toRat? hx
    rw [Nat.zero_add, ← hy]
    cases y <;> rfl
  | infinite => cases hx
  | undefined => cases hx

namespace Sums

variable {x : Binary64} {xs ys : List Binary64} {l m n : Nat}

theorem exists_of_append (h : Sums (xs ++ ys) n) : ∃ a b, Sums xs a ∧ Sums ys b ∧ a + b = n := by
  induction xs generalizing n with
  | nil => exact ⟨0, n, .nil, h, Nat.zero_add n⟩
  | cons x xs ih =>
    cases h with
    | cons hx hrest =>
      obtain ⟨a, b, ha, hb, rfl⟩ := ih hrest
      exact ⟨_, b, .cons hx ha, hb, Nat.add_assoc _ _ _⟩

theorem exists_take_drop (h : Sums xs n) (k : Nat) :
    ∃ a b, Sums (xs.take k) a ∧ Sums (xs.drop k) b ∧ a + b = n :=
  exists_of_append (by rwa [List.take_append_drop])

theorem sumOnto (hx : x.toRat? = some (m : Rat)) (h : Sums ys n) (hle : m + n ≤ 2 ^ 53) :
    (sumOnto x ys).toRat? = some ((m + n : Nat) : Rat) := by
  induction h generalizing x m with
  | nil => exact hx
  | @cons y ys a b hy _ ih =>
    have hstep := toRat?_add hx hy (by omega)
    rw [← Nat.add_assoc]
    exact ih hstep (by omega)

theorem sumPairs (h : Sums xs n) (hle : n ≤ 2 ^ 53) : Sums (sumPairs xs) n := by
  fun_induction Binary64.sumPairs xs generalizing n with
  | case1 x y zs ih =>
    cases h with
    | cons hx hrest =>
      cases hrest with
      | cons hy hzs =>
        rw [← Nat.add_assoc]
        exact .cons (toRat?_add hx hy (by omega)) (ih hzs (by omega))
  | case2 => exact h

theorem zipWith (hxs : Sums xs m) (hys : Sums ys n) (hlength : xs.length = ys.length)
    (hle : m + n ≤ 2 ^ 53) : Sums (xs.zipWith add ys) (m + n) := by
  induction hxs generalizing ys n with
  | nil =>
    cases hys with
    | nil => exact .nil
    | cons hy hys => cases hlength
  | @cons x xs a b hx _ ih =>
    cases hys with
    | nil => cases hlength
    | @cons y ys c d hy hys =>
      rw [Nat.add_add_add_comm]
      exact .cons (toRat?_add hx hy (by omega)) (ih hys (by simpa using hlength) (by omega))

end Sums

theorem length_sumPairs (xs : List Binary64) : (sumPairs xs).length = (xs.length + 1) / 2 := by
  fun_induction sumPairs xs with
  | case1 x y zs ih =>
    simp only [List.length_cons, ih]
    omega
  | case2 zs hshort =>
    cases zs with
    | nil => rfl
    | cons x zs =>
      cases zs with
      | nil => simp
      | cons y zs => exact absurd rfl (hshort x y zs)

/-- The running sums after some rounds of additions: they are as many as before, and they hold all
numbers so far. -/
theorem Sums.foldl_lanes {xs : List Binary64} {n : Nat} (k : Nat)
    (hlength : lanes * (k + 1) ≤ xs.length) (h : Sums (xs.take (lanes * (k + 1))) n)
    (hle : n ≤ 2 ^ 53) :
    let sums := (List.range k).foldl
      (fun sums i => sums.zipWith add ((xs.drop (lanes * (i + 1))).take lanes)) (xs.take lanes)
    Sums sums n ∧ sums.length = lanes := by
  induction k generalizing n with
  | zero => exact ⟨h, by simpa using hlength⟩
  | succ k ih =>
    have hmore : xs.take (lanes * (k + 1 + 1)) =
        xs.take (lanes * (k + 1)) ++ (xs.drop (lanes * (k + 1))).take lanes := by
      rw [Nat.mul_succ lanes (k + 1), List.take_add]
    rw [hmore] at h
    obtain ⟨a, b, ha, hb, rfl⟩ := h.exists_of_append
    rw [Nat.mul_succ] at hlength
    obtain ⟨hsums, hlanes⟩ := ih (by omega) ha (by omega)
    have hrow : ((xs.drop (lanes * (k + 1))).take lanes).length = lanes := by
      rw [List.length_take, List.length_drop]
      omega
    rw [List.range_succ, List.foldl_concat]
    exact ⟨hsums.zipWith hb (hlanes.trans hrow.symm) hle, by rw [List.length_zipWith, hlanes, hrow,
      Nat.min_self]⟩

section Sum

variable {xs : List Binary64} {n : Nat} (h : Sums xs n) (hle : n ≤ 2 ^ 53)

include h hle

theorem Sums.sumLanes (hmany : lanes ≤ xs.length) : ∃ a b, Sums (sumLanes xs) a ∧
    (Binary64.sumLanes xs).length = lanes ∧ Sums (xs.drop (lanes * (xs.length / lanes))) b ∧
      a + b = n := by
  have hrows : xs.length / lanes - 1 + 1 = xs.length / lanes :=
    Nat.sub_add_cancel (Nat.div_pos hmany (by decide))
  obtain ⟨a, b, ha, hb, rfl⟩ := h.exists_take_drop (lanes * (xs.length / lanes))
  rw [← hrows] at ha
  obtain ⟨hsums, hlanes⟩ := Sums.foldl_lanes _ (by rw [hrows]; exact Nat.mul_div_le _ _) ha (by omega)
  exact ⟨a, b, hsums, hlanes, hb, rfl⟩

theorem Sums.sumBlock : (sumBlock xs).toRat? = some (n : Rat) := by
  unfold Binary64.sumBlock
  dsimp only
  split
  · simpa using Sums.sumOnto (x := .negativeZero) (m := 0) rfl h (by omega)
  · next hmany =>
    obtain ⟨a, b, ha, hlanes, hb, rfl⟩ := h.sumLanes hle (Nat.not_lt.1 hmany)
    have hpairs := ((ha.sumPairs (by omega)).sumPairs (by omega)).sumPairs (by omega)
    -- eight sums are added in pairs three times, so that one is left
    have hone : (Binary64.sumPairs (Binary64.sumPairs (Binary64.sumPairs
        (Binary64.sumLanes xs)))).length = 1 := by
      simp only [length_sumPairs, hlanes, lanes]
    obtain ⟨x, hx⟩ := List.length_eq_one_iff.1 hone
    rw [hx] at hpairs ⊢
    cases hpairs with
    | cons hworth hnil =>
      cases hnil
      exact Sums.sumOnto hworth hb hle

end Sum

theorem Sums.sumHalves (xs : List Binary64) :
    ∀ {n : Nat}, Sums xs n → n ≤ 2 ^ 53 → (sumHalves xs).toRat? = some (n : Rat) := by
  fun_induction Binary64.sumHalves xs
  case case1 ys hfew => exact fun h hle => h.sumBlock hle
  case case2 ys hmany half ihtake ihdrop =>
    intro n h hle
    obtain ⟨a, b, ha, hb, rfl⟩ := h.exists_take_drop half
    exact toRat?_add (ihtake ha (by omega)) (ihdrop hb (by omega)) hle

theorem sums_map_finite (ns : List Nat) : Sums (ns.map fun n : Nat => .finite (n : Rat)) ns.sum := by
  induction ns with
  | nil => exact .nil
  | cons n ns ih =>
    rw [List.map_cons, List.sum_cons]
    exact .cons rfl ih

theorem sum_map_finite {ns : List Nat} (hle : ns.sum ≤ 2 ^ 53) :
    sum (ns.map fun n : Nat => .finite (n : Rat)) = .finite (ns.sum : Rat) := by
  cases ns with
  | nil => simp [sum]
  | cons n ns =>
    rw [List.sum_cons] at hle ⊢
    rw [List.map_cons, sum]
    split
    · next hempty =>
      obtain rfl : ns = [] := by simpa using hempty
      simp
    · exact finite_add (Sums.sumHalves _ (sums_map_finite ns) (by omega)) hle

theorem finite_sub {m n : Nat} (hn : n ≤ m) (hm : m ≤ 2 ^ 53) :
    sub (.finite (m : Rat)) (.finite (n : Rat)) = .finite ((m - n : Nat) : Rat) := by
  rw [sub, neg]
  split
  · next hzero =>
    obtain rfl := Nat.cast_eq_zero.1 hzero
    rfl
  · rw [add, ← sub_eq_add_neg, ← Nat.cast_sub hn, ofRat_natCast_of_le (by omega)]

theorem Compensated.add_finite {m n : Nat} (hle : m + n ≤ 2 ^ 53) :
    Compensated.add ⟨.finite (m : Rat), .finite 0⟩ (.finite (n : Rat)) =
      ⟨.finite ((m + n : Nat) : Rat), .finite 0⟩ := by
  have hnone : sub (.finite (n : Rat)) (.finite 0) = .finite (n : Rat) := rfl
  have hsum : Binary64.add (.finite (m : Rat)) (.finite (n : Rat)) = .finite ((m + n : Nat) : Rat) :=
    finite_add rfl hle
  have hback : sub (.finite ((m + n : Nat) : Rat)) (.finite (m : Rat)) = .finite (n : Rat) := by
    rw [finite_sub (Nat.le_add_right m n) hle, Nat.add_sub_cancel_left]
  have hexcess : sub (.finite (n : Rat)) (.finite (n : Rat)) = .finite 0 := by
    rw [finite_sub (Nat.le_refl n) (by omega), Nat.sub_self, Nat.cast_zero]
  unfold Compensated.add
  simp only [hnone, hsum, hback, hexcess, reduceCtorEq, if_false]

theorem foldl_compensated {ns : List Nat} {m : Nat} (hle : m + ns.sum ≤ 2 ^ 53) :
    (ns.map fun n : Nat => Binary64.finite (n : Rat)).foldl Compensated.add
      ⟨.finite (m : Rat), .finite 0⟩ = ⟨.finite ((m + ns.sum : Nat) : Rat), .finite 0⟩ := by
  induction ns generalizing m with
  | nil => rfl
  | cons n ns ih =>
    rw [List.sum_cons, ← Nat.add_assoc] at hle ⊢
    rw [List.map_cons, List.foldl_cons, Compensated.add_finite (by omega), ih hle]

theorem compensatedSum_map_finite {ns : List Nat} (hle : ns.sum ≤ 2 ^ 53) :
    compensatedSum (ns.map fun n : Nat => .finite (n : Rat)) = .finite (ns.sum : Rat) := by
  have hfold := foldl_compensated (m := 0) (by omega : 0 + ns.sum ≤ 2 ^ 53)
  rw [Nat.cast_zero, Nat.zero_add] at hfold
  rw [compensatedSum, hfold]

end Binary64

/-- Either sum of whole numbers is exact as long as it is no more than `2 ^ 53`. -/
theorem Summation.sum_map_ofRat (s : Summation) {ns : List Nat} (hle : ns.sum ≤ 2 ^ 53) :
    s.sum (ns.map fun n : Nat => .ofRat (n : Rat)) = .finite (ns.sum : Rat) := by
  have hamounts : (ns.map fun n : Nat => Binary64.ofRat (n : Rat)) =
      ns.map fun n : Nat => .finite (n : Rat) :=
    List.map_congr_left fun n hn =>
      Binary64.ofRat_natCast_of_le ((List.le_sum_of_mem hn).trans hle)
  rw [hamounts]
  cases s with
  | plain => exact Binary64.sum_map_finite hle
  | compensated => exact Binary64.compensatedSum_map_finite hle

end Vivarium
