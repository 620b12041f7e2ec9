import Vivarium.Random.Chance

/-! What can be relied on whatever the generator draws: the bounds of orders and positions. -/
namespace Vivarium.Chance

/-- The settled orders name nobody beyond the first `n` creatures. -/
def Within (c : Chance) (n : Nat) : Prop := ∀ order ∈ c.orders, ∀ id ∈ order, id < n

theorem ofSeed_within (seed : Int) (n : Nat) : (ofSeed seed).Within n := by
  intro order h
  cases h

@[simp] theorem orders_below (c : Chance) (n : Nat) : (c.below n).2.orders = c.orders := by
  unfold below
  split <;> rfl

@[simp] theorem orders_coin (c : Chance) : c.coin.2.orders = c.orders := by
  unfold coin
  split
  · rfl
  · have hb := orders_below c 2
    generalize c.below 2 = b at hb ⊢
    exact hb

private theorem swapIfInBounds_perm {α : Type} (xs : Array α) (i j : Nat) :
    (xs.swapIfInBounds i j).Perm xs := by
  unfold Array.swapIfInBounds
  split
  · split
    · exact Array.swap_perm _ _
    · exact .refl xs
  · exact .refl xs

theorem shuffleFrom_perm {α : Type} (i : Nat) (xs : Array α) (c : Chance) :
    (shuffleFrom i xs c).1.Perm xs := by
  induction i generalizing xs c with
  | zero => exact .refl xs
  | succ i ih =>
    simp only [shuffleFrom]
    exact (ih _ _).trans (swapIfInBounds_perm xs _ _)

theorem orders_shuffleFrom {α : Type} (i : Nat) (xs : Array α) (c : Chance) :
    (shuffleFrom i xs c).2.orders = c.orders := by
  induction i generalizing xs c with
  | zero => rfl
  | succ i ih => simp only [shuffleFrom, ih, orders_below]

theorem shuffle_perm {α : Type} (c : Chance) (xs : List α) : (c.shuffle xs).1.Perm xs := by
  simp only [shuffle]
  exact (shuffleFrom_perm _ xs.toArray c).toList

theorem orders_shuffle {α : Type} (c : Chance) (xs : List α) :
    (c.shuffle xs).2.orders = c.orders := by
  simp only [shuffle, orders_shuffleFrom]

/-- An order names existing creatures only, and leaves settled orders that do so. -/
theorem order_within {c : Chance} {n : Nat} (h : c.Within n) :
    (∀ id ∈ (c.order n).1, id < n) ∧ (c.order n).2.Within n := by
  unfold order
  split
  · next o rest ho =>
    rw [Within, ho] at h
    exact ⟨h o List.mem_cons_self, fun p hp => h p (List.mem_cons_of_mem o hp)⟩
  · refine ⟨fun id hid => ?_, ?_⟩
    · exact List.mem_range.1 ((c.shuffle_perm (List.range n)).mem_iff.1 hid)
    · rw [Within, orders_shuffle]
      exact h

/-- The settled orders name each of the first `n` creatures once. -/
def Fair (c : Chance) (n : Nat) : Prop := ∀ order ∈ c.orders, order.Perm (List.range n)

theorem ofSeed_fair (seed : Int) (n : Nat) : (ofSeed seed).Fair n := by
  intro order h
  cases h

theorem fair_of_isPerm {c : Chance} {n : Nat}
    (h : ∀ order ∈ c.orders, order.isPerm (List.range n) = true) : c.Fair n :=
  fun order ho => List.isPerm_iff.1 (h order ho)

theorem Fair.within {c : Chance} {n : Nat} (h : c.Fair n) : c.Within n :=
  fun order ho _ hid => List.mem_range.1 ((h order ho).mem_iff.1 hid)

/-- An order names each creature once, and leaves settled orders that do so. -/
theorem order_fair {c : Chance} {n : Nat} (h : c.Fair n) :
    (c.order n).1.Perm (List.range n) ∧ (c.order n).2.Fair n := by
  unfold order
  split
  · next o rest ho =>
    rw [Fair, ho] at h
    exact ⟨h o List.mem_cons_self, fun p hp => h p (List.mem_cons_of_mem o hp)⟩
  · refine ⟨c.shuffle_perm _, ?_⟩
    rw [Fair, orders_shuffle]
    exact h

end Vivarium.Chance
