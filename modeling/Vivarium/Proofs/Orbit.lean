import Mathlib.Data.Fintype.Pigeonhole

/-! Steps that may stop. One that has not stopped after as many steps as it can tell states apart
never stops. -/
namespace Vivarium

variable {α β : Type}

/-- The state after a number of steps, none if they stop before. -/
def orbit (f : α → Option α) : Nat → α → Option α
  | 0, a => some a
  | n + 1, a => (f a).bind (orbit f n)

theorem orbit_add (f : α → Option α) (m n : Nat) (a : α) :
    orbit f (m + n) a = (orbit f m a).bind (orbit f n) := by
  induction m generalizing a with
  | zero => simp [orbit]
  | succ m ih =>
    rw [Nat.succ_add, orbit, orbit]
    cases f a with
    | none => rfl
    | some b => exact ih b

theorem orbit_isSome_of_le {f : α → Option α} {m n : Nat} {a : α} (hmn : m ≤ n)
    (h : (orbit f n a).isSome) : (orbit f m a).isSome := by
  obtain ⟨k, rfl⟩ := Nat.exists_eq_add_of_le hmn
  rw [orbit_add] at h
  cases hm : orbit f m a with
  | none => simp [hm] at h
  | some b => rfl

/-- From two states that take the same step, one on the way to the other, the way repeats itself. -/
theorem orbit_isSome_of_repeat {f : α → Option α} {a x y : α} {i j : Nat} (hij : i < j)
    (hx : orbit f i a = some x) (hy : orbit f j a = some y) (hf : f x = f y) (n : Nat) :
    (orbit f n a).isSome := by
  induction n using Nat.strong_induction_on with
  | h n ih =>
    by_cases hn : n ≤ j
    · exact orbit_isSome_of_le hn (by simp [hy])
    · -- past the second visit the way is one that leads on from the first, and that one is shorter
      obtain ⟨k, rfl⟩ : ∃ k, n = j + (k + 1) := ⟨n - j - 1, by omega⟩
      have hback := ih (i + (k + 1)) (by omega)
      rw [orbit_add, hx, Option.bind_some, orbit, hf] at hback
      rw [orbit_add, hy, Option.bind_some, orbit]
      exact hback

/-- The step depends on a key alone, and there are fewer keys than states passed. -/
theorem orbit_isSome_of_card [Fintype β] {f : α → Option α} {key : α → β}
    (hkey : ∀ x y, key x = key y → f x = f y) {a : α}
    (h : (orbit f (Fintype.card β) a).isSome) (n : Nat) : (orbit f n a).isSome := by
  have hsome (k : Fin (Fintype.card β + 1)) : (orbit f k a).isSome :=
    orbit_isSome_of_le (Nat.le_of_lt_succ k.isLt) h
  obtain ⟨i, j, hne, hij⟩ := Fintype.exists_ne_map_eq_of_card_lt
    (fun k : Fin (Fintype.card β + 1) => key ((orbit f k a).get (hsome k))) (by simp)
  have hstate (k : Fin (Fintype.card β + 1)) :
      orbit f k a = some ((orbit f k a).get (hsome k)) := (Option.some_get _).symm
  rcases lt_or_gt_of_ne hne with hlt | hlt
  · exact orbit_isSome_of_repeat hlt (hstate i) (hstate j) (hkey _ _ hij) n
  · exact orbit_isSome_of_repeat hlt (hstate j) (hstate i) (hkey _ _ hij.symm) n

end Vivarium
