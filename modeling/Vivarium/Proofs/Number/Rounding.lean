import Mathlib.Algebra.Order.Field.Power
import Mathlib.Data.Rat.Floor
import Mathlib.Tactic.Ring
import Vivarium.Number.Binary64

/-!
Whole numbers in the binary format. The nearest number of the format to a whole number is whole; it is
the number itself up to `2 ^ 53`, and beyond the greatest power of two it is infinite.
-/
namespace Vivarium.Binary64

theorem roundEven_bounds (q : Rat) : q.floor ≤ roundEven q ∧ roundEven q ≤ q.floor + 1 := by
  unfold roundEven
  dsimp only
  split_ifs <;> omega

theorem exponent_natCast {n : Nat} (hn : n ≠ 0) : exponent (n : Rat) = n.log2 := by
  have hle : (2 : Rat) ^ (n.log2 : Int) * (1 : Nat) ≤ (n : Rat) := by
    rw [zpow_natCast, Nat.cast_one, mul_one]
    exact_mod_cast Nat.log2_self_le hn
  have hsub : (n.log2 : Int) - (1 : Nat).log2 = n.log2 := by
    rw [show (1 : Nat).log2 = 0 by decide]
    exact Int.sub_zero _
  unfold exponent
  simp only [Rat.num_natCast, Rat.den_natCast, Int.natAbs_natCast, hsub]
  exact if_pos hle

theorem unit_natCast {n : Nat} (hn : n ≠ 0) : unit (n : Rat) = 2 ^ ((n.log2 : Int) - 52) := by
  rw [unit, exponent_natCast hn, max_eq_left (by omega)]

theorem round_mul_two_pow {m : Nat} (hm : m < 2 ^ 53) (k : Nat) :
    round ((m * 2 ^ k : Nat) : Rat) = (m * 2 ^ k : Nat) := by
  by_cases hn : m * 2 ^ k = 0
  · rw [hn]
    exact round_zero
  · have hlog : (m * 2 ^ k).log2 ≤ 52 + k := by
      have hlt : m * 2 ^ k < 2 ^ (53 + k) := by
        rw [Nat.pow_add]
        exact Nat.mul_lt_mul_of_pos_right hm (Nat.two_pow_pos k)
      have := (Nat.log2_lt hn).2 hlt
      omega
    generalize hn' : m * 2 ^ k = n at hn hlog
    have hunit := unit_natCast hn
    have hpos : (0 : Rat) < 2 ^ ((n.log2 : Int) - 52) := by positivity
    -- the last place is no place behind the last bit
    obtain ⟨j, hj⟩ : ∃ j : Nat, (k : Int) = ((n.log2 : Int) - 52) + j :=
      ⟨(k - ((n.log2 : Int) - 52)).toNat, by omega⟩
    have hquotient : (n : Rat) / unit n = ((m * 2 ^ j : Nat) : Int) := by
      have hcast : (n : Rat) = m * 2 ^ (k : Int) := by
        rw [← hn', zpow_natCast]
        push_cast
        rfl
      rw [hunit, div_eq_iff hpos.ne', hcast, hj, zpow_add₀ (by norm_num), zpow_natCast]
      push_cast
      ring
    rw [round, hquotient, roundEven_intCast, ← hquotient, div_mul_cancel₀ _ (hunit ▸ hpos.ne')]

/-- A whole number with more bits keeps the first 53 of them, or the number that follows these. -/
theorem exists_round_natCast {n : Nat} (hn : 2 ^ 52 ≤ n) :
    ∃ m, 2 ^ 52 ≤ m ∧ m ≤ 2 ^ 53 ∧ round (n : Rat) = (m * 2 ^ (n.log2 - 52) : Nat) := by
  have hn0 : n ≠ 0 := by omega
  have hlog : 52 ≤ n.log2 := (Nat.le_log2 hn0).2 hn
  have hunit : unit (n : Rat) = (2 ^ (n.log2 - 52) : Nat) := by
    rw [unit_natCast hn0, show (n.log2 : Int) - 52 = (n.log2 - 52 : Nat) by omega, zpow_natCast]
    push_cast
    rfl
  have hfloor : ((n : Rat) / unit n).floor = (n / 2 ^ (n.log2 - 52) : Nat) := by
    rw [hunit]
    exact Rat.floor_natCast_div_natCast _ _
  have hpos : 0 < 2 ^ (n.log2 - 52) := Nat.two_pow_pos _
  have hlo : 2 ^ 52 ≤ n / 2 ^ (n.log2 - 52) := by
    rw [Nat.le_div_iff_mul_le hpos, ← Nat.pow_add, Nat.add_sub_cancel' hlog]
    exact Nat.log2_self_le hn0
  have hhi : n / 2 ^ (n.log2 - 52) < 2 ^ 53 := by
    rw [Nat.div_lt_iff_lt_mul hpos, ← Nat.pow_add]
    have hlt := Nat.lt_log2_self (n := n)
    rwa [show 53 + (n.log2 - 52) = n.log2 + 1 by omega]
  obtain ⟨hle, hge⟩ := roundEven_bounds ((n : Rat) / unit n)
  rw [hfloor] at hle hge
  obtain ⟨m, hm⟩ := Int.eq_ofNat_of_zero_le (Int.le_trans (Int.natCast_nonneg _) hle)
  refine ⟨m, by omega, by omega, ?_⟩
  rw [round, hm, hunit]
  push_cast
  rfl

/-- Rounding goes no further once it has been done. -/
theorem round_round_natCast (n : Nat) : round (round (n : Rat)) = round (n : Rat) := by
  have hsmall {m : Nat} (hm : m < 2 ^ 53) : round (m : Rat) = m := by
    simpa using round_mul_two_pow hm 0
  by_cases hn : n < 2 ^ 53
  · rw [hsmall hn, hsmall hn]
  · obtain ⟨m, -, hm, hround⟩ := exists_round_natCast (n := n) (by omega)
    rw [hround]
    rcases Nat.lt_or_eq_of_le hm with hlt | rfl
    · exact round_mul_two_pow hlt _
    · -- the bit that is carried is the only one
      rw [show 2 ^ 53 * 2 ^ (n.log2 - 52) = 1 * 2 ^ (53 + (n.log2 - 52)) by
        rw [one_mul, Nat.pow_add]]
      exact round_mul_two_pow (by norm_num) _

theorem unit_pos (q : Rat) : 0 < unit q := zpow_pos two_pos _

theorem round_nonneg {q : Rat} (hq : 0 ≤ q) : 0 ≤ round q := by
  have hquotient : 0 ≤ q / unit q := div_nonneg hq (unit_pos q).le
  have hfloor : 0 ≤ (q / unit q).floor := Rat.le_floor_iff.2 (by simpa using hquotient)
  have hwhole : 0 ≤ roundEven (q / unit q) := hfloor.trans (roundEven_bounds _).1
  exact mul_nonneg (by exact_mod_cast hwhole) (unit_pos q).le

theorem limit_pos : 0 < limit := by
  unfold limit
  positivity

/-- Nothing that is not negative is rounded to less than zero, or to a zero with a sign. -/
theorem ofRat_of_nonneg {q : Rat} (hq : 0 ≤ q) : ofRat q =
    if limit ≤ round q then .infinite false else .finite (round q) := by
  have hlow : ¬ round q ≤ -limit :=
    not_le.2 ((neg_neg_of_pos limit_pos).trans_le (round_nonneg hq))
  unfold ofRat
  dsimp only
  rw [if_neg hlow, if_neg fun h : round q = 0 ∧ q < 0 => absurd h.2 (not_lt.2 hq)]

theorem ofRat_natCast (n : Nat) : ofRat (n : Rat) =
    if limit ≤ round (n : Rat) then .infinite false else .finite (round (n : Rat)) :=
  ofRat_of_nonneg (Nat.cast_nonneg n)

/-- A whole number up to `2 ^ 53` is a number of the format. -/
theorem ofRat_natCast_of_le {n : Nat} (hn : n ≤ 2 ^ 53) : ofRat (n : Rat) = .finite n := by
  have hround : round (n : Rat) = n := by
    rcases Nat.lt_or_eq_of_le hn with hlt | rfl
    · simpa using round_mul_two_pow hlt 0
    · simpa using round_mul_two_pow (m := 1) (by norm_num) 53
  have hlimit : (n : Rat) < limit :=
    calc (n : Rat) ≤ 2 ^ 53 := by exact_mod_cast hn
      _ < limit := pow_lt_pow_right₀ one_lt_two (by norm_num)
  rw [ofRat_natCast, hround, if_neg (not_le.2 hlimit)]

theorem ofRat_natCast_of_great {n : Nat} (hn : 10 ^ 309 ≤ n) : ofRat (n : Rat) = .infinite false := by
  have hn0 : n ≠ 0 := by
    rintro rfl
    exact absurd hn (by norm_num)
  have hlog : 1024 ≤ n.log2 := by
    rw [Nat.le_log2 hn0]
    exact Nat.le_trans (by decide +kernel) hn
  obtain ⟨m, hm, -, hround⟩ := exists_round_natCast (n := n)
    (Nat.le_trans (Nat.pow_le_pow_right two_pos (by omega)) (Nat.log2_self_le hn0))
  have hlimit : limit ≤ round (n : Rat) :=
    calc limit ≤ 2 ^ n.log2 := pow_le_pow_right₀ one_le_two hlog
      _ = 2 ^ 52 * 2 ^ (n.log2 - 52) := by rw [← pow_add, Nat.add_sub_cancel' (by omega)]
      _ ≤ (m * 2 ^ (n.log2 - 52) : Nat) := by exact_mod_cast Nat.mul_le_mul_right _ hm
      _ = round (n : Rat) := hround.symm
  rw [ofRat_natCast, if_pos hlimit]

theorem divNat_one_ofRat_natCast (n : Nat) : (ofRat (n : Rat)).divNat 1 = ofRat (n : Rat) := by
  rw [ofRat_natCast]
  split
  · rfl
  · next hlimit =>
    rw [divNat, Nat.cast_one, div_one, ofRat_of_nonneg (round_nonneg (Nat.cast_nonneg n)),
      round_round_natCast, if_neg hlimit]

theorem ofRat_natCast_ne_undefined (n : Nat) : ofRat (n : Rat) ≠ .undefined := by
  rw [ofRat_natCast]
  split <;> simp

end Vivarium.Binary64
