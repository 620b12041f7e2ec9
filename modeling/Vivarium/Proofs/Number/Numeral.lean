import Mathlib.Data.List.TakeWhile
import Vivarium.Number.Numeral
import Vivarium.Proofs.Number.Rounding

/-! Numerals that are nothing but digits, as whole numbers are written: what they are read as. -/
namespace Vivarium

/-- A text of digits, at least one. -/
structure IsDigits (s : String) : Prop where
  ne_nil : s.toList ≠ []
  isDigit : ∀ c ∈ s.toList, c.isDigit = true

instance : DecidablePred IsDigits := fun s =>
  decidable_of_iff (s.toList ≠ [] ∧ s.toList.all Char.isDigit = true)
    ⟨fun h => ⟨h.1, List.all_eq_true.1 h.2⟩, fun h => ⟨h.1, List.all_eq_true.2 h.2⟩⟩

namespace Numeral

theorem isDigit_iff {c : Char} : c.isDigit = true ↔ 48 ≤ c.toNat ∧ c.toNat ≤ 57 := by
  simp only [Char.isDigit, Bool.and_eq_true, decide_eq_true_eq, ge_iff_le, UInt32.le_iff_toNat_le,
    Char.reduceVal, UInt32.reduceToNat, Char.toNat]

theorem isSpace_of_le {c : Char} (h : 48 ≤ c.toNat) : isSpace c = false := by
  have hne : c ≠ ' ' := by
    rintro rfl
    exact absurd h (by decide)
  simp only [isSpace, decide_eq_false hne, Bool.false_or, Bool.and_eq_false_iff,
    decide_eq_false_iff_not]
  omega

theorem ne_sign_of_le {c : Char} (h : 48 ≤ c.toNat) : c ≠ '-' ∧ c ≠ '+' := by
  constructor <;> rintro rfl <;> exact absurd h (by decide)

theorem isSpace_of_isDigit {c : Char} (h : c.isDigit = true) : isSpace c = false :=
  isSpace_of_le (isDigit_iff.1 h).1

theorem ne_sign_of_isDigit {c : Char} (h : c.isDigit = true) : c ≠ '-' ∧ c ≠ '+' :=
  ne_sign_of_le (isDigit_iff.1 h).1

theorem trim_eq_self {cs : List Char} (h : ∀ c ∈ cs, isSpace c = false) : trim cs = cs := by
  have hdrop {ds : List Char} (hds : ∀ c ∈ ds, isSpace c = false) : ds.dropWhile isSpace = ds := by
    cases ds with
    | nil => rfl
    | cons d ds => simp [hds d List.mem_cons_self]
  rw [trim, hdrop h, hdrop (by simpa using h), List.reverse_reverse]

theorem splitSign_eq_self {cs : List Char} (h : ∀ c ∈ cs, c ≠ '-' ∧ c ≠ '+') :
    splitSign cs = (false, cs) := by
  unfold splitSign
  split
  · exact absurd rfl (h _ List.mem_cons_self).1
  · exact absurd rfl (h _ List.mem_cons_self).2
  · rfl

theorem natDigits?_eq_some {ds : List Char} {n : Nat} (h : natDigits? ds = some n) :
    ds ≠ [] ∧ (∀ c ∈ ds, c.isDigit = true) ∧ n = natOf ds := by
  unfold natDigits? at h
  split at h
  · cases h
  · next hdigits =>
    simp only [Bool.or_eq_true, List.isEmpty_iff, Bool.not_eq_eq_eq_not, Bool.not_true,
      List.all_eq_false, not_or, not_exists, not_and, Bool.not_eq_true,
      Bool.not_eq_false] at hdigits
    exact ⟨hdigits.1, hdigits.2, (Option.some.inj h).symm⟩

theorem natOf_eq_ofDigitChars (ds : List Char) : natOf ds = Nat.ofDigitChars 10 ds 0 := by
  rw [natOf, Nat.ofDigitChars_eq_foldl]
  congr 1
  funext n c
  rw [Nat.mul_comm]
  rfl

theorem natOf_cons (c : Char) (cs : List Char) :
    natOf (c :: cs) = (c.toNat - 48) * 10 ^ cs.length + natOf cs := by
  have hfrom (ds : List Char) (n : Nat) : ds.foldl (fun n c => n * 10 + (c.toNat - 48)) n =
      n * 10 ^ ds.length + ds.foldl (fun n c => n * 10 + (c.toNat - 48)) 0 := by
    induction ds generalizing n with
    | nil => simp
    | cons d ds ih =>
      simp only [List.foldl_cons, List.length_cons]
      rw [ih, ih (0 * 10 + (d.toNat - 48)), Nat.pow_succ]
      ring
  rw [natOf, List.foldl_cons, hfrom, Nat.zero_mul, Nat.zero_add]
  rfl

theorem natOf_lt {ds : List Char} (h : ∀ c ∈ ds, c.isDigit = true) : natOf ds < 10 ^ ds.length := by
  induction ds with
  | nil => decide
  | cons d ds ih =>
    have hd := isDigit_iff.1 (h d List.mem_cons_self)
    have hds := ih fun c hc => h c (List.mem_cons_of_mem _ hc)
    rw [natOf_cons, List.length_cons, Nat.pow_succ]
    calc (d.toNat - 48) * 10 ^ ds.length + natOf ds
        < (d.toNat - 48) * 10 ^ ds.length + 10 ^ ds.length := Nat.add_lt_add_left hds _
      _ = (d.toNat - 48 + 1) * 10 ^ ds.length := (Nat.succ_mul _ _).symm
      _ ≤ 10 * 10 ^ ds.length := Nat.mul_le_mul_right _ (by omega)
      _ = 10 ^ ds.length * 10 := Nat.mul_comm _ _

theorem natOf_dropWhile_zero (ds : List Char) : natOf (ds.dropWhile (· = '0')) = natOf ds := by
  induction ds with
  | nil => rfl
  | cons d ds ih =>
    by_cases hd : d = '0'
    · subst hd
      rw [List.dropWhile_cons_of_pos (by decide), ih, natOf_cons]
      simp
    · rw [List.dropWhile_cons_of_neg (by simpa using hd)]

theorem le_natOf_dropWhile_zero {ds : List Char} (h : ∀ c ∈ ds, c.isDigit = true) {k : Nat}
    (hk : k < (ds.dropWhile (· = '0')).length) : 10 ^ k ≤ natOf ds := by
  rw [← natOf_dropWhile_zero]
  cases hds : ds.dropWhile (· = '0') with
  | nil => simp [hds] at hk
  | cons d rest =>
    rw [hds, List.length_cons] at hk
    have hdigit := isDigit_iff.1 (h d ((List.dropWhile_sublist _).mem (hds ▸ List.mem_cons_self)))
    have hzero : d ≠ '0' := by
      have := List.head?_dropWhile_not (· = '0') ds
      simpa [hds] using this
    have hpos : 1 ≤ d.toNat - 48 := by
      have hne : d.toNat ≠ 48 := fun h => hzero (Char.toNat_inj.1 h)
      omega
    rw [natOf_cons]
    calc 10 ^ k ≤ 1 * 10 ^ rest.length := by
          rw [Nat.one_mul]
          exact Nat.pow_le_pow_right (by decide) (by omega)
      _ ≤ (d.toNat - 48) * 10 ^ rest.length := Nat.mul_le_mul_right _ hpos
      _ ≤ (d.toNat - 48) * 10 ^ rest.length + natOf rest := Nat.le_add_right _ _

/-- Digits without a point are read as the number of the format that is nearest to theirs. -/
theorem value_digits {ds : List Char} (h : ∀ c ∈ ds, c.isDigit = true) :
    value ⟨false, ds, [], 0⟩ = .ofRat (natOf ds : Nat) := by
  unfold value
  simp only [List.append_nil, List.length_nil, Nat.cast_zero, Int.sub_zero, zpow_zero, mul_one,
    Int.add_zero]
  split
  · next hsmall =>
    rcases hsmall with hempty | hlow
    · have hzero : natOf ds = 0 := by
        rw [← natOf_dropWhile_zero, List.isEmpty_iff.1 hempty]
        rfl
      rw [hzero]
      rfl
    · simp only [leastPower] at hlow
      omega
  · split
    · next hgreat =>
      have hlen : 309 < (ds.dropWhile (· = '0')).length := by
        simp only [greatestPower] at hgreat
        omega
      rw [Binary64.ofRat_natCast_of_great (le_natOf_dropWhile_zero h hlen)]
    · rw [natOf_dropWhile_zero]
      rfl

theorem negative_of_ofText? {s : String} {n : Numeral} (h : ofText? s = some n) :
    n.negative = (splitSign (trim s.toList)).1 := by
  unfold ofText? at h
  dsimp only at h
  split at h <;> split_ifs at h <;>
    · obtain ⟨e, -, rfl⟩ := Option.map_eq_some_iff.1 h
      rfl

theorem unsigned_of_binary64? {s : String} {x : Binary64}
    (hsign : (splitSign (trim s.toList)).1 = false) (h : binary64? s = some x) : x.unsigned = x := by
  have hnonneg {q : Rat} (hq : 0 ≤ q) : (Binary64.ofRat q).unsigned = Binary64.ofRat q := by
    unfold Binary64.ofRat
    dsimp only
    split_ifs with _ _ hzero
    · rfl
    · rfl
    · exact absurd hzero.2 (not_lt.2 hq)
    · rfl
  have hvalue {n : Numeral} (hn : n.negative = false) : n.value.unsigned = n.value := by
    unfold value
    simp only [hn, Binary64.ofSigned, Bool.false_eq_true, if_false]
    split_ifs
    · exact hnonneg le_rfl
    · rfl
    · exact hnonneg (by positivity)
  rcases (Option.orElse_eq_some _ _ _).1 h with hnumeral | ⟨-, hinfinite⟩
  · obtain ⟨n, hn, rfl⟩ := Option.map_eq_some_iff.1 hnumeral
    exact hvalue ((negative_of_ofText? hn).trans hsign)
  · unfold infinite? at hinfinite
    dsimp only at hinfinite
    split at hinfinite
    · rw [← Option.some.inj hinfinite]
      rfl
    · cases hinfinite

end Numeral

namespace IsDigits

variable {s : String} (h : IsDigits s)

theorem toString (n : Nat) : IsDigits (toString n) where
  ne_nil := by simp
  isDigit := fun c hc => by
    rw [Nat.toString_eq_repr, Nat.toList_repr] at hc
    exact Nat.isDigit_of_mem_toDigits (by decide) (by decide) hc

theorem natOf_toString (n : Nat) : Numeral.natOf (ToString.toString n).toList = n := by
  rw [Nat.toString_eq_repr, Nat.toList_repr, Numeral.natOf_eq_ofDigitChars,
    Nat.ofDigitChars_toDigits (by decide) (by decide)]

include h

theorem trim_toList : Numeral.trim s.toList = s.toList :=
  Numeral.trim_eq_self fun c hc => Numeral.isSpace_of_isDigit (h.isDigit c hc)

theorem splitSign_toList : Numeral.splitSign s.toList = (false, s.toList) :=
  Numeral.splitSign_eq_self fun c hc => Numeral.ne_sign_of_isDigit (h.isDigit c hc)

theorem whole? : Numeral.whole? s = some (Numeral.natOf s.toList : Int) := by
  have hall : s.toList.all Char.isDigit = true := List.all_eq_true.2 h.isDigit
  have hempty : s.toList.isEmpty = false := List.isEmpty_eq_false_iff.2 h.ne_nil
  simp [Numeral.whole?, Numeral.signedDigits?, h.trim_toList, h.splitSign_toList,
    Numeral.natDigits?, hall, hempty, Numeral.signed]

theorem binary64? : Numeral.binary64? s = some (.ofRat (Numeral.natOf s.toList : Nat)) := by
  have htake : s.toList.takeWhile Char.isDigit = s.toList := List.takeWhile_eq_self_iff.2 h.isDigit
  have hdrop : s.toList.dropWhile Char.isDigit = [] := List.dropWhile_eq_nil_iff.2 h.isDigit
  have hempty : s.toList.isEmpty = false := List.isEmpty_eq_false_iff.2 h.ne_nil
  have htext : Numeral.ofText? s = some ⟨false, s.toList, [], 0⟩ := by
    simp [Numeral.ofText?, h.trim_toList, h.splitSign_toList, htake, hdrop, hempty,
      Numeral.exponent?]
  rw [Numeral.binary64?, htext, Option.map_some, Numeral.value_digits h.isDigit]
  rfl

end IsDigits
end Vivarium
