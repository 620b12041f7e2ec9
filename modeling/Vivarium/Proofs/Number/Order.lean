import Mathlib.Algebra.Order.Ring.Rat
import Mathlib.Order.WithBot
import Vivarium.Number.Numeral

/-!
The order of binary numbers. Whatever is read from a numeral has its place in it, and only the two zeros
share one.
-/
namespace Vivarium

namespace Binary64

theorem ofRat_ne_undefined (q : Rat) : ofRat q ≠ .undefined := by
  unfold ofRat
  dsimp only
  split_ifs <;> simp

theorem neg_ne_undefined {x : Binary64} (h : x ≠ .undefined) : x.neg ≠ .undefined := by
  cases x with
  | finite q =>
    rw [neg]
    split <;> simp
  | negativeZero => simp [neg]
  | infinite => simp [neg]
  | undefined => exact absurd rfl h

theorem ofSigned_ne_undefined (negative : Bool) (q : Rat) : ofSigned negative q ≠ .undefined := by
  unfold ofSigned
  split
  · exact neg_ne_undefined (ofRat_ne_undefined q)
  · exact ofRat_ne_undefined q

/-- The numbers by their places, zero without a sign. -/
def ofPlace : WithBot (WithTop Rat) → Binary64
  | none => .infinite true
  | some none => .infinite false
  | some (some q) => .finite q

@[simp] theorem ofPlace_bot : ofPlace ⊥ = .infinite true := rfl

@[simp] theorem ofPlace_top : ofPlace ⊤ = .infinite false := rfl

@[simp] theorem ofPlace_coe (q : Rat) :
    ofPlace ((q : WithTop Rat) : WithBot (WithTop Rat)) = .finite q := rfl

theorem ofPlace_injective : Function.Injective ofPlace := by
  rintro (_ | _ | p) (_ | _ | q) h <;> cases h <;> rfl

theorem lt_ofPlace (a b : WithBot (WithTop Rat)) : (ofPlace a).lt (ofPlace b) = decide (a < b) := by
  rw [Bool.eq_iff_iff, decide_eq_true_iff]
  induction a using WithBot.recBotCoe with
  | bot =>
    induction b using WithBot.recBotCoe with
    | bot => simp [lt]
    | coe b => induction b using WithTop.recTopCoe <;> simp [lt, WithBot.bot_lt_coe]
  | coe a =>
    induction b using WithBot.recBotCoe with
    | bot => induction a using WithTop.recTopCoe <;> simp [lt]
    | coe b =>
      induction a using WithTop.recTopCoe with
      | top => induction b using WithTop.recTopCoe <;> simp [lt]
      | coe p =>
        induction b using WithTop.recTopCoe with
        | top => exact iff_of_true rfl (WithBot.coe_lt_coe.2 (WithTop.coe_lt_top p))
        | coe q => exact decide_eq_true_iff.trans (WithBot.coe_lt_coe.trans WithTop.coe_lt_coe).symm

theorem exists_place {x : Binary64} (h : x ≠ .undefined) : ∃ a, ofPlace a = x.unsigned := by
  cases x with
  | finite q => exact ⟨some (some q), rfl⟩
  | negativeZero => exact ⟨some (some 0), rfl⟩
  | infinite negative =>
    cases negative
    · exact ⟨⊤, rfl⟩
    · exact ⟨⊥, rfl⟩
  | undefined => exact absurd rfl h

end Binary64

namespace Numeral

theorem value_ne_undefined (n : Numeral) : n.value ≠ .undefined := by
  unfold value
  dsimp only
  split_ifs
  · exact Binary64.ofSigned_ne_undefined _ _
  · simp
  · exact Binary64.ofSigned_ne_undefined _ _

theorem ne_undefined_of_binary64? {s : String} {x : Binary64} (h : binary64? s = some x) :
    x ≠ .undefined := by
  unfold binary64? at h
  rcases (Option.orElse_eq_some _ _ _).1 h with hvalue | ⟨-, hinfinite⟩
  · obtain ⟨n, -, rfl⟩ := Option.map_eq_some_iff.1 hvalue
    exact n.value_ne_undefined
  · unfold infinite? at hinfinite
    dsimp only at hinfinite
    split_ifs at hinfinite
    obtain rfl := Option.some.inj hinfinite
    simp

end Numeral
end Vivarium
