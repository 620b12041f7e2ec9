import Mathlib.Data.List.Sort
import Mathlib.Data.Set.List
import Vivarium.Keyed

/-! What a list in ascending order is known by: its members. -/
namespace Vivarium.Ascending

section Map

variable {α β : Type} [DecidableEq α] [DecidableEq β] {f : α → β} (hf : Function.Injective f)
  {before : β → β → Bool}

include hf

theorem insert_map (a : α) (xs : List α) : insert before (f a) (xs.map f) =
    (insert (fun x y => before (f x) (f y)) a xs).map f := by
  induction xs with
  | nil => rfl
  | cons x xs ih =>
    simp only [List.map_cons, insert, hf.eq_iff, ih]
    split_ifs <;> rfl

theorem ofList_map (xs : List α) : ofList before (xs.map f) =
    (ofList (fun x y => before (f x) (f y)) xs).map f := by
  induction xs with
  | nil => rfl
  | cons x xs ih =>
    rw [List.map_cons, ofList, List.foldr_cons, ← ofList, ih, insert_map hf]
    rfl

end Map

section Order

variable {α : Type} [LinearOrder α] [DecidableEq α]

theorem pairwise_insert {xs : List α} (h : xs.Pairwise (· < ·)) (a : α) :
    (insert (fun x y => decide (x < y)) a xs).Pairwise (· < ·) := by
  induction xs with
  | nil => exact List.pairwise_singleton _ _
  | cons x xs ih =>
    obtain ⟨hx, hxs⟩ := List.pairwise_cons.1 h
    simp only [insert, decide_eq_true_eq]
    split_ifs with heq hlt
    · exact h
    · exact .cons (fun y hy => (List.mem_cons.1 hy).elim (· ▸ hlt) fun hy => hlt.trans (hx y hy)) h
    · refine .cons (fun y hy => ?_) (ih hxs)
      rcases (mem_insert _ _ _ _).1 hy with rfl | hy
      · exact lt_of_le_of_ne (not_lt.1 hlt) (Ne.symm heq)
      · exact hx y hy

theorem pairwise_ofList (xs : List α) :
    (ofList (fun x y => decide (x < y)) xs).Pairwise (· < ·) := by
  induction xs with
  | nil => exact .nil
  | cons x xs ih => exact pairwise_insert ih x

theorem ofList_eq {xs ys : List α} (hys : ys.Pairwise (· < ·)) (h : ∀ x, x ∈ xs ↔ x ∈ ys) :
    ofList (fun x y => decide (x < y)) xs = ys :=
  (pairwise_ofList xs).eq_of_mem_iff hys fun x => (mem_ofList _ _ _).trans (h x)

theorem perm_ofList {xs : List α} (h : xs.Nodup) :
    (ofList (fun x y => decide (x < y)) xs).Perm xs :=
  (List.perm_ext_iff_of_nodup (pairwise_ofList xs).nodup h).2 fun _ => mem_ofList _ _ _

end Order

section Linear

variable {β : Type} [DecidableEq β] {before : β → β → Bool} {xs ys : List β}

/-- The order is a linear one, as far as the members of a list go. -/
def IsLinear (before : β → β → Bool) (xs : List β) : Prop :=
  ∃ (α : Type) (_ : LinearOrder α) (f : α → β), Function.Injective f ∧
    (∀ a b, before (f a) (f b) = decide (a < b)) ∧ ∀ x ∈ xs, x ∈ Set.range f

variable (h : IsLinear before xs)

include h

theorem IsLinear.nodup_ofList : (ofList before xs).Nodup := by
  obtain ⟨α, _, f, hf, hbefore, hrange⟩ := h
  obtain ⟨as, rfl⟩ := (Set.range_list_map f).ge hrange
  rw [ofList_map hf]
  simp only [hbefore]
  exact (pairwise_ofList as).nodup.map hf

theorem IsLinear.pairwise_before : (ofList before xs).Pairwise (before · · = true) := by
  obtain ⟨α, _, f, hf, hbefore, hrange⟩ := h
  obtain ⟨as, rfl⟩ := (Set.range_list_map f).ge hrange
  rw [ofList_map hf, List.pairwise_map]
  simp only [hbefore, decide_eq_true_eq]
  exact pairwise_ofList as

theorem IsLinear.ofList_eq (hmem : ∀ x, x ∈ xs ↔ x ∈ ys) : ofList before xs = ofList before ys := by
  obtain ⟨α, _, f, hf, hbefore, hrange⟩ := h
  obtain ⟨bs, rfl⟩ := (Set.range_list_map f).ge fun y hy => hrange y ((hmem y).2 hy)
  obtain ⟨as, rfl⟩ := (Set.range_list_map f).ge hrange
  have hsame (a : α) : a ∈ as ↔ a ∈ bs := by simpa [hf.eq_iff] using hmem (f a)
  rw [ofList_map hf, ofList_map hf]
  simp only [hbefore]
  rw [ofList_eq (pairwise_ofList bs) fun a => (hsame a).trans (mem_ofList _ _ _).symm]

end Linear

theorem IsLinear.mono {β : Type} {before : β → β → Bool} {xs ys : List β} (h : IsLinear before xs)
    (hmem : ∀ y ∈ ys, y ∈ xs) : IsLinear before ys := by
  obtain ⟨α, order, f, hf, hbefore, hrange⟩ := h
  exact ⟨α, order, f, hf, hbefore, fun y hy => hrange y (hmem y hy)⟩

end Vivarium.Ascending
