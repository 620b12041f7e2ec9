import Mathlib.Data.List.Induction
import Vivarium.Keyed

/-! What is left of a list of entries when they are put under their keys one after another. -/
namespace Vivarium.Keyed

variable {α β : Type} [DecidableEq α]

theorem put_of_not_mem {k : α} {entries : List (α × β)} (h : k ∉ keys entries) (v : β) :
    put k v entries = entries ++ [(k, v)] := by
  induction entries with
  | nil => rfl
  | cons e rest ih =>
    obtain ⟨a, b⟩ := e
    simp only [keys, List.map_cons, List.mem_cons, not_or] at h
    rw [put, if_neg (Ne.symm h.1), ih h.2, List.cons_append]

theorem erase_of_not_mem {k : α} {entries : List (α × β)} (h : k ∉ keys entries) :
    erase k entries = entries :=
  List.filter_eq_self.2 fun e he => decide_eq_true fun heq => h (List.mem_map.2 ⟨e, he, heq⟩)

theorem put_perm {entries : List (α × β)} (h : (keys entries).Nodup) (k : α) (v : β) :
    (put k v entries).Perm (erase k entries ++ [(k, v)]) := by
  induction entries with
  | nil => exact .refl _
  | cons e rest ih =>
    obtain ⟨a, b⟩ := e
    obtain ⟨ha, hrest⟩ := List.nodup_cons.1 h
    by_cases hak : a = k
    · subst hak
      have herase : erase a ((a, b) :: rest) = rest :=
        (List.filter_cons_of_neg (by simp)).trans (erase_of_not_mem ha)
      rw [put, if_pos rfl, herase]
      exact (List.perm_append_singleton _ _).symm
    · have herase : erase k ((a, b) :: rest) = (a, b) :: erase k rest :=
        List.filter_cons_of_pos (by simpa using hak)
      rw [put, if_neg hak, herase]
      exact (ih hrest).cons _

theorem ofList_concat (entries : List (α × β)) (e : α × β) :
    ofList (entries ++ [e]) = put e.1 e.2 (ofList entries) := by
  simp [ofList]

theorem nodup_ofList (entries : List (α × β)) : (keys (ofList entries)).Nodup := by
  induction entries using List.reverseRecOn with
  | nil => exact .nil
  | append_singleton rest e ih =>
    rw [ofList_concat]
    exact nodup_put ih e.2

theorem ofList_eq_self {entries : List (α × β)} (h : (keys entries).Nodup) :
    ofList entries = entries := by
  induction entries using List.reverseRecOn with
  | nil => rfl
  | append_singleton rest e ih =>
    rw [keys, List.map_append] at h
    obtain ⟨hrest, -, hnew⟩ := List.nodup_append.1 h
    have he : e.1 ∉ keys rest := fun hmem => hnew _ hmem _ List.mem_cons_self rfl
    rw [ofList_concat, ih hrest, put_of_not_mem he]

def lasts : List (α × β) → List (α × β)
  | [] => []
  | e :: rest => if e.1 ∈ keys rest then lasts rest else e :: lasts rest

theorem lasts_concat (entries : List (α × β)) (e : α × β) :
    lasts (entries ++ [e]) = erase e.1 (lasts entries) ++ [e] := by
  induction entries with
  | nil => rfl
  | cons x rest ih =>
    have hkeys : x.1 ∈ keys (rest ++ [e]) ↔ x.1 ∈ keys rest ∨ x.1 = e.1 := by simp [keys]
    simp only [List.cons_append, lasts, hkeys]
    by_cases hx : x.1 ∈ keys rest
    · rw [if_pos (.inl hx), if_pos hx, ih]
    · by_cases hxe : x.1 = e.1
      · rw [if_pos (.inr hxe), if_neg hx, ih]
        simp [erase, hxe]
      · rw [if_neg (by simp [hx, hxe]), if_neg hx, ih]
        simp [erase, hxe]

/-- Of all that was put under a key, the last is what is found there. -/
theorem ofList_perm_lasts (entries : List (α × β)) : (ofList entries).Perm (lasts entries) := by
  induction entries using List.reverseRecOn with
  | nil => exact .nil
  | append_singleton rest e ih =>
    rw [ofList_concat, lasts_concat]
    exact (put_perm (nodup_ofList rest) e.1 e.2).trans ((ih.filter _).append_right [e])

/-- Of entries that come by number, those are the last of their key after which the key does not
come again. -/
theorem lasts_map_range' (f : Nat → α × β) (start n : Nat) :
    lasts ((List.range' start n).map f) =
      ((List.range' start n).filter fun i =>
        ∀ j < start + n, i < j → (f j).1 ≠ (f i).1).map f := by
  induction n generalizing start with
  | zero => rfl
  | succ n ih =>
    have hlast : (f start).1 ∈ keys ((List.range' (start + 1) n).map f) ↔
        ¬ ∀ j < start + (n + 1), start < j → (f j).1 ≠ (f start).1 := by
      simp only [keys, List.map_map, List.mem_map, List.mem_range'_1, Function.comp_apply]
      grind
    have hlen : start + (n + 1) = start + 1 + n := by omega
    rw [List.range'_succ, List.map_cons, lasts, ih]
    by_cases h : ∀ j < start + (n + 1), start < j → (f j).1 ≠ (f start).1
    · rw [if_neg (fun hmem => hlast.1 hmem h), List.filter_cons_of_pos (by simpa using h), hlen,
        List.map_cons]
    · rw [if_pos (hlast.2 h), List.filter_cons_of_neg (by simpa using h), hlen]

theorem mem_of_get? {k : α} {v : β} {entries : List (α × β)} (h : get? k entries = some v) :
    (k, v) ∈ entries := by
  induction entries with
  | nil => cases h
  | cons e rest ih =>
    obtain ⟨a, b⟩ := e
    rw [get?] at h
    split at h
    · next hak =>
      obtain rfl := Option.some.inj h
      exact hak ▸ List.mem_cons_self
    · exact List.mem_cons_of_mem _ (ih h)

theorem firsts_sublist (entries : List (α × β)) : (firsts entries).Sublist entries := by
  induction entries with
  | nil => exact .refl _
  | cons e rest ih => exact (List.filter_sublist.trans ih).cons_cons e

theorem nodup_firsts (entries : List (α × β)) : (keys (firsts entries)).Nodup := by
  induction entries with
  | nil => exact .nil
  | cons e rest ih =>
    refine List.nodup_cons.2 ⟨fun h => ?_, nodup_erase ih e.1⟩
    obtain ⟨x, hx, hkey⟩ := List.mem_map.1 h
    exact of_decide_eq_true (List.mem_filter.1 hx).2 hkey

theorem mem_keys_firsts {k : α} {entries : List (α × β)} :
    k ∈ keys (firsts entries) ↔ k ∈ keys entries := by
  refine ⟨fun h => ((firsts_sublist entries).map _).mem h, fun h => ?_⟩
  induction entries with
  | nil => exact h
  | cons e rest ih =>
    by_cases hk : k = e.1
    · exact hk ▸ List.mem_cons_self
    · obtain ⟨x, hx, rfl⟩ := List.mem_map.1 (ih ((List.mem_cons.1 h).resolve_left hk))
      exact List.mem_cons_of_mem _
        (List.mem_map_of_mem (List.mem_filter.2 ⟨hx, decide_eq_true hk⟩))

theorem firsts_replicate_append {n : Nat} (hn : n ≠ 0) {e : α × β} {rest : List (α × β)}
    (he : e.1 ∉ keys rest) : firsts (List.replicate n e ++ rest) = e :: firsts rest := by
  have hother : (firsts rest).filter (·.1 ≠ e.1) = firsts rest :=
    erase_of_not_mem (mt mem_keys_firsts.1 he)
  induction n with
  | zero => exact absurd rfl hn
  | succ n ih =>
    rw [List.replicate_succ, List.cons_append, firsts]
    by_cases hzero : n = 0
    · subst hzero
      exact congrArg _ hother
    · rw [ih hzero, List.filter_cons_of_neg (by simp), hother]

theorem firsts_flatMap_replicate {γ : Type} {xs : List γ} {n : γ → Nat} {f : γ → α × β}
    (hn : ∀ x ∈ xs, n x ≠ 0) (h : (keys (xs.map f)).Nodup) :
    firsts (xs.flatMap fun x => List.replicate (n x) (f x)) = xs.map f := by
  induction xs with
  | nil => rfl
  | cons x xs ih =>
    obtain ⟨hx, hxs⟩ := List.nodup_cons.1 h
    have hrest : (f x).1 ∉ keys (xs.flatMap fun y => List.replicate (n y) (f y)) := by
      intro hmem
      obtain ⟨e, he, hkey⟩ := List.mem_map.1 hmem
      obtain ⟨y, hy, hye⟩ := List.mem_flatMap.1 he
      obtain rfl := List.eq_of_mem_replicate hye
      exact hx (List.mem_map.2 ⟨f y, List.mem_map_of_mem hy, hkey⟩)
    rw [List.flatMap_cons, firsts_replicate_append (hn x List.mem_cons_self) hrest,
      ih (fun y hy => hn y (List.mem_cons_of_mem _ hy)) hxs, List.map_cons]

end Vivarium.Keyed
