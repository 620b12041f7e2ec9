/-!
Lists without repetition: keyed values in the order in which the keys first came, and elements in
ascending order.
-/
namespace Vivarium

namespace Keyed

variable {α β : Type} [DecidableEq α]

/-- A key that is present keeps its place; a new one goes to the end. -/
def put (k : α) (v : β) : List (α × β) → List (α × β)
  | [] => [(k, v)]
  | (k', v') :: rest => if k' = k then (k, v) :: rest else (k', v') :: put k v rest

def erase (k : α) (entries : List (α × β)) : List (α × β) :=
  entries.filter (·.1 ≠ k)

def ofList (entries : List (α × β)) : List (α × β) :=
  entries.foldl (fun acc e => put e.1 e.2 acc) []

def get? (k : α) : List (α × β) → Option β
  | [] => none
  | (k', v) :: rest => if k' = k then some v else get? k rest

def firsts : List (α × β) → List (α × β)
  | [] => []
  | e :: rest => e :: (firsts rest).filter (·.1 ≠ e.1)

theorem get?_put (k k' : α) (v : β) (entries : List (α × β)) :
    get? k' (put k v entries) = if k = k' then some v else get? k' entries := by
  induction entries with
  | nil => simp [put, get?]
  | cons e rest ih =>
    obtain ⟨a, b⟩ := e
    by_cases h : a = k
    · subst h
      by_cases h' : a = k' <;> simp [put, get?, h']
    · by_cases h' : a = k'
      · subst h'
        simp [put, get?, h, Ne.symm h]
      · simp [put, get?, h, h', ih]

theorem get?_erase (k k' : α) (entries : List (α × β)) :
    get? k' (erase k entries) = if k = k' then none else get? k' entries := by
  induction entries with
  | nil => simp [erase, get?]
  | cons e rest ih =>
    obtain ⟨a, b⟩ := e
    simp only [erase] at ih
    by_cases h : a = k
    · subst h
      by_cases h' : a = k' <;> simp_all [erase, get?]
    · by_cases h' : a = k'
      · subst h'
        simp [erase, get?, h, Ne.symm h]
      · simp_all [erase, get?]

def keys (entries : List (α × β)) : List α := entries.map (·.1)

theorem mem_keys {k : α} {entries : List (α × β)} : k ∈ keys entries ↔ (get? k entries).isSome := by
  induction entries with
  | nil => simp [keys, get?]
  | cons e rest ih =>
    obtain ⟨a, b⟩ := e
    by_cases h : a = k
    · simp [keys, get?, h]
    · simpa [keys, get?, h, Ne.symm h] using ih

theorem keys_put (k : α) (v : β) (entries : List (α × β)) :
    keys (put k v entries) = if k ∈ keys entries then keys entries else keys entries ++ [k] := by
  induction entries with
  | nil => simp [keys, put]
  | cons e rest ih =>
    obtain ⟨a, b⟩ := e
    simp only [keys] at ih
    by_cases h : a = k
    · simp [keys, put, h]
    · by_cases hk : k ∈ rest.map (·.1) <;> simp_all [keys, put, Ne.symm h]

theorem nodup_put {k : α} {entries : List (α × β)} (h : (keys entries).Nodup) (v : β) :
    (keys (put k v entries)).Nodup := by
  rw [keys_put]
  split
  · exact h
  · next hk => exact List.nodup_append.2 ⟨h, by simp, by grind⟩

theorem nodup_erase {entries : List (α × β)} (h : (keys entries).Nodup) (k : α) :
    (keys (erase k entries)).Nodup :=
  h.sublist (List.filter_sublist.map _)

end Keyed

namespace Ascending

variable {α : Type} [DecidableEq α]

def insert (before : α → α → Bool) (a : α) : List α → List α
  | [] => [a]
  | b :: bs =>
    if a = b then b :: bs
    else if before a b then a :: b :: bs
    else b :: insert before a bs

def ofList (before : α → α → Bool) (xs : List α) : List α := xs.foldr (insert before) []

theorem mem_insert (before : α → α → Bool) (a x : α) (xs : List α) :
    x ∈ insert before a xs ↔ x = a ∨ x ∈ xs := by
  induction xs with
  | nil => simp [insert]
  | cons b bs ih => grind [insert]

theorem mem_ofList (before : α → α → Bool) (x : α) (xs : List α) :
    x ∈ ofList before xs ↔ x ∈ xs := by
  induction xs with
  | nil => simp [ofList]
  | cons a xs ih => simp_all [ofList, mem_insert]

end Ascending
end Vivarium
