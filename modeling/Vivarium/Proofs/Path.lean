import Mathlib.Data.List.TakeWhile
import Vivarium.Directory

/-!
Paths taken apart: the parts of a path are those of the folder it lies in, and its name.
-/
namespace Vivarium.Path

def split (cs : List Char) : List (List Char) := (cs.splitOn '/').filter (· ≠ [])

theorem parts_eq (path : String) : parts path = (split path.toList).map .ofList := rfl

@[simp] theorem split_nil : split [] = [] := rfl

theorem split_append_cons (xs ys : List Char) : split (xs ++ '/' :: ys) = split xs ++ split ys := by
  have hsplit := List.splitOnP_append_cons (p := fun c => c == '/') xs ys (beq_self_eq_true '/')
  simp only [split, List.splitOn, hsplit, List.filter_append]

theorem split_slashes_append {xs : List Char} (h : ∀ c ∈ xs, c = '/') (ys : List Char) :
    split (xs ++ ys) = split ys := by
  induction xs with
  | nil => rfl
  | cons c cs ih =>
    obtain ⟨rfl, hcs⟩ := List.forall_mem_cons.1 h
    exact (split_append_cons [] (cs ++ ys)).trans (ih hcs)

theorem split_of_no_slash {cs : List Char} (h : '/' ∉ cs) (hne : cs ≠ []) : split cs = [cs] := by
  rw [split, List.splitOn_eq_singleton h, List.filter_cons_of_pos (by simpa using hne)]
  rfl

theorem no_slash_name (path : String) : '/' ∉ (name path).toList := by
  rw [name, String.toList_ofList, List.mem_reverse]
  intro h
  simpa using List.mem_takeWhile_imp h

@[simp] theorem name_empty : name "" = "" := by decide

theorem name_ne_empty {path : String} (hne : path ≠ "") (hopen : endsOpen path = false) :
    name path ≠ "" := by
  intro hname
  rw [name, ← String.toList_inj, String.toList_ofList, String.toList_empty, List.reverse_eq_nil_iff,
    List.takeWhile_eq_nil_iff] at hname
  obtain ⟨cs, c, hcs⟩ := List.eq_nil_or_concat path.toList |>.resolve_left (by simpa using hne)
  have hlast : c ≠ '/' := by simpa [endsOpen, hcs] using hopen
  simp [hcs, hlast] at hname

/-- A path is the folder it lies in, what separates the two, and its name. -/
theorem exists_separator (path : String) : ∃ slashes : List Char, (∀ c ∈ slashes, c = '/') ∧
    path.toList = (parent path).toList ++ slashes ++ (name path).toList ∧
    (slashes = [] → ∀ c ∈ (parent path).toList, c = '/') := by
  have hwhole : path.toList = (path.toList.reverse.dropWhile (· ≠ '/')).reverse ++
      (name path).toList := by
    rw [name, String.toList_ofList, ← List.reverse_append, List.takeWhile_append_dropWhile,
      List.reverse_reverse]
  have hhead := List.head?_dropWhile_not (fun c => decide (c ≠ '/')) path.toList.reverse
  unfold parent
  dsimp only
  generalize path.toList.reverse.dropWhile (fun c => decide (c ≠ '/')) = up at hwhole hhead ⊢
  split
  · next hbare =>
    refine ⟨[], by simp, ?_, fun _ => ?_⟩
    · rw [String.toList_ofList, List.append_nil, hwhole]
    · simpa [List.dropWhile_eq_nil_iff] using hbare
  · next hbare =>
    have hslashes : ∀ c ∈ up.takeWhile (· = '/'), c = '/' := fun c hc => by
      simpa using List.mem_takeWhile_imp hc
    refine ⟨(up.takeWhile (· = '/')).reverse, by simpa using hslashes, ?_, fun hnone => ?_⟩
    · rw [String.toList_ofList, ← List.reverse_append, List.takeWhile_append_dropWhile, hwhole]
    · cases up with
      | nil => exact absurd rfl hbare
      | cons c cs =>
        have hc : c = '/' := by simpa using hhead
        simp [hc] at hnone

theorem parent_append {path rest : String} (h : '/' ∉ rest.toList) :
    parent (path ++ rest) = parent path := by
  have hrest : ∀ c ∈ rest.toList.reverse, decide (c ≠ '/') = true := fun c hc =>
    decide_eq_true fun hslash => h (hslash ▸ List.mem_reverse.1 hc)
  unfold parent
  rw [String.toList_append, List.reverse_append, List.dropWhile_append_of_pos hrest]

theorem exists_eq_append (path : String) : ∃ rest, path = parent path ++ rest := by
  obtain ⟨slashes, -, hwhole, -⟩ := exists_separator path
  refine ⟨.ofList (slashes ++ (name path).toList), String.toList_inj.1 ?_⟩
  rw [String.toList_append, String.toList_ofList, ← List.append_assoc, ← hwhole]

theorem parts_parent (path : String) : parts path =
    parts (parent path) ++ if name path = "" then [] else [name path] := by
  obtain ⟨slashes, hslashes, hwhole, hbare⟩ := exists_separator path
  have hname : split (name path).toList =
      if name path = "" then [] else [(name path).toList] := by
    split
    · next hempty => rw [hempty]; rfl
    · next hne => exact split_of_no_slash (no_slash_name path) (by simpa using hne)
  have hsplit : split path.toList = split (parent path).toList ++ split (name path).toList := by
    rw [hwhole]
    cases slashes with
    | nil =>
      have hparent : split (parent path).toList = [] := by
        simpa using split_slashes_append (hbare rfl) []
      rw [List.append_nil, split_slashes_append (hbare rfl), hparent, List.nil_append]
    | cons c cs =>
      obtain ⟨rfl, hcs⟩ := List.forall_mem_cons.1 hslashes
      rw [List.append_assoc, List.cons_append, split_append_cons, split_slashes_append hcs]
  rw [parts_eq, hsplit, List.map_append, hname, ← parts_eq]
  split <;> simp

theorem start_parent {path : String} (h : parent path ≠ "") : start (parent path) = start path := by
  obtain ⟨rest, hrest⟩ := exists_eq_append path
  have hhead : path.toList.head? = (parent path).toList.head? := by
    rw [congrArg String.toList hrest, String.toList_append, List.head?_append, Option.or_of_isSome]
    simpa using h
  rw [start, start, hhead]

end Vivarium.Path
