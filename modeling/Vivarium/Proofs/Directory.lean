import Vivarium.Directory

/-! What the operations of a directory leave of its files. -/
namespace Vivarium.Directory

theorem enter_eq_ok {d : Directory} {path part : String} {p q : List String}
    (h : d.enter path p part = .ok q) : q = Path.step p part := by
  unfold enter at h
  split at h
  · cases h
  · split at h
    · cases h
    · exact (Except.ok.inj h).symm

theorem enter_of_isFolder {d e : Directory} {path other part : String} {p q : List String}
    (hfolder : d.isFolder p = true → e.isFolder p = true) (h : d.enter path p part = .ok q) :
    e.enter other p part = .ok q := by
  unfold enter at h ⊢
  by_cases hp : d.isFolder p = true
  · simp only [hp, hfolder hp, Bool.not_true, Bool.false_eq_true, if_false] at h ⊢
    split at h
    · cases h
    · next hshort => rw [if_neg hshort, h]
  · simp [hp] at h

theorem isFolder_of_enter {d : Directory} {path part : String} {p q : List String}
    (h : d.enter path p part = .ok q) : d.isFolder p = true := by
  cases hp : d.isFolder p with
  | true => rfl
  | false => simp [enter, hp] at h

theorem foldlM_enter_of_isFolder {d e : Directory} {path other : String} {parts p q : List String}
    (hfolder : ∀ r, d.isFolder r = true → e.isFolder r = true)
    (h : parts.foldlM (d.enter path) p = .ok q) : parts.foldlM (e.enter other) p = .ok q := by
  induction parts generalizing p with
  | nil => exact h
  | cons part parts ih =>
    rw [List.foldlM_cons] at h ⊢
    cases hstep : d.enter path p part with
    | error f => simp [hstep, bind, Except.bind] at h
    | ok r =>
      rw [hstep] at h
      rw [enter_of_isFolder (hfolder p) hstep]
      exact ih h

theorem foldlM_enter_eq_ok {d : Directory} {path : String} {parts p q : List String}
    (h : parts.foldlM (d.enter path) p = .ok q) : q = parts.foldl Path.step p := by
  induction parts generalizing p with
  | nil => exact (Except.ok.inj h).symm
  | cons part parts ih =>
    rw [List.foldlM_cons] at h
    cases he : d.enter path p part with
    | error f => simp [he, bind, Except.bind] at h
    | ok r =>
      obtain rfl := enter_eq_ok he
      exact ih (by simpa [he, bind, Except.bind] using h)

/-- A path can be walked if it is fit to be one and every folder on the way is there. -/
theorem locate_eq_ok_iff {d : Directory} {path : String} {p : List String} :
    d.locate path = .ok p ↔ '\x00' ∉ path.toList ∧ path ≠ "" ∧
      path.utf8ByteSize ≤ Path.maxPath ∧
      (Path.parts path).foldlM (d.enter path) (Path.start path) = .ok p := by
  unfold locate
  by_cases hnull : '\x00' ∈ path.toList
  · simp [hnull]
  · by_cases hempty : path = ""
    · simp [hempty]
    · by_cases hlong : Path.maxPath < path.utf8ByteSize
      · simp [hnull, hempty, hlong, Nat.not_le.2 hlong]
      · simp [hnull, hempty, hlong, Nat.not_lt.1 hlong]

theorem locate_eq_ok {d : Directory} {path : String} {p : List String}
    (h : d.locate path = .ok p) : p = Path.components path :=
  foldlM_enter_eq_ok (locate_eq_ok_iff.1 h).2.2.2

section NullCharacter

variable {d : Directory} {path : String}

theorem foldlM_enter_ne_nullCharacter (parts p : List String) :
    parts.foldlM (d.enter path) p ≠ .error .nullCharacter := by
  induction parts generalizing p with
  | nil => simp [pure, Except.pure]
  | cons part parts ih =>
    rw [List.foldlM_cons]
    cases he : d.enter path p part with
    | ok q => exact ih q
    | error f =>
      rintro h
      obtain rfl : f = .nullCharacter := Except.error.inj h
      unfold enter at he
      split at he
      · split at he <;> cases he
      · split at he <;> cases he

theorem nul_mem_of_locate (h : d.locate path = .error .nullCharacter) : '\x00' ∈ path.toList := by
  unfold locate at h
  split at h
  · assumption
  · split at h
    · cases h
    · split at h
      · cases h
      · exact absurd h (foldlM_enter_ne_nullCharacter _ _)

theorem nul_mem_of_read (h : d.read path = .error .nullCharacter) : '\x00' ∈ path.toList := by
  cases hp : d.locate path with
  | error f =>
    simp only [read, hp, bind, Except.bind, Except.error.injEq] at h
    exact nul_mem_of_locate (h ▸ hp)
  | ok p =>
    simp only [read, hp, bind, Except.bind] at h
    cases hf : d.file? p with
    | none =>
      simp only [hf] at h
      split at h <;> cases h
    | some content =>
      simp only [hf] at h
      split at h
      · cases h
      · cases content <;> cases h

end NullCharacter

theorem file?_congr {d e : Directory} (h : d.files = e.files) (p : List String) :
    d.file? p = e.file? p := by
  rw [file?, file?, h]

theorem files_ensureInside (d : Directory) (path : String) :
    (d.ensureInside path).1.files = d.files := by
  unfold ensureInside makeInside
  cases d.locate path with
  | error f => rfl
  | ok p =>
    simp only [bind, Except.bind]
    split
    · next hmade =>
      split at hmade
      · cases hmade
      · obtain rfl := Except.ok.inj hmade
        rfl
    · rfl

theorem files_makeLevels (levels : Nat) (d : Directory) (path : String) :
    (makeLevels levels d path).1.files = d.files := by
  induction levels generalizing d path with
  | zero => exact d.files_ensureInside path
  | succ levels ih =>
    unfold makeLevels
    extract_lets bare above
    split
    · exact d.files_ensureInside path
    · have habove := ih d above
      generalize makeLevels levels d above = made at habove ⊢
      obtain ⟨e, r⟩ := made
      have hrest : (if Path.name bare = "." then (e, Except.ok ()) else e.ensureInside path).1.files =
          d.files := by
        split
        · exact habove
        · exact (e.files_ensureInside path).trans habove
      split
      · next hmade =>
        obtain ⟨rfl, rfl⟩ := Prod.mk.inj hmade
        exact hrest
      · next hmade =>
        obtain ⟨rfl, rfl⟩ := Prod.mk.inj hmade
        exact hrest
      · next hmade =>
        obtain ⟨rfl, rfl⟩ := Prod.mk.inj hmade
        exact habove

theorem files_makeParent (d : Directory) (path : String) : (d.makeParent path).1.files = d.files := by
  unfold makeParent
  extract_lets parent
  split
  · rfl
  · rw [makeFolder]
    exact files_makeLevels parent.length d parent

/-- A folder is known by the places of the files. -/
theorem isFolder_eq (d : Directory) (p : List String) : d.isFolder p =
    (p.all (· = Path.above) || p = [Path.root] || d.folders.any (p.isPrefixOf ·) ||
      (Keyed.keys d.files).any fun q => p.isPrefixOf q && p ≠ q) := by
  rw [isFolder, Keyed.keys, List.any_map]
  rfl

theorem isFolder_put {d : Directory} {p : List String} (h : d.isFolder p = true) (q : List String)
    (content : Content) : isFolder { d with files := Keyed.put q content d.files } p = true := by
  rw [isFolder_eq, Bool.or_eq_true] at h ⊢
  refine h.imp_right fun hfiles => ?_
  rw [Keyed.keys_put]
  split
  · exact hfiles
  · rw [List.any_append, hfiles, Bool.true_or]

theorem isFolder_put_self (d : Directory) (p : List String) (content : Content) :
    isFolder { d with files := Keyed.put p content d.files } p = d.isFolder p := by
  rw [isFolder_eq, isFolder_eq, Keyed.keys_put]
  split
  · rfl
  · simp

section Write

variable {d e : Directory} {path : String} {content : Content}

/-- A file can be put where a path leads, unless a folder is there or the path asks for one. -/
theorem write_eq_ok_iff : d.write path content = .ok e ↔
    d.locate path = .ok (Path.components path) ∧ d.isFolder (Path.components path) = false ∧
      Path.endsOpen path = false ∧
      e = { d with files := Keyed.put (Path.components path) content d.files } := by
  unfold write
  cases hl : d.locate path with
  | error f => simp [bind, Except.bind]
  | ok p =>
    obtain rfl := locate_eq_ok hl
    simp only [bind, Except.bind, true_and]
    split <;> grind

theorem write_eq_ok (h : d.write path content = .ok e) :
    d.content? path = d.file? (Path.components path) ∧
      ∀ p, e.file? p = if Path.components path = p then some content else d.file? p := by
  obtain ⟨hl, -, hopen, rfl⟩ := write_eq_ok_iff.1 h
  refine ⟨by simp [content?, hl, hopen], fun p => ?_⟩
  simp only [file?, Keyed.get?_put]

theorem locate_of_write (h : d.write path content = .ok e) :
    e.locate path = .ok (Path.components path) := by
  obtain ⟨hl, -, -, rfl⟩ := write_eq_ok_iff.1 h
  obtain ⟨hnull, hempty, hshort, hfold⟩ := locate_eq_ok_iff.1 hl
  exact locate_eq_ok_iff.2 ⟨hnull, hempty, hshort,
    foldlM_enter_of_isFolder (fun _ hr => isFolder_put hr _ _) hfold⟩

theorem read_of_write {b : ByteArray} (h : d.write path (.bytes b) = .ok e) :
    e.contains path ∧ e.read path = .ok b := by
  have hfile := (write_eq_ok h).2 (Path.components path)
  rw [if_pos rfl] at hfile
  obtain ⟨-, -, hopen, -⟩ := write_eq_ok_iff.1 h
  have hlocate := locate_of_write h
  constructor
  · simp [contains, content?, hlocate, hopen, hfile]
  · simp [read, hlocate, hopen, hfile, bind, Except.bind]

end Write

end Vivarium.Directory
