import Mathlib.Control.Monad.Basic
import Vivarium.Proofs.Keyed
import Vivarium.Proofs.Ledger
import Vivarium.Proofs.Path

/-!
What can be written once can be written again. Whether a path can be used depends on where there are
files and folders only, not on what the files hold.
-/
namespace Vivarium

namespace Directory

/-- There are files and folders in the same places. -/
structure Alike (d e : Directory) : Prop where
  folders : d.folders = e.folders
  files : Keyed.keys d.files = Keyed.keys e.files

namespace Alike

variable {d e f : Directory}

theorem refl (d : Directory) : Alike d d := ⟨rfl, rfl⟩

theorem trans (h : Alike d e) (h' : Alike e f) : Alike d f :=
  ⟨h.folders.trans h'.folders, h.files.trans h'.files⟩

theorem put {p : List String} (hp : (d.file? p).isSome = true) (content : Content) :
    Alike d { d with files := Keyed.put p content d.files } :=
  ⟨rfl, by rw [Keyed.keys_put, if_pos (Keyed.mem_keys.2 hp)]⟩

variable (h : Alike d e)

include h

theorem isFolder (p : List String) : d.isFolder p = e.isFolder p := by
  rw [isFolder_eq, isFolder_eq, h.folders, h.files]

theorem isSome_file? (p : List String) : (d.file? p).isSome = (e.file? p).isSome := by
  rw [Bool.eq_iff_iff, file?, file?, ← Keyed.mem_keys, ← Keyed.mem_keys, h.files]

theorem locate (path : String) : d.locate path = e.locate path := by
  have henter : d.enter path = e.enter path := by
    funext p part
    simp only [enter, h.isFolder, h.isSome_file?]
  simp only [Directory.locate, henter]

theorem hasFolder (path : String) : d.hasFolder path = e.hasFolder path := by
  simp only [Directory.hasFolder, h.locate, h.isFolder]

theorem contains (path : String) : d.contains path = e.contains path := by
  have hcontent : (d.content? path).isSome = (e.content? path).isSome := by
    unfold content?
    rw [h.locate]
    cases e.locate path with
    | error f => rfl
    | ok p => cases Path.endsOpen path <;> simp [h.isSome_file?]
  rw [Directory.contains, Directory.contains, h.hasFolder, hcontent]

theorem ensureInside (path : String) : (d.ensureInside path).2 = (e.ensureInside path).2 ∧
    Alike (d.ensureInside path).1 (e.ensureInside path).1 := by
  unfold Directory.ensureInside makeInside
  rw [h.locate, h.hasFolder]
  cases e.locate path with
  | error f => exact ⟨rfl, h⟩
  | ok p =>
    simp only [bind, Except.bind, h.isFolder, h.isSome_file?]
    by_cases htaken : e.isFolder p = true ∨ (e.file? p).isSome = true
    · simp only [if_pos htaken]
      exact ⟨trivial, h⟩
    · simp only [if_neg htaken]
      exact ⟨trivial, congrArg (· ++ [p]) h.folders, h.files⟩

theorem makeLevels (levels : Nat) (path : String) :
    (makeLevels levels d path).2 = (makeLevels levels e path).2 ∧
      Alike (makeLevels levels d path).1 (makeLevels levels e path).1 := by
  induction levels generalizing path with
  | zero => exact h.ensureInside path
  | succ levels ih =>
    unfold Directory.makeLevels
    extract_lets bare above
    rw [h.contains]
    split
    · exact h.ensureInside path
    · obtain ⟨hresult, halike⟩ := ih above
      generalize Directory.makeLevels levels d above = made at hresult halike
      generalize Directory.makeLevels levels e above = made' at hresult halike
      obtain ⟨d', r⟩ := made
      obtain ⟨e', r'⟩ := made'
      dsimp only at hresult halike
      subst hresult
      have hrest : (if Path.name bare = "." then (d', Except.ok ()) else d'.ensureInside path).2 =
          (if Path.name bare = "." then (e', Except.ok ()) else e'.ensureInside path).2 ∧
          Alike (if Path.name bare = "." then (d', Except.ok ()) else d'.ensureInside path).1
            (if Path.name bare = "." then (e', Except.ok ()) else e'.ensureInside path).1 := by
        split
        · exact ⟨rfl, halike⟩
        · exact halike.ensureInside path
      cases r with
      | ok u => exact hrest
      | error f =>
        cases f with
        | occupied p => exact hrest
        | _ => exact ⟨rfl, halike⟩

theorem makeParent (path : String) : (d.makeParent path).2 = (e.makeParent path).2 ∧
    Alike (d.makeParent path).1 (e.makeParent path).1 := by
  unfold Directory.makeParent
  extract_lets parent
  split
  · exact ⟨rfl, h⟩
  · exact h.makeLevels _ _

theorem write {path : String} {content : Content} (hw : d.write path content = .ok f)
    (content' : Content) : ∃ g, e.write path content' = .ok g ∧ Alike f g := by
  unfold Directory.write at hw ⊢
  rw [h.locate] at hw
  cases hl : e.locate path with
  | error f => simp [hl, bind, Except.bind] at hw
  | ok p =>
    simp only [hl, bind, Except.bind, h.isFolder] at hw ⊢
    split at hw
    · cases hw
    · next hfree =>
      obtain rfl := Except.ok.inj hw
      exact ⟨_, if_neg hfree, h.folders, by rw [Keyed.keys_put, Keyed.keys_put, h.files]⟩

end Alike

/-- A file can be put where a path leads, once the folder for it is made. -/
def Writable (d : Directory) (path : String) : Prop :=
  ∃ d' e, d.makeParent path = (d', .ok ()) ∧ d'.write path (.bytes .empty) = .ok e

theorem Writable.write {d : Directory} {path : String} (h : d.Writable path) :
    ∃ d', d.makeParent path = (d', .ok ()) ∧ ∀ content, ∃ e, d'.write path content = .ok e := by
  obtain ⟨d', e, hmade, hw⟩ := h
  refine ⟨d', hmade, fun content => ?_⟩
  obtain ⟨f, hf, -⟩ := (Alike.refl d').write hw content
  exact ⟨f, hf⟩

theorem Alike.writable {d e : Directory} {path : String} (halike : Alike d e)
    (h : d.Writable path) : e.Writable path := by
  obtain ⟨d', f, hmade, hw⟩ := h
  obtain ⟨hresult, hparent⟩ := halike.makeParent path
  rw [hmade] at hresult hparent
  obtain ⟨g, hg, -⟩ := hparent.write hw (.bytes .empty)
  exact ⟨_, g, Prod.ext rfl hresult.symm, hg⟩

theorem Writable.ne_empty {d : Directory} {path : String} (h : d.Writable path) : path ≠ "" := by
  obtain ⟨d', e, -, hw⟩ := h
  exact (locate_eq_ok_iff.1 (write_eq_ok_iff.1 hw).1).2.1

section Parent

variable {d e : Directory} {path : String}

/-- On the way of a path is that of the folder it lies in. -/
theorem locate_parent {p : List String} (h : d.locate path = .ok p) (hparent : Path.parent path ≠ "") :
    ∃ q, d.locate (Path.parent path) = .ok q ∧
      (if Path.name path = "" then [] else [Path.name path]).foldlM (d.enter path) q = .ok p := by
  obtain ⟨hnull, -, hshort, hfold⟩ := locate_eq_ok_iff.1 h
  rw [Path.parts_parent, List.foldlM_append, ← Path.start_parent hparent] at hfold
  cases hq : (Path.parts (Path.parent path)).foldlM (d.enter path)
      (Path.start (Path.parent path)) with
  | error f => simp [hq, bind, Except.bind] at hfold
  | ok q =>
    rw [hq] at hfold
    obtain ⟨rest, hrest⟩ := Path.exists_eq_append path
    have hnull' : '\x00' ∉ (Path.parent path).toList := fun hmem => hnull <| by
      rw [hrest, String.toList_append]
      exact List.mem_append_left _ hmem
    have hshort' : (Path.parent path).utf8ByteSize ≤ Path.maxPath := by
      rw [hrest, String.utf8ByteSize_append] at hshort
      omega
    exact ⟨q, locate_eq_ok_iff.2 ⟨hnull', hparent, hshort',
      foldlM_enter_of_isFolder (fun _ => id) hq⟩, hfold⟩

theorem hasFolder_parent {p : List String} (h : d.locate path = .ok p) (hname : Path.name path ≠ "")
    (hparent : Path.parent path ≠ "") : d.hasFolder (Path.parent path) = true := by
  obtain ⟨q, hq, hstep⟩ := locate_parent h hparent
  rw [if_neg hname] at hstep
  cases henter : d.enter path q (Path.name path) with
  | error f => simp [henter, bind, Except.bind] at hstep
  | ok r => simp [hasFolder, hq, isFolder_of_enter henter]

theorem makeLevels_of_hasFolder (h : d.hasFolder path = true) (levels : Nat) :
    makeLevels levels d path = (d, .ok ()) := by
  obtain ⟨p, hp, hfolder⟩ : ∃ p, d.locate path = .ok p ∧ d.isFolder p = true := by
    unfold hasFolder at h
    cases hp : d.locate path with
    | error f => simp [hp] at h
    | ok p => exact ⟨p, rfl, by simpa [hp] using h⟩
  have hinside : d.ensureInside path = (d, .ok ()) := by
    simp [ensureInside, makeInside, hp, hfolder, h, bind, Except.bind]
  cases levels with
  | zero => exact hinside
  | succ levels =>
    unfold makeLevels
    extract_lets bare above
    have hready : above = "" ∨ Path.name bare = "" ∨ d.contains above = true := by
      by_contra hnone
      simp only [not_or] at hnone
      obtain ⟨habove, hname, hcontains⟩ := hnone
      obtain ⟨q, hq⟩ : ∃ q, d.locate bare = .ok q := by
        by_cases hopen : Path.name path = ""
        · have hbare : bare = Path.parent path := if_pos hopen
          rw [hbare] at hname ⊢
          have hparent : Path.parent path ≠ "" := fun hempty => hname (by simp [hempty])
          exact (locate_parent hp hparent).imp fun q hq => hq.1
        · exact ⟨p, (congrArg d.locate (if_neg hopen)).trans hp⟩
      exact hcontains (Bool.or_eq_true_iff.2 (.inl (hasFolder_parent hq hname habove)))
    rw [if_pos hready, hinside]

theorem write_again {content : Content} (h : d.write path content = .ok e) :
    e.makeParent path = (e, .ok ()) ∧
      ∀ content', ∃ f, e.write path content' = .ok f ∧ Alike e f := by
  obtain ⟨-, hfree, hopen, he⟩ := write_eq_ok_iff.1 h
  have hlocate := locate_of_write h
  have hname := Path.name_ne_empty (locate_eq_ok_iff.1 hlocate).2.1 hopen
  constructor
  · unfold makeParent
    dsimp only
    split
    · rfl
    · next hparent => exact makeLevels_of_hasFolder (hasFolder_parent hlocate hname hparent) _
  · intro content'
    refine ⟨_, write_eq_ok_iff.2 ⟨hlocate, ?_, hopen, rfl⟩, .put ?_ _⟩
    · rw [he, isFolder_put_self, hfree]
    · rw [(write_eq_ok h).2, if_pos rfl]
      rfl

end Parent

end Directory

open Directory (Alike)

namespace Ledger

variable {d e : Directory} {path : String} {records : List (List String)}

theorem append_of_writable (h : d.Writable path) (records : List (List String)) :
    ∃ e, append d path records = (e, .ok ()) := by
  obtain ⟨d', hmade, hw⟩ := h.write
  obtain ⟨e, he⟩ := hw (grown (d'.content? path) records)
  exact ⟨e, append_eq_ok_iff.2 ⟨d', hmade, he⟩⟩

theorem append_again (h : append d path records = (e, .ok ())) (more : List (List String)) :
    ∃ f, append e path more = (f, .ok ()) ∧ Alike e f := by
  obtain ⟨d', -, hw⟩ := append_eq_ok_iff.1 h
  obtain ⟨hmade, hwrite⟩ := Directory.write_again hw
  obtain ⟨f, hf, halike⟩ := hwrite (grown (e.content? path) more)
  exact ⟨f, append_eq_ok_iff.2 ⟨e, hmade, hf⟩, halike⟩

theorem writable_of_append (h : append d path records = (e, .ok ())) : e.Writable path := by
  obtain ⟨d', -, hw⟩ := append_eq_ok_iff.1 h
  obtain ⟨hmade, hwrite⟩ := Directory.write_again hw
  obtain ⟨f, hf, -⟩ := hwrite (.bytes .empty)
  exact ⟨e, f, hmade, hf⟩

/-- Where there are files after an entry does not depend on what is entered, nor on what the files
held. -/
theorem append_alike {d' e' : Directory} {others : List (List String)} (halike : Alike d d')
    (h : append d path records = (e, .ok ())) (h' : append d' path others = (e', .ok ())) :
    Alike e e' := by
  obtain ⟨made, hmade, hw⟩ := append_eq_ok_iff.1 h
  obtain ⟨made', hmade', hw'⟩ := append_eq_ok_iff.1 h'
  have hparent := (halike.makeParent path).2
  rw [hmade, hmade'] at hparent
  obtain ⟨f, hf, hafter⟩ := hparent.write hw (grown (made'.content? path) others)
  obtain rfl := Except.ok.inj (hf.symm.trans hw')
  exact hafter

/-- However many entries are made in a ledger, the directory stays like it was after the first. -/
theorem Kept.alike {saved : String} {batches : List (List Row)} {first : Directory}
    (hfirst : append d path records = (first, .ok ())) (h : Kept path saved False d batches e) :
    if batches = [] then e = d else Alike first e := by
  induction h with
  | start => rfl
  | save _ hs => exact hs.elim
  | @enter batches rows e f hkept happend ih =>
    rw [if_neg (List.append_ne_nil_of_right_ne_nil _ (List.cons_ne_nil _ _))]
    split at ih
    · subst ih
      exact append_alike (.refl e) hfirst happend
    · obtain ⟨g, hg, hagain⟩ := append_again hfirst (rows.map (·.fields))
      exact hagain.trans (append_alike ih hg happend)

end Ledger

namespace Recording

theorem parent_fileName (path : String) : Path.parent (fileName path) = Path.parent path := by
  unfold fileName
  split
  · rfl
  · exact Path.parent_append (by decide)

theorem save_of_writable {d : Directory} {path : String} {r : Recording} {w : World} {a : Archive}
    (h : d.Writable (fileName path)) (ha : r.archive w = .ok a) :
    ∃ e, r.save w d path = (e, .ok ()) ∧
      e.file? (Path.components (fileName path)) = some (.arrays a) := by
  obtain ⟨d', hmade, hw⟩ := h.write
  obtain ⟨e, he⟩ := hw (.arrays a)
  rw [Directory.makeParent, parent_fileName] at hmade
  refine ⟨e, save_eq_ok_iff.2 ⟨d', a, hmade, ha, he⟩, ?_⟩
  rw [(Directory.write_eq_ok he).2, if_pos rfl]

end Recording
end Vivarium
