import Vivarium.Failure
import Vivarium.Ledger
import Vivarium.Proofs.Directory

/-! A ledger that is kept round after round holds every batch of rows once and in order, whatever else
is saved beside it. -/
namespace Vivarium

/-- A recording is saved if there is a folder for it, its frames fit the arrays, and the archive can be
written. -/
theorem Recording.save_eq_ok_iff {r : Recording} {w : World} {d e : Directory} {path : String} :
    r.save w d path = (e, .ok ()) ↔ ∃ d' a, d.makeParent path = (d', .ok ()) ∧
      r.archive w = .ok a ∧ d'.write (fileName path) (.arrays a) = .ok e := by
  unfold save
  cases hmade : d.makeParent path with
  | mk d' x =>
    cases x with
    | error f => simp
    | ok u =>
      cases ha : r.archive w with
      | error o => simp
      | ok a => cases hw : d'.write (fileName path) (.arrays a) <;> simp [hw]

theorem Recording.file?_save {r : Recording} {w : World} {d e : Directory} {path : String}
    (h : r.save w d path = (e, .ok ())) {p : List String}
    (hp : Path.components (fileName path) ≠ p) : e.file? p = d.file? p := by
  obtain ⟨d', a, hmade, -, hw⟩ := save_eq_ok_iff.1 h
  have hfiles := d.files_makeParent path
  rw [hmade] at hfiles
  rw [(Directory.write_eq_ok hw).2 p, if_neg hp]
  exact Directory.file?_congr hfiles p

namespace Ledger

/-- An entry is made if there is a folder for the ledger and the ledger can be written. -/
theorem append_eq_ok_iff {d e : Directory} {path : String} {records : List (List String)} :
    append d path records = (e, .ok ()) ↔ ∃ d', d.makeParent path = (d', .ok ()) ∧
      d'.write path (grown (d'.content? path) records) = .ok e := by
  unfold append
  cases hmade : d.makeParent path with
  | mk d' x =>
    cases x with
    | error f => simp
    | ok u => cases hw : d'.write path (grown (d'.content? path) records) <;> simp [hw]

theorem file?_append {d e : Directory} {path : String} {records : List (List String)}
    (h : append d path records = (e, .ok ())) (p : List String) :
    e.file? p = if Path.components path = p then some (grown (d.file? p) records) else d.file? p := by
  obtain ⟨d', hmade, hw⟩ := append_eq_ok_iff.1 h
  have hfiles := d.files_makeParent path
  rw [hmade] at hfiles
  obtain ⟨hbefore, hafter⟩ := Directory.write_eq_ok hw
  rw [hafter p, Directory.file?_congr hfiles.symm p, hbefore]
  split
  · next hp =>
    subst hp
    rfl
  · rfl

theorem write_append (xs ys : List (List String)) :
    (Csv.write (xs ++ ys)).toUTF8 = (Csv.write xs).toUTF8 ++ (Csv.write ys).toUTF8 := by
  simp [Csv.write]

theorem grown_grown (before : Option Content) (xs ys : List (List String)) :
    grown (some (grown before xs)) ys = grown before (xs ++ ys) := by
  unfold grown
  rw [Option.getD_some, Content.append_append, write_append]

theorem grown_none (records : List (List String)) :
    grown none records = .bytes (Csv.write (fieldNames :: records)).toUTF8 :=
  congrArg Content.bytes (write_append [fieldNames] records).symm

/-- The content of a ledger after batches of rows: none of them leaves it as it was. -/
def content (before : Option Content) (batches : List (List Row)) : Option Content :=
  if batches.isEmpty then before else some (grown before (batches.flatten.map (·.fields)))

theorem content_concat (before : Option Content) (batches : List (List Row)) (rows : List Row) :
    content before (batches ++ [rows]) =
      some (grown (content before batches) (rows.map (·.fields))) := by
  cases batches with
  | nil => simp [content]
  | cons b bs => simp [content, grown_grown, List.append_assoc]

/-- Enters a round into the ledger if one is written, as every run does. -/
def entry (ledger : Option String) (session : String) (tally : Tally) (w : World) (d : Directory) :
    Directory × Except Failure Unit :=
  match ledger with
  | none => (d, .ok ())
  | some path =>
    match rows tally w session with
    | .error f => (d, .error (.world f))
    | .ok batch =>
      let (d, result) := append d path (batch.map (·.fields))
      (d, result.mapError .file)

section Entry

variable {session : String} {tally : Tally} {w : World} {d e : Directory}

theorem entry_eq_ok {path : String} (h : entry (some path) session tally w d = (e, .ok ())) :
    ∃ batch, rows tally w session = .ok batch ∧
      append d path (batch.map (·.fields)) = (e, .ok ()) := by
  simp only [entry] at h
  cases hrows : rows tally w session with
  | error f => simp [hrows] at h
  | ok batch =>
    refine ⟨batch, rfl, ?_⟩
    simp only [hrows] at h
    generalize append d path (batch.map (·.fields)) = appended at h ⊢
    obtain ⟨f, result⟩ := appended
    cases result with
    | error fault => cases h
    | ok a =>
      obtain rfl := (Prod.mk.inj h).1
      rfl

theorem entry_eq_error {ledger : Option String} {f : Failure}
    (h : entry ledger session tally w d = (e, .error f)) :
    (∃ fault, rows tally w session = .error fault) ∨ ∃ fault, f = .file fault := by
  unfold entry at h
  split at h
  · cases h
  · next path =>
    split at h
    · next fault hrows => exact .inl ⟨fault, hrows⟩
    · next batch hrows =>
      dsimp only at h
      generalize append d path (batch.map (·.fields)) = appended at h
      obtain ⟨d', result⟩ := appended
      cases result with
      | error fault => exact .inr ⟨fault, (Except.error.inj (Prod.mk.inj h).2).symm⟩
      | ok a => cases h

end Entry

/-- How the files of a directory change while a ledger is kept: batches of rows are entered into it,
and recordings are saved at another path. -/
inductive Kept (path saved : String) (saves : Prop) (d : Directory) :
    List (List Row) → Directory → Prop
  | start : Kept path saved saves d [] d
  | enter {batches : List (List Row)} {rows : List Row} {e f : Directory} :
      Kept path saved saves d batches e → append e path (rows.map (·.fields)) = (f, .ok ()) →
      Kept path saved saves d (batches ++ [rows]) f
  | save {batches : List (List Row)} {r : Recording} {w : World} {e f : Directory} :
      Kept path saved saves d batches e → saves → r.save w e saved = (f, .ok ()) →
      Kept path saved saves d batches f

/-- What a directory holds where a path leads. -/
def held (path : String) (d : Directory) : Option Content := d.file? (Path.components path)

variable {path saved : String} {saves : Prop} {d e f : Directory}

/-- The ledger holds the batches one after another, unless a recording is saved over it. -/
theorem Kept.held {batches : List (List Row)} (h : Kept path saved saves d batches e)
    (hapart : saves → Path.components (Recording.fileName saved) ≠ Path.components path) :
    held path e = content (held path d) batches := by
  induction h with
  | start => rfl
  | enter _ happend ih =>
    rw [Ledger.held, file?_append happend, if_pos rfl, content_concat, ← ih]
    rfl
  | save _ hs hsave ih =>
    rw [← ih]
    exact Recording.file?_save hsave (hapart hs)

/-- A ledger that was not there is read as the names of the fields and what was entered. -/
theorem Kept.read {batches : List (List Row)} (h : Kept path saved False d batches e)
    (hne : batches ≠ []) (hnew : Ledger.held path d = none) :
    e.contains path = true ∧ e.read path =
      .ok (Csv.write (fieldNames :: batches.flatten.map (·.fields))).toUTF8 := by
  have hcontent := h.held False.elim
  rw [hnew, content, if_neg (by simpa using hne), grown_none] at hcontent
  cases h with
  | start => exact absurd rfl hne
  | save _ hs => exact hs.elim
  | enter _ happend =>
    obtain ⟨d', -, hw⟩ := append_eq_ok_iff.1 happend
    have hfile := (Directory.write_eq_ok hw).2 (Path.components path)
    rw [if_pos rfl] at hfile
    rw [Option.some.inj (hfile.symm.trans hcontent)] at hw
    exact Directory.read_of_write hw

theorem Kept.file? {batches : List (List Row)} (h : Kept path saved False d batches e)
    {p : List String} (hp : Path.components path ≠ p) : e.file? p = d.file? p := by
  induction h with
  | start => rfl
  | enter _ happend ih => rw [file?_append happend, if_neg hp, ih]
  | save _ hs => exact hs.elim

theorem Kept.trans {xs ys : List (List Row)} (h : Kept path saved saves d xs e)
    (h' : Kept path saved saves e ys f) : Kept path saved saves d (xs ++ ys) f := by
  induction h' with
  | start => simpa using h
  | enter _ happend ih =>
    rw [← List.append_assoc]
    exact ih.enter happend
  | save _ hs hsave ih => exact ih.save hs hsave

/-- The content of a ledger after the first rounds of a simulation, all entered in their order. -/
def after (before : Option Content) (session : String) (rounds : Nat) (w : World)
    (chance : Chance) : Except Fault (Option Content) :=
  (Round.runMany (fun tally w => rows tally w session) 1 rounds w chance).result.map
    (content before)

theorem Kept.after {session : String} {rounds : Nat} {w : World} {chance : Chance}
    {batches : List (List Row)} (h : Kept path saved saves d batches e)
    (hrounds : (Round.runMany (fun tally w => rows tally w session) 1 rounds w chance).result =
      .ok batches)
    (hapart : saves → Path.components (Recording.fileName saved) ≠ Path.components path) :
    Ledger.after (Ledger.held path d) session rounds w chance = .ok (Ledger.held path e) := by
  rw [Ledger.after, hrounds, h.held hapart]
  rfl

end Ledger
end Vivarium
