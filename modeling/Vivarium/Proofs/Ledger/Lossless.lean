import Vivarium.Proofs.Csv
import Vivarium.Proofs.Number.Numeral
import Vivarium.Proofs.Writable

/-! Whatever texts and numbers are entered into a ledger, and in however many entries, they are read back. -/
namespace Vivarium.Ledger

/-- Entries made at one path, one after another; none is made after one that fails. -/
def appendAll (d : Directory) (path : String) :
    List (List Row) → Directory × Except FileFault Unit
  | [] => (d, .ok ())
  | rows :: calls =>
    match append d path (rows.map (·.fields)) with
    | (d, .ok ()) => appendAll d path calls
    | (d, .error f) => (d, .error f)

variable {d e : Directory} {path : String} {calls : List (List Row)}

theorem kept_of_appendAll (h : appendAll d path calls = (e, .ok ())) :
    Kept path path False d calls e := by
  induction calls generalizing d with
  | nil =>
    obtain rfl := (Prod.mk.inj h).1
    exact .start
  | cons rows calls ih =>
    rw [appendAll] at h
    split at h
    · next f happend => exact (Kept.start.enter happend).trans (ih h)
    · cases h

theorem appendAll_of_writable (h : d.Writable path) (calls : List (List Row)) :
    ∃ e, appendAll d path calls = (e, .ok ()) := by
  induction calls generalizing d with
  | nil => exact ⟨d, rfl⟩
  | cons rows calls ih =>
    obtain ⟨f, happend⟩ := append_of_writable h (rows.map (·.fields))
    obtain ⟨e, he⟩ := ih (writable_of_append happend)
    refine ⟨e, ?_⟩
    rw [appendAll, happend]
    exact he

/-- No row looks like the names of the fields: its round begins with a digit or a sign. -/
theorem Row.fields_ne_fieldNames (r : Row) : r.fields ≠ fieldNames := by
  intro h
  obtain ⟨-, h, -⟩ := by simpa only [Row.fields, fieldNames, List.cons.injEq] using h
  have hletter : "round".toList = ['r', 'o', 'u', 'n', 'd'] := by decide +kernel
  have hchars := (congrArg String.toList h).trans hletter
  cases hround : r.round with
  | ofNat n =>
    rw [hround] at hchars
    have hdigit := (IsDigits.toString n).isDigit 'r' (hchars ▸ List.mem_cons_self)
    cases hdigit
  | negSucc n =>
    rw [hround] at hchars
    have hsign : (toString (Int.negSucc n)).toList = '-' :: (toString (n + 1)).toList :=
      String.toList_append
    cases (List.cons.inj (hsign.symm.trans hchars)).1

theorem count_fieldNames (rows : List Row) :
    (fieldNames :: rows.map (·.fields)).count fieldNames = 1 := by
  rw [List.count_cons_self, List.count_eq_zero.2]
  intro hmem
  obtain ⟨r, -, hr⟩ := List.mem_map.1 hmem
  exact r.fields_ne_fieldNames hr

/-- Entries at a path where there was no file are all made if one can be. Then the file is read as the
names of the fields, this once, and the rows of all entries in their order. -/
theorem appendAll_lossless (calls : List (List Row)) (hnew : held path d = none) :
    (d.Writable path → ∃ e, appendAll d path calls = (e, .ok ())) ∧
    ∀ e, appendAll d path calls = (e, .ok ()) → calls ≠ [] →
      ∃ bytes text, e.read path = .ok bytes ∧ Text.decode bytes = .ok text ∧
        Csv.records text = fieldNames :: calls.flatten.map (·.fields) ∧
        (Csv.records text).count fieldNames = 1 ∧ (Csv.read text).openQuote = false := by
  refine ⟨fun h => appendAll_of_writable h calls, fun e h hne => ?_⟩
  obtain ⟨-, hread⟩ := (kept_of_appendAll h).read hne hnew
  have hrecords : Csv.records (Csv.write (fieldNames :: calls.flatten.map (·.fields))) =
      fieldNames :: calls.flatten.map (·.fields) := by
    refine Csv.records_write (List.forall_mem_cons.2 ⟨List.cons_ne_nil _ _, ?_⟩)
    exact List.forall_mem_map.2 fun r _ => List.cons_ne_nil _ _
  refine ⟨_, _, hread, Text.decode_toUTF8 _, hrecords, ?_, ?_⟩
  · rw [hrecords, count_fieldNames]
  · rw [Csv.read_write]

theorem appendAll_lossless_separators :
    let d : Directory := ⟨[], []⟩
    let row : Row := ⟨"a,b", -3, "\"\r\n\",", 12, 0, 0, 0⟩
    ∃ e bytes text, appendAll d "runs/out.csv" [[], [row, row]] = (e, .ok ()) ∧
      e.read "runs/out.csv" = .ok bytes ∧ Text.decode bytes = .ok text ∧
      Csv.records text = [fieldNames, ["a,b", "-3", "\"\r\n\",", "12", "0", "0", "0"],
        ["a,b", "-3", "\"\r\n\",", "12", "0", "0", "0"]] := by
  intro d row
  have hnew : held "runs/out.csv" d = none := rfl
  have hwritable : d.Writable "runs/out.csv" := ⟨_, _, rfl, rfl⟩
  obtain ⟨hmade, hread⟩ := appendAll_lossless [[], [row, row]] hnew
  obtain ⟨e, he⟩ := hmade hwritable
  obtain ⟨bytes, text, hbytes, htext, hrecords, -, -⟩ := hread e he (List.cons_ne_nil _ _)
  exact ⟨e, bytes, text, he, hbytes, htext, hrecords⟩

end Vivarium.Ledger
