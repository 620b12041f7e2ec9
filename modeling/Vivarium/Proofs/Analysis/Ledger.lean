import Vivarium.CommandLine.Analyse
import Vivarium.Proofs.Analysis.Columns
import Vivarium.Proofs.Csv
import Vivarium.Proofs.Ledger

/-!
A ledger as the analysis finds it: one row for each that was entered, its fields read as the columns they
stand in are.
-/
namespace Vivarium

namespace Analysis.Sections

theorem isVoid_writtenRecord {fields : List String} (h : 2 ≤ fields.length) :
    isVoid (Csv.writtenRecord fields) = false := by
  match fields, h with
  | f :: g :: fs, _ =>
    rw [Csv.writtenRecord]
    · rfl
    · simp

theorem numbered_written {records : List (List String)} (h : ∀ r ∈ records, 2 ≤ r.length) :
    numbered (records.map Csv.writtenRecord) = records.zipIdx 1 := by
  unfold numbered
  rw [List.filter_eq_self.2, List.zipIdx_map, List.map_map]
  · refine (List.map_congr_left fun x _ => ?_).trans (List.map_id _)
    exact Prod.ext (Csv.text_writtenRecord x.1) rfl
  · rintro ⟨r, line⟩ hr
    obtain ⟨fields, hfields, rfl⟩ := List.mem_map.1 (List.fst_mem_of_mem_zipIdx hr)
    simp [isVoid_writtenRecord (h fields hfields)]

theorem ofText_write {header : List String} {records : List (List String)}
    (hheader : 2 ≤ header.length) (hrecords : ∀ r ∈ records, r.length = header.length) :
    ofText (fun _ => .ok ()) (Csv.write (header :: records)) = .ok ⟨header, records⟩ := by
  have hlong : ∀ r ∈ header :: records, 2 ≤ r.length := fun r hr => by
    rcases List.mem_cons.1 hr with rfl | hr
    · exact hheader
    · exact (hrecords r hr).symm ▸ hheader
  have hnumbered := numbered_written hlong
  rw [List.zipIdx_cons] at hnumbered
  have hnone : (records.zipIdx (1 + 1)).find?
      (widest header (records.zipIdx (1 + 1)) < ·.1.length) = none := by
    refine List.find?_eq_none.2 fun x hx => ?_
    have hlen := hrecords x.1 (List.fst_mem_of_mem_zipIdx hx)
    simp [widest, hlen]
  unfold ofText
  simp only [Csv.read_write, Bool.false_eq_true, if_false, hnumbered, hnone, List.zipIdx_map_fst]
  split <;> rfl

end Analysis.Sections

namespace Ledger

open Analysis

/-- The cell that a field of a row is read as, among all rows of its ledger. -/
def cell (rows : List Row) (name : String) (field : Row → String) (r : Row) : Cell :=
  (Table.kindOf name (rows.map field)).cell (field r)

def reading (rows : List Row) (r : Row) : List Cell := [
  cell rows "session_id" (·.session) r, cell rows "round" (toString ·.round) r,
  cell rows "species" (·.species) r, cell rows "count" (toString ·.count) r,
  cell rows "infections" (toString ·.infections) r, cell rows "moves" (toString ·.moves) r,
  cell rows "aborted" (toString ·.aborted) r]

def table (rows : List Row) : Table := ⟨fieldNames, rows.map (reading rows)⟩

theorem ofSections_fields (rows : List Row) :
    Table.ofSections ⟨fieldNames, rows.map (·.fields)⟩ = table rows := by
  have hwidth : Sections.width ⟨fieldNames, rows.map (·.fields)⟩ = 7 := by
    cases rows <;> rfl
  have hnameless : Sections.nameless ⟨fieldNames, rows.map (·.fields)⟩ = 0 := by
    rw [Sections.nameless, hwidth]
    rfl
  have hcolumn (i : Nat) : Sections.column ⟨fieldNames, rows.map (·.fields)⟩ i =
      rows.map fun r => r.fields.getD i "" := List.map_map
  unfold Table.ofSections Table.kinds
  simp only [hnameless, hcolumn, Nat.zero_add, List.map_map]
  rfl

theorem ofText_ledger (rows : List Row) :
    Table.ofText (Csv.write (fieldNames :: rows.map (·.fields))) = .ok (table rows) := by
  have hmark : Table.withoutMark (Csv.write (fieldNames :: rows.map (·.fields))) =
      Csv.write (fieldNames :: rows.map (·.fields)) := by
    have hhead : (Csv.writeRecord fieldNames).toList.head? = some 's' := by decide +kernel
    obtain ⟨cs, hcs⟩ := List.head?_eq_some_iff.1 hhead
    have hchars : (Csv.write (fieldNames :: rows.map (·.fields))).toList =
        's' :: (cs ++ (Csv.write (rows.map (·.fields))).toList) := by
      rw [Csv.write, List.map_cons, String.join_cons, String.toList_append, hcs]
      rfl
    unfold Table.withoutMark
    rw [hchars]
    split
    · next h => cases (List.cons.inj h).1
    · rfl
  rw [Table.ofText, hmark, Sections.ofText_write (by decide) (by simp [Row.fields, fieldNames])]
  exact congrArg _ (ofSections_fields rows)

def sessionCell (rows : List Row) : Row → Cell := cell rows "session_id" (·.session)

/-- Some of the rows, read as they are among all of them. -/
def part (rows : List Row) (p : Row → Bool) : Table := ⟨fieldNames, (rows.filter p).map (reading rows)⟩

section Table

variable (rows : List Row)

theorem part_congr {rows : List Row} {p q : Row → Prop} [DecidablePred p] [DecidablePred q]
    (h : ∀ r ∈ rows, p r ↔ q r) :
    (part rows fun r => decide (p r)) = part rows fun r => decide (q r) := by
  rw [part, List.filter_congr fun r hr => decide_eq_decide.2 (h r hr), part]

theorem index?_session : (table rows).index? sessionColumn = some 0 := by
  have hindex : fieldNames.idxOf? sessionColumn = some 0 := by decide +kernel
  exact hindex

theorem keep_session (c : Cell) :
    (table rows).keep 0 c = part rows fun r => (sessionCell rows r).key = c.key := by
  rw [Table.keep, table, List.filter_map]
  rfl

variable {rows} (hne : rows ≠ [])

include hne

theorem select?_named (s : String) : (table rows).select? (.named s) =
    some ⟨s, part rows fun r => (sessionCell rows r).key = .text s⟩ := by
  have hempty : (table rows).rows.isEmpty = false := by simpa [table] using hne
  simp only [Table.select?, index?_session, hempty, Bool.false_eq_true, if_false, keep_session]
  rfl

theorem select?_latest (hpresent : ∀ r ∈ rows, (sessionCell rows r).isPresent = true) {last : Row}
    (hlast : last ∈ rows.getLast?) : (table rows).select? .latest =
      some ⟨(sessionCell rows last).label,
        part rows fun r => (sessionCell rows r).key = (sessionCell rows last).key⟩ := by
  have hempty : (table rows).rows.isEmpty = false := by simpa [table] using hne
  have hcells : (table rows).rows.map (Table.cellAt · 0) = rows.map (sessionCell rows) := by
    rw [table, List.map_map]
    rfl
  have hfilter : (rows.map (sessionCell rows)).filter Cell.isPresent =
      rows.map (sessionCell rows) := by
    rw [List.filter_eq_self]
    simpa using hpresent
  have hgetLast : rows.getLast? = some last := hlast
  simp [Table.select?, index?_session, hempty, hcells, hfilter, keep_session, hgetLast]

end Table

section Kept

theorem Kept.appended {path saved : String} {saves : Prop} {d e : Directory}
    {batches : List (List Row)} {rows : List Row} (h : Kept path saved saves d batches e)
    (hok : (append e path (rows.map (·.fields))).2 = .ok ()) :
    Kept path saved saves d (batches ++ [rows]) (append e path (rows.map (·.fields))).1 :=
  h.enter (Prod.ext rfl hok)

variable {path saved : String} {d e : Directory} {batches : List (List Row)}
  (h : Kept path saved False d batches e) (hne : batches.flatten ≠ [])
  (hnew : Ledger.held path d = none) (hname : Packing.ofPath? path = none)

include h hne hnew hname

/-- A ledger that is not kept under the name of a packed file is loaded as it was entered. -/
theorem Kept.load : Analyse.load e path = .ok (table batches.flatten) := by
  have hsome : batches ≠ [] := by
    rintro rfl
    exact hne rfl
  obtain ⟨hcontains, hread⟩ := h.read hsome hnew
  simp only [Analyse.load, hcontains, Bool.not_true, Bool.false_eq_true, if_false, hread,
    Analyse.tableOf, hname, Option.bind_none, Table.ofBytes, Text.decode_toUTF8, ofText_ledger]
  rfl

theorem Kept.select_named {s : String} (hs : s ≠ "") (hlatest : s ≠ "latest") :
    Analyse.select e path s = .ok ⟨s, part batches.flatten fun r =>
      (sessionCell batches.flatten r).key = .text s⟩ := by
  rw [Analyse.select, h.load hne hnew hname, Choice.ofText, if_neg hs, if_neg hlatest]
  simp only [select?_named hne]

theorem Kept.select_latest
    (hpresent : ∀ r ∈ batches.flatten, (sessionCell batches.flatten r).isPresent = true)
    {last : Row} (hlast : last ∈ batches.flatten.getLast?) :
    Analyse.select e path "latest" =
      .ok ⟨(sessionCell batches.flatten last).label, part batches.flatten fun r =>
        (sessionCell batches.flatten r).key = (sessionCell batches.flatten last).key⟩ := by
  rw [Analyse.select, h.load hne hnew hname, Choice.ofText, if_neg (by decide), if_pos rfl]
  simp only [select?_latest hne hpresent hlast]

end Kept

end Ledger
end Vivarium
