import Vivarium.Proofs.Analysis.Ledger
import Vivarium.Proofs.Analysis.Sheet

/-! Rows that are read as they were written, and the sheets of some of these. -/
namespace Vivarium

theorem IsDigits.toString_int {n : Int} (h : 0 ≤ n) : IsDigits (ToString.toString n) := by
  obtain ⟨m, rfl⟩ := Int.eq_ofNat_of_zero_le h
  exact .toString m

theorem IsDigits.natOf_toString_int {n : Int} (h : 0 ≤ n) :
    Numeral.natOf (ToString.toString n).toList = n.toNat := by
  obtain ⟨m, rfl⟩ := Int.eq_ofNat_of_zero_le h
  exact natOf_toString m

namespace Ledger

open Analysis

/-- A row whose texts stand for themselves, whose numbers have no sign and whose round has 64 bits. -/
structure Row.IsLegible (r : Row) : Prop where
  session : IsPlain r.session
  species : IsPlain r.species
  round : 0 ≤ r.round
  small : r.round < Kind.unsignedEnd
  count : 0 ≤ r.count
  infections : 0 ≤ r.infections
  moves : 0 ≤ r.moves
  aborted : 0 ≤ r.aborted

section Cells

variable {rows : List Row} {name : String} {r : Row} (hr : r ∈ rows)

include hr

theorem cell_plain {field : Row → String} (hplain : ∀ q ∈ rows, IsPlain (field q))
    (hname : name ∉ Table.numericNames) : cell rows name field r = .text (field r) :=
  Table.cell_plain (List.forall_mem_map.2 hplain) hname (List.mem_map_of_mem hr)

variable {number : Row → Int} (hnumber : ∀ q ∈ rows, 0 ≤ number q)
  (hname : name ∈ Table.numericNames)

include hnumber hname

theorem amount?_cell : (cell rows name (toString <| number ·) r).amount? =
    some (.ofRat ((number r).toNat : Rat)) := by
  have hdigits : ∀ s ∈ rows.map (toString <| number ·), IsDigits s :=
    List.forall_mem_map.2 fun q hq => .toString_int (hnumber q hq)
  have hamount := Table.amount?_digits hdigits hname (List.mem_map_of_mem hr)
  rwa [IsDigits.natOf_toString_int (hnumber r hr)] at hamount

theorem cell_whole (hsmall : ∀ q ∈ rows, number q < Kind.unsignedEnd) :
    cell rows name (toString <| number ·) r = .whole (number r) := by
  have hdigits : ∀ s ∈ rows.map (toString <| number ·), IsDigits s :=
    List.forall_mem_map.2 fun q hq => .toString_int (hnumber q hq)
  have hends : ∀ s ∈ rows.map (toString <| number ·),
      (Numeral.natOf s.toList : Int) < Kind.unsignedEnd :=
    List.forall_mem_map.2 fun q hq => by
      rw [IsDigits.natOf_toString_int (hnumber q hq), Int.toNat_of_nonneg (hnumber q hq)]
      exact hsmall q hq
  have hcell := Table.cell_digits hdigits hname hends (List.mem_map_of_mem hr)
  rwa [IsDigits.natOf_toString_int (hnumber r hr), Int.toNat_of_nonneg (hnumber r hr)] at hcell

end Cells

/-- Sessions whose names stand for themselves are selected by their names, but for one that is named
like the latest: that word stands for the session of the last row. -/
theorem Kept.select_plain {path saved : String} {d e : Directory} {batches : List (List Row)}
    (h : Kept path saved False d batches e) (hne : batches.flatten ≠ [])
    (hnew : Ledger.held path d = none) (hname : Packing.ofPath? path = none)
    (hplain : ∀ r ∈ batches.flatten, IsPlain r.session) {s word : String} (hs : IsPlain s)
    (hword : word = s ∧ word ≠ "latest" ∨
      word = "latest" ∧ ∃ last ∈ batches.flatten.getLast?, last.session = s) :
    Analyse.select e path word = .ok ⟨s, part batches.flatten (·.session = s)⟩ := by
  have hcell {r : Row} (hr : r ∈ batches.flatten) :
      sessionCell batches.flatten r = .text r.session :=
    cell_plain hr hplain (by decide)
  have hsame : ∀ r ∈ batches.flatten,
      (sessionCell batches.flatten r).key = (Cell.text s).key ↔ r.session = s := fun r hr => by
    simp only [hcell hr, Cell.key, Cell.text.injEq]
  have hpart := congrArg (fun t => Except.ok (ε := Analyse.Failure) (Selection.mk (some s) t))
    (part_congr hsame)
  rcases hword with ⟨rfl, hlatest⟩ | ⟨rfl, last, hlast, rfl⟩
  · have hempty : word ≠ "" := by
      rintro rfl
      cases hs.present
    exact (h.select_named hne hnew hname hempty hlatest).trans hpart
  · have hpresent : ∀ r ∈ batches.flatten,
        (sessionCell batches.flatten r).isPresent = true := fun r hr => by
      simp [hcell hr, Cell.isPresent]
    have hselect := h.select_latest hne hnew hname hpresent hlast
    rw [hcell (List.mem_of_getLast? hlast)] at hselect
    exact hselect.trans hpart

def eventCells (rows : List Row) (r : Row) : List Cell := [
  cell rows "infections" (toString ·.infections) r, cell rows "moves" (toString ·.moves) r,
  cell rows "aborted" (toString ·.aborted) r]

section Legible

variable {rows : List Row} (hlegible : ∀ r ∈ rows, r.IsLegible) {r : Row} (hr : r ∈ rows)

include hlegible hr

theorem cell_round : cell rows "round" (toString ·.round) r = .whole r.round :=
  cell_whole hr (fun q hq => (hlegible q hq).round) (by decide) fun q hq => (hlegible q hq).small

theorem amount?_eventCells : ∀ i < Sheet.eventColumns.length,
    (Table.cellAt (eventCells rows r) i).amount? =
      some (.ofRat (([r.infections, r.moves, r.aborted].getD i 0).toNat : Rat))
  | 0, _ => amount?_cell hr (fun q hq => (hlegible q hq).infections) (by decide)
  | 1, _ => amount?_cell hr (fun q hq => (hlegible q hq).moves) (by decide)
  | 2, _ => amount?_cell hr (fun q hq => (hlegible q hq).aborted) (by decide)

end Legible

section Sheets

variable (rows : List Row) (p : Row → Bool)

theorem column?_part {name : String} {i : Nat} (h : fieldNames.idxOf? name = some i) :
    (part rows p).column? name =
      some ((rows.filter p).map fun r => Table.cellAt (reading rows r) i) := by
  have hindex : (part rows p).index? name = some i := h
  rw [Table.column?, hindex, Option.map_some, part, List.map_map]
  rfl

theorem counts_part : Sheet.counts (part rows p) = .ok (Sheet.ofCounts Sheet.summationOf
    ((rows.filter p).map (cell rows "round" (toString ·.round)))
    ((rows.filter p).map (cell rows "species" (·.species)))
    ((rows.filter p).map (cell rows "count" (toString ·.count)))) := by
  have hround := column?_part rows p (show fieldNames.idxOf? "round" = some 1 by decide +kernel)
  have hspecies := column?_part rows p (show fieldNames.idxOf? "species" = some 2 by decide +kernel)
  have hcount := column?_part rows p (show fieldNames.idxOf? "count" = some 3 by decide +kernel)
  unfold Sheet.counts Table.require
  rw [hround, hspecies, hcount]
  rfl

theorem events_part : Sheet.events (part rows p) = .ok (Sheet.ofEvents Sheet.summationOf (Sheet.firstRows
    ((rows.filter p).map (sessionCell rows))
    ((rows.filter p).map (cell rows "round" (toString ·.round)))
    ((rows.filter p).map (eventCells rows)))) := by
  have hsession := column?_part rows p
    (show fieldNames.idxOf? "session_id" = some 0 by decide +kernel)
  have hround := column?_part rows p (show fieldNames.idxOf? "round" = some 1 by decide +kernel)
  have hplaces : Sheet.eventColumns.filterMap (part rows p).index? = [4, 5, 6] := by
    have hfields : Sheet.eventColumns.filterMap fieldNames.idxOf? = [4, 5, 6] := by decide +kernel
    exact hfields
  have habsent : Sheet.eventColumns.filter (fun name => ((part rows p).index? name).isNone) = [] := by
    have hfields : Sheet.eventColumns.filter (fun name => (fieldNames.idxOf? name).isNone) = [] := by
      decide +kernel
    exact hfields
  have hevents : Sheet.eventRows (part rows p) = .ok ((rows.filter p).map (eventCells rows)) := by
    unfold Sheet.eventRows
    simp only [habsent, List.isEmpty_nil, if_true, hplaces]
    rw [part, List.map_map]
    rfl
  unfold Sheet.events Table.require
  rw [hsession, hround, hevents]
  rfl

end Sheets

end Ledger
end Vivarium
