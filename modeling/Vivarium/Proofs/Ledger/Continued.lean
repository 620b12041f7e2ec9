import Vivarium.Proofs.Csv.Resumed
import Vivarium.Proofs.Ledger.Lossless

/-!
A ledger that is continued. Where its last line has an end, what was in it stays and the new rows follow.
Where it has none, the last record takes in the first of the new rows, and a file that is empty gets no
header.
-/
namespace Vivarium.Ledger

variable {d e : Directory} {path text : String} {rows : List Row}

theorem fields_ne_nil (rows : List Row) : ∀ fields ∈ rows.map (·.fields), fields ≠ [] :=
  List.forall_mem_map.2 fun _ _ => List.cons_ne_nil _ _

theorem fieldNames_not_mem (rows : List Row) : fieldNames ∉ rows.map (·.fields) := by
  intro hmem
  obtain ⟨r, -, hr⟩ := List.mem_map.1 hmem
  exact r.fields_ne_fieldNames hr

theorem read_append_of_held {records : List (List String)}
    (hheld : held path d = some (.bytes text.toUTF8)) (h : append d path records = (e, .ok ())) :
    e.read path = .ok (text ++ Csv.write records).toUTF8 := by
  obtain ⟨d', hmade, hw⟩ := append_eq_ok_iff.1 h
  have hfiles := d.files_makeParent path
  rw [hmade] at hfiles
  have hbefore : d'.content? path = some (.bytes text.toUTF8) := by
    rw [(Directory.write_eq_ok hw).1, Directory.file?_congr hfiles]
    exact hheld
  have hgrown : grown (some (.bytes text.toUTF8)) records =
      .bytes (text ++ Csv.write records).toUTF8 := by
    simp [grown, Content.append]
  rw [hbefore, hgrown] at hw
  exact (Directory.read_of_write hw).2

/-- The new rows of an empty file are all that is read, and the first of them stands where the names of
the fields should. -/
theorem not_isTable_write (rows : List Row) (more : List (List String)) :
    ¬ Csv.IsTable (Csv.write (rows.map (·.fields))) fieldNames more := by
  rintro ⟨first, rest, hread, hheader, -⟩
  rw [Csv.read_write] at hread
  cases rows with
  | nil => simp at hread
  | cons r rows =>
    obtain ⟨rfl, -⟩ := List.cons.inj (Csv.Reading.mk.inj hread).1
    rw [Csv.text_writtenRecord] at hheader
    exact r.fields_ne_fieldNames hheader

/-- The rows of an entry go to the end of the file as it is. If that has an end to its last line, it is
read as before with the new rows after the old ones, none of which is another header. If it has none,
the old rows are not read again, and if the file is empty, no header is. -/
theorem append_continues (hheld : held path d = some (.bytes text.toUTF8)) (rows : List Row) :
    (d.Writable path → ∃ e, append d path (rows.map (·.fields)) = (e, .ok ())) ∧
    ∀ e, append d path (rows.map (·.fields)) = (e, .ok ()) →
      ∃ after, e.read path = .ok after.toUTF8 ∧
        (text = "" → Csv.records after = rows.map (·.fields) ∧
          ∀ more, ¬ Csv.IsTable after fieldNames more) ∧
        ∀ old, Csv.IsTable text fieldNames old →
          (rows = [] ∨ Csv.EndsLine text →
            Csv.IsTable after fieldNames (old ++ rows.map (·.fields)) ∧
              fieldNames ∉ rows.map (·.fields)) ∧
          (¬ (rows = [] ∨ Csv.EndsLine text) →
            ∀ more, ¬ Csv.IsTable after fieldNames (old ++ more)) := by
  refine ⟨fun h => append_of_writable h _, fun e h => ⟨_, read_append_of_held hheld h, ?_, ?_⟩⟩
  · rintro rfl
    rw [String.empty_append]
    exact ⟨Csv.records_write (fields_ne_nil rows), not_isTable_write rows⟩
  · intro old hold
    constructor
    · rintro (rfl | hend)
      · simpa [Csv.write] using hold
      · exact ⟨hold.append hend (fields_ne_nil rows), fieldNames_not_mem rows⟩
    · intro hopen more
      obtain ⟨hsome, hend⟩ := not_or.1 hopen
      cases rows with
      | nil => exact absurd rfl hsome
      | cons r rows => exact hold.not_append hend (fields_ne_nil (r :: rows)) more

theorem append_continues_edited :
    let text := "session_id,round,species,count,infections,moves,aborted\n\n" ++
      "\"abc\",1,\"Ant\nBee\",2,0,1,0\n"
    let d : Directory := ⟨[(["a.csv"], .bytes text.toUTF8)], []⟩
    let row : Row := ⟨"abc", 2, "Ant", 2, 0, 1, 0⟩
    held "a.csv" d = some (.bytes text.toUTF8) ∧ Csv.EndsLine text ∧
      Csv.IsTable text fieldNames [["abc", "1", "Ant\nBee", "2", "0", "1", "0"]] ∧
      ∃ e after, append d "a.csv" [row.fields] = (e, .ok ()) ∧ e.read "a.csv" = .ok after.toUTF8 ∧
        Csv.IsTable after fieldNames [["abc", "1", "Ant\nBee", "2", "0", "1", "0"],
          ["abc", "2", "Ant", "2", "0", "1", "0"]] := by
  intro text d row
  have hheld : held "a.csv" d = some (.bytes text.toUTF8) := rfl
  have hend : Csv.EndsLine text := by decide +kernel
  have htable : Csv.IsTable text fieldNames [["abc", "1", "Ant\nBee", "2", "0", "1", "0"]] :=
    ⟨fieldNames.map fun n => ⟨n, false⟩, [[], [⟨"abc", true⟩, ⟨"1", false⟩, ⟨"Ant\nBee", true⟩,
      ⟨"2", false⟩, ⟨"0", false⟩, ⟨"1", false⟩, ⟨"0", false⟩]], by decide +kernel, by decide +kernel,
      by decide +kernel⟩
  obtain ⟨hmade, hafter⟩ := append_continues hheld [row]
  obtain ⟨e, he⟩ := hmade ⟨d, _, rfl, rfl⟩
  obtain ⟨after, hread, -, hold⟩ := hafter e he
  exact ⟨hheld, hend, htable, e, after, he, hread, ((hold _ htable).1 (.inr hend)).1⟩

/-- An empty file gets no header, and a last line without an end is joined with the new row. -/
theorem append_joins_or_beheads :
    let file (text : String) : Directory := ⟨[(["a.csv"], .bytes text.toUTF8)], []⟩
    let row : Row := ⟨"abc", 2, "Ant", 2, 0, 1, 0⟩
    let line := "abc,2,Ant,2,0,1,0\r\n"
    let cut := "session_id,round,species,count,infections,moves,aborted\r\nabc,1,Ant,2,0,0,0"
    (∃ e, append (file "") "a.csv" [row.fields] = (e, .ok ()) ∧
      e.read "a.csv" = .ok line.toUTF8 ∧ ¬ Csv.IsTable line fieldNames [row.fields]) ∧
    Csv.IsTable cut fieldNames [["abc", "1", "Ant", "2", "0", "0", "0"]] ∧
    ∃ e, append (file cut) "a.csv" [row.fields] = (e, .ok ()) ∧
      e.read "a.csv" = .ok (cut ++ line).toUTF8 ∧
      Csv.records (cut ++ line) = [fieldNames,
        ["abc", "1", "Ant", "2", "0", "0", "0abc", "2", "Ant", "2", "0", "1", "0"]] ∧
      ¬ Csv.IsTable (cut ++ line) fieldNames
        ([["abc", "1", "Ant", "2", "0", "0", "0"]] ++ [row.fields]) := by
  intro file row line cut
  have hwrite : Csv.write [row.fields] = line := by decide +kernel
  have hwritable (text : String) : (file text).Writable "a.csv" := ⟨file text, _, rfl, rfl⟩
  have hread {text : String} {e : Directory}
      (h : append (file text) "a.csv" [row.fields] = (e, .ok ())) :
      e.read "a.csv" = .ok (text ++ line).toUTF8 :=
    hwrite ▸ read_append_of_held (show held "a.csv" (file text) = _ from rfl) h
  have hcut : Csv.IsTable cut fieldNames [["abc", "1", "Ant", "2", "0", "0", "0"]] :=
    ⟨fieldNames.map fun n => ⟨n, false⟩, [["abc", "1", "Ant", "2", "0", "0", "0"].map
      fun f => ⟨f, false⟩], by decide +kernel, by decide +kernel, by decide +kernel⟩
  have hjoined : Csv.records (cut ++ line) = [fieldNames,
      ["abc", "1", "Ant", "2", "0", "0", "0abc", "2", "Ant", "2", "0", "1", "0"]] := by decide +kernel
  have hopen : ¬ Csv.EndsLine cut := by decide +kernel
  obtain ⟨e, he⟩ := append_of_writable (hwritable "") [row.fields]
  obtain ⟨f, hf⟩ := append_of_writable (hwritable cut) [row.fields]
  have hempty : e.read "a.csv" = .ok line.toUTF8 := by
    rw [hread he, String.empty_append]
  refine ⟨⟨e, he, hempty, ?_⟩, hcut, f, hf, hread hf, hjoined, ?_⟩
  · exact hwrite ▸ not_isTable_write [row] _
  · exact hwrite ▸ hcut.not_append hopen (fields_ne_nil [row]) _

end Vivarium.Ledger
