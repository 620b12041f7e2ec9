import Vivarium.Proofs.Analysis.Chronicle
import Vivarium.Proofs.Analysis.Headings

/-!
Names of species in the analysis. A name is free text, but it is read like any other cell of its column,
so that it may be taken for a number, for a truth value or for nothing at all.
-/
namespace Vivarium

open Analysis

/-- Hoppers by several names, before any has come. -/
def World.named (names : List String) : World :=
  ⟨.empty 1 1, names.map fun name => { hopper with name }, []⟩

theorem World.known_named (names : List String) : (named names).Known := by
  intro id c hc
  simp [named] at hc

theorem Analysis.Table.kindOf_species (texts : List String) :
    kindOf "species" texts = Kind.ofTexts texts := by
  rw [kindOf, if_neg (by decide)]

namespace Chronicle

variable (c : Chronicle)

def kind : Kind := Table.kindOf "species" c.labels

theorem repeats_labels : Repeats (c.rows.map (·.species)) c.labels := by
  rw [rows, List.map_flatMap]
  refine .flatMap c.begun fun g hg => ?_
  rw [Counting.rows, List.map_map, ← c.settled g hg]
  rfl

theorem kindOf_species : Table.kindOf "species" (c.rows.map (·.species)) = c.kind := by
  rw [kind, Table.kindOf_species, Table.kindOf_species, Kind.ofTexts_repeats c.repeats_labels]

theorem keys_species : Sheet.keys (c.rows.map (Ledger.cell c.rows "species" (·.species))) =
    Sheet.keys (c.labels.map c.kind.cell) := by
  have hcells : c.rows.map (Ledger.cell c.rows "species" (·.species)) =
      (c.rows.map (·.species)).map c.kind.cell := by
    rw [List.map_map]
    exact List.map_congr_left fun r _ => by rw [Ledger.cell, kindOf_species, Function.comp_apply]
  rw [hcells, Sheet.keys_repeats c.repeats_labels]

theorem columns_table : ∃ counts, Sheet.counts (Ledger.table c.rows) = .ok counts ∧
    counts.columns = (Sheet.keys (c.labels.map c.kind.cell)).map Cell.label := by
  have hevery : Ledger.part c.rows (fun _ => true) = Ledger.table c.rows := by
    rw [Ledger.part, List.filter_true, Ledger.table]
  have hcounts := Ledger.counts_part c.rows fun _ => true
  rw [hevery, List.filter_true] at hcounts
  refine ⟨_, hcounts, ?_⟩
  have hrounds : ∀ r ∈ c.rows, 0 ≤ r.round := fun r hr => by
    obtain ⟨g, hg, count, -, rfl⟩ := c.mem_rows.1 hr
    exact Int.le_trans (by decide) (c.round_bounds hg).1
  have hnumbers : ∀ r ∈ c.rows, 0 ≤ r.count := fun r hr => by
    obtain ⟨g, -, count, -, rfl⟩ := c.mem_rows.1 hr
    exact Int.natCast_nonneg _
  rw [Sheet.columns_ofCounts, keys_species]
  · intro r hr
    have hround := Ledger.amount?_cell hr hrounds (show "round" ∈ Table.numericNames by decide)
    exact Cell.isPresent_of_amount? hround
  · intro r hr
    have hcount := Ledger.amount?_cell hr hnumbers (show "count" ∈ Table.numericNames by decide)
    exact ⟨_, hcount, .ofRat (Nat.cast_nonneg _)⟩

/-- The first round of hoppers by several names, before any has come. -/
def named (names : List String) (hne : names ≠ [])
    (hdistinct : (World.named names).labels.Nodup) : Chronicle :=
  have hrounds : opening (World.named names) [[]] = .ok [({ round := 1 }, World.named names)] := rfl
  .ofRun "sess0001" (World.known_named names)
    (by simpa [World.labels, Census.labels, World.named] using hne) hdistinct (by decide) hrounds

end Chronicle
end Vivarium
