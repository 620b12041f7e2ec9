import Mathlib.Data.List.ProdSigma
import Vivarium.Proofs.Analysis.Legible
import Vivarium.Proofs.Counting

/-!
What the analysis finds of a run in a ledger that other runs were entered into at the same time: its
rounds, and in each of them its own counts and events.
-/
namespace Vivarium

open Analysis

/-- A run from its first round on. Its species stay the same, and no two have one label. -/
structure Chronicle where
  session : String
  labels : List String
  rounds : List Counting
  labelled : labels ≠ []
  distinct : labels.Nodup
  begun : rounds ≠ []
  numbered : rounds.map (·.tally.round) = (List.range rounds.length).map fun i : Nat => 1 + (i : Int)
  settled : ∀ g ∈ rounds, Keyed.keys g.counts = labels
  tallied : ∀ g ∈ rounds, 0 ≤ g.tally.infections ∧ 0 ≤ g.tally.moves ∧ 0 ≤ g.tally.aborted

namespace Chronicle

/-- The sheets tell of each round, under its number and in order, what was counted in it and what
happened in it, in numbers of the binary format (see `Binary64.ofRat_natCast_of_le`). -/
structure Tells (c : Chronicle) (counts events : Sheet) : Prop where
  countRounds : counts.rounds = (List.range c.rounds.length).map fun i : Nat => .whole (1 + i)
  labels : counts.columns.Perm c.labels
  counts : counts.values.map (·.map (·.map Average.value)) =
    c.rounds.map fun g => counts.columns.map fun l =>
      (Keyed.get? l g.counts).map fun n => .ofRat (n : Rat)
  eventRounds : events.rounds = (List.range c.rounds.length).map fun i : Nat => .whole (1 + i)
  eventNames : events.columns = ["infections", "moves", "aborted"]
  events : events.values.map (·.map (·.map Average.value)) =
    c.rounds.map fun g => [g.tally.infections, g.tally.moves, g.tally.aborted].map fun n =>
      some (.ofRat (n : Rat))

def ofRun (session : String) {w : World} (hknown : w.Known) (hlabelled : w.labels ≠ [])
    (hdistinct : w.labels.Nodup) {n : Nat} (hn : n ≠ 0) {chance : Chance}
    {rounds : List (Tally × World)}
    (hrounds : (Round.runMany (fun t v => .ok (t, v)) 1 n w chance).result = .ok rounds) :
    Chronicle where
  session
  labels := w.labels
  rounds := rounds.pmap (fun r h => Counting.ofKnown r.1 h) fun r hr =>
    (Round.runMany_settled hknown hrounds r hr).1
  labelled := hlabelled
  distinct := hdistinct
  begun := by
    have hlength := congrArg List.length (Round.numbers_runMany hrounds)
    rw [List.length_map, List.length_map, List.length_range] at hlength
    rw [Ne, List.pmap_eq_nil_iff, ← List.length_eq_zero_iff, hlength]
    exact hn
  numbered := by
    have hnumbers := Round.numbers_runMany hrounds
    have hlength := congrArg List.length hnumbers
    rw [List.length_map, List.length_map, List.length_range] at hlength
    rw [List.map_pmap, List.length_pmap, hlength, ← hnumbers]
    exact List.pmap_eq_map (f := fun r : Tally × World => r.1.round) _
  settled := by
    intro g hg
    obtain ⟨r, hr, rfl⟩ := List.mem_pmap.1 hg
    have hlabels : r.2.labels = w.labels := by
      rw [World.labels, (Round.runMany_settled hknown hrounds r hr).2.1, World.labels]
    rw [Counting.keys_counts _ (hlabels ▸ hdistinct)]
    exact hlabels
  tallied := by
    intro g hg
    obtain ⟨r, hr, rfl⟩ := List.mem_pmap.1 hg
    exact (Round.runMany_settled hknown hrounds r hr).2.2

variable (c : Chronicle)

def rows : List Ledger.Row := c.rounds.flatMap (·.rows c.session)

theorem pairwise_rounds : (c.rounds.map (·.tally.round)).Pairwise (· < ·) := by
  rw [c.numbered, List.pairwise_map]
  exact List.pairwise_lt_range.imp fun h => by omega

theorem round_bounds {g : Counting} (hg : g ∈ c.rounds) :
    1 ≤ g.tally.round ∧ g.tally.round ≤ c.rounds.length := by
  have hmem : g.tally.round ∈ c.rounds.map (·.tally.round) := List.mem_map_of_mem hg
  rw [c.numbered] at hmem
  obtain ⟨i, hi, hround⟩ := List.mem_map.1 hmem
  have hlt := List.mem_range.1 hi
  omega

theorem mem_rows {r : Ledger.Row} :
    r ∈ c.rows ↔ ∃ g ∈ c.rounds, ∃ count ∈ g.counts, g.row c.session count = r := by
  simp [rows, Counting.rows]

theorem counts_ne_nil {g : Counting} (hg : g ∈ c.rounds) : g.counts ≠ [] := fun hnone => by
  have hsettled := c.settled g hg
  rw [hnone] at hsettled
  exact c.labelled hsettled.symm

theorem exists_row {g : Counting} (hg : g ∈ c.rounds) : ∃ count, g.row c.session count ∈ c.rows := by
  obtain ⟨count, hcount⟩ := List.exists_mem_of_ne_nil g.counts (c.counts_ne_nil hg)
  exact ⟨count, c.mem_rows.2 ⟨g, hg, count, hcount, rfl⟩⟩

theorem rows_ne_nil : c.rows ≠ [] := by
  obtain ⟨g, hg⟩ := List.exists_mem_of_ne_nil c.rounds c.begun
  obtain ⟨count, hr⟩ := c.exists_row hg
  exact List.ne_nil_of_mem hr

theorem nodup_rows : (c.rows.map fun r => (r.round, r.species)).Nodup := by
  have hkeys : c.rows.map (fun r => (r.round, r.species)) =
      (c.rounds.map (·.tally.round)).product c.labels := by
    rw [rows, List.map_flatMap, List.product, List.flatMap_map]
    refine List.flatMap_congr fun g hg => ?_
    rw [← c.settled g hg, Counting.rows, Keyed.keys, List.map_map, List.map_map]
    rfl
  rw [hkeys]
  exact c.pairwise_rounds.nodup.product c.distinct

theorem isLegible_of_mem_rows (hsession : IsPlain c.session) (hlabels : ∀ l ∈ c.labels, IsPlain l)
    (hfew : c.rounds.length < 2 ^ 64) {r : Ledger.Row} (hr : r ∈ c.rows) : r.IsLegible := by
  obtain ⟨g, hg, count, hcount, rfl⟩ := c.mem_rows.1 hr
  have hlabel : count.1 ∈ c.labels := c.settled g hg ▸ List.mem_map_of_mem hcount
  have hround := c.round_bounds hg
  obtain ⟨hinfections, hmoves, haborted⟩ := c.tallied g hg
  refine ⟨hsession, hlabels _ hlabel, ?_, ?_, ?_, hinfections, hmoves, haborted⟩
  · simp only [Counting.row]
    omega
  · simp only [Counting.row, Kind.unsignedEnd]
    omega
  · exact Int.natCast_nonneg _

/-- The labels as the analysis orders them. -/
def columns : List String := Ascending.ofList (fun l m => l < m) c.labels

def countSheet : Sheet where
  rounds := c.rounds.map fun g => .whole g.tally.round
  columns := c.columns
  values := c.rounds.map fun g => c.columns.map fun l => some (.lone (g.count l))

def eventSheet : Sheet where
  rounds := c.rounds.map fun g => .whole g.tally.round
  columns := Sheet.eventColumns
  values := c.rounds.map fun g => (List.range Sheet.eventColumns.length).map fun i =>
    some (.lone (g.events.getD i 0).toNat)

theorem mem_columns {l : String} : l ∈ c.columns ↔ l ∈ c.labels := Ascending.mem_ofList _ _ _

theorem pairwise_columns : c.columns.Pairwise (· < ·) := Ascending.pairwise_ofList c.labels

theorem columns_ne_nil : c.columns ≠ [] := by
  obtain ⟨l, hl⟩ := List.exists_mem_of_ne_nil c.labels c.labelled
  exact List.ne_nil_of_mem (c.mem_columns.2 hl)

theorem exists_count {g : Counting} (hg : g ∈ c.rounds) {l : String} (hl : l ∈ c.labels) :
    Keyed.get? l g.counts = some (g.count l) := by
  rw [← c.settled g hg, Keyed.mem_keys] at hl
  obtain ⟨n, hn⟩ := Option.isSome_iff_exists.1 hl
  rw [Counting.count, hn]
  rfl

theorem tells : c.Tells c.countSheet c.eventSheet := by
  have hrounds : (c.rounds.map fun g => Cell.whole g.tally.round) =
      (List.range c.rounds.length).map fun i : Nat => .whole (1 + i) := by
    have hnumbers := congrArg (List.map Cell.whole) c.numbered
    rw [List.map_map, List.map_map] at hnumbers
    exact hnumbers
  refine ⟨hrounds, ?_, ?_, hrounds, rfl, ?_⟩
  · exact Ascending.perm_ofList c.distinct
  · rw [countSheet, List.map_map]
    refine List.map_congr_left fun g hg => ?_
    rw [Function.comp_apply, List.map_map]
    refine List.map_congr_left fun l hl => ?_
    rw [c.exists_count hg (c.mem_columns.1 hl)]
    simp
  · rw [eventSheet, List.map_map]
    refine List.map_congr_left fun g hg => ?_
    obtain ⟨hinfections, hmoves, haborted⟩ := c.tallied g hg
    have hcast {n : Int} (hn : 0 ≤ n) : ((n.toNat : Nat) : Rat) = (n : Rat) := by
      exact_mod_cast congrArg (Int.cast (R := Rat)) (Int.toNat_of_nonneg hn)
    simp [Sheet.eventColumns, List.range_succ, Counting.events, hcast hinfections, hcast hmoves,
      hcast haborted]

section Sheets

variable {rows : List Ledger.Row} (hlegible : ∀ r ∈ rows, r.IsLegible)
  (hmine : ∀ r ∈ c.rows, r ∈ rows)

include hlegible hmine

theorem ofCounts_rows : Sheet.ofCounts Sheet.summationOf
    (c.rows.map (Ledger.cell rows "round" (toString ·.round)))
    (c.rows.map (Ledger.cell rows "species" (·.species)))
    (c.rows.map (Ledger.cell rows "count" (toString ·.count))) = c.countSheet := by
  have hrounds : c.rows.map (Ledger.cell rows "round" (toString ·.round)) =
      c.rows.map fun r => .whole r.round :=
    List.map_congr_left fun r hr => Ledger.cell_round hlegible (hmine r hr)
  have hspecies : c.rows.map (Ledger.cell rows "species" (·.species)) =
      c.rows.map fun r => .text r.species :=
    List.map_congr_left fun r hr =>
      Ledger.cell_plain (hmine r hr) (fun q hq => (hlegible q hq).species) (by decide)
  have hamount {r : Ledger.Row} (hr : r ∈ c.rows) :=
    Ledger.amount?_cell (hmine r hr) (fun q hq => (hlegible q hq).count)
      (show "count" ∈ Table.numericNames by decide)
  have hmem : ∀ r ∈ c.rows, r.round ∈ c.rounds.map (·.tally.round) ∧ r.species ∈ c.columns ∧
      (Ledger.cell rows "count" (toString ·.count) r).amount?.isSome = true := by
    intro r hr
    refine ⟨?_, ?_, by rw [hamount hr]; rfl⟩ <;> obtain ⟨g, hg, count, hcount, rfl⟩ := c.mem_rows.1 hr
    · exact List.mem_map_of_mem hg
    · rw [mem_columns, ← c.settled g hg]
      exact List.mem_map_of_mem hcount
  have hall : ∀ g ∈ c.rounds, ∀ l ∈ c.columns, ∃ r ∈ c.rows, r.round = g.tally.round ∧
      r.species = l ∧ (Ledger.cell rows "count" (toString ·.count) r).amount? =
        some (.ofRat (g.count l : Rat)) := by
    intro g hg l hl
    have hcount := Keyed.mem_of_get? (c.exists_count hg (c.mem_columns.1 hl))
    have hrow : g.row c.session (l, g.count l) ∈ c.rows := c.mem_rows.2 ⟨g, hg, _, hcount, rfl⟩
    exact ⟨_, hrow, rfl, rfl, hamount hrow⟩
  rw [hrounds, hspecies]
  exact Sheet.ofCounts_eq c.pairwise_rounds c.pairwise_columns c.begun c.columns_ne_nil hmem hall
    c.nodup_rows

/-- The rows of a round differ in what they count only, so that the first of them tells all there is. -/
theorem firstRows_rows : Sheet.firstRows (c.rows.map (Ledger.sessionCell rows))
    (c.rows.map (Ledger.cell rows "round" (toString ·.round)))
    (c.rows.map (Ledger.eventCells rows)) =
      c.rounds.map fun g =>
        (.whole g.tally.round, Ledger.eventCells rows (g.row c.session ("", 0))) := by
  let entry (r : Ledger.Row) : (Cell × Cell) × Cell × List Cell :=
    (((Ledger.sessionCell rows r).key, (Ledger.cell rows "round" (toString ·.round) r).key),
      Ledger.cell rows "round" (toString ·.round) r, Ledger.eventCells rows r)
  let first (g : Counting) : Ledger.Row := g.row c.session ("", 0)
  have hround {g : Counting} (hg : g ∈ c.rounds) :
      Ledger.cell rows "round" (toString ·.round) (first g) = .whole g.tally.round := by
    obtain ⟨count, hr⟩ := c.exists_row hg
    have hcell := Ledger.cell_round hlegible (hmine _ hr)
    exact hcell
  have hentries : c.rows.map entry =
      c.rounds.flatMap fun g => List.replicate g.counts.length (entry (first g)) := by
    rw [Chronicle.rows, List.map_flatMap]
    refine List.flatMap_congr fun g hg => ?_
    rw [Counting.rows, List.map_map]
    change g.counts.map (fun _ => entry (first g)) = _
    exact List.map_const'
  have hkeys : (Keyed.keys (c.rounds.map fun g => entry (first g))).Nodup := by
    refine List.Nodup.of_map Prod.snd ?_
    have hnumbers : (Keyed.keys (c.rounds.map fun g => entry (first g))).map Prod.snd =
        (c.rounds.map (·.tally.round)).map Cell.whole := by
      rw [Keyed.keys, List.map_map, List.map_map, List.map_map]
      refine List.map_congr_left fun g hg => ?_
      exact congrArg Cell.key (hround hg)
    exact hnumbers ▸ c.pairwise_rounds.nodup.map fun _ _ => Cell.whole.inj
  have hfirsts : Keyed.firsts (c.rows.map entry) = c.rounds.map fun g => entry (first g) := by
    rw [hentries]
    exact Keyed.firsts_flatMap_replicate
      (fun g hg => mt List.length_eq_zero_iff.1 (c.counts_ne_nil hg)) hkeys
  rw [Sheet.firstRows_map]
  refine (congrArg (List.map Prod.snd) hfirsts).trans ?_
  rw [List.map_map]
  exact List.map_congr_left fun g hg =>
    congrArg (·, Ledger.eventCells rows (first g)) (hround hg)

theorem ofEvents_rows : Sheet.ofEvents Sheet.summationOf (Sheet.firstRows
    (c.rows.map (Ledger.sessionCell rows))
    (c.rows.map (Ledger.cell rows "round" (toString ·.round)))
    (c.rows.map (Ledger.eventCells rows))) = c.eventSheet := by
  rw [c.firstRows_rows hlegible hmine]
  refine Sheet.ofEvents_eq c.pairwise_rounds fun g hg => ?_
  obtain ⟨count, hr⟩ := c.exists_row hg
  have hamounts := Ledger.amount?_eventCells hlegible (hmine _ hr)
  exact hamounts

end Sheets

end Chronicle

/-- The end of a round that is entered for a session. -/
structure Entry where
  session : String
  counting : Counting
  deriving DecidableEq

namespace Entry

def rows (x : Entry) : List Ledger.Row := x.counting.rows x.session

theorem flatten_eq {entries : List Entry} {batches : List (List Ledger.Row)}
    (h : entries.map (fun x => Ledger.rows x.counting.tally x.counting.world x.session) =
      batches.map .ok) : batches.flatten = entries.flatMap rows := by
  have hok : (entries.map rows).map (Except.ok (ε := Fault)) = batches.map .ok := by
    rw [← h, List.map_map]
    exact List.map_congr_left fun x _ => (x.counting.rows_eq x.session).symm
  rw [← List.map_injective_iff.2 (fun _ _ => Except.ok.inj) hok, List.flatMap_def]

theorem filter_rows (entries : List Entry) (s : String) :
    (entries.flatMap rows).filter (·.session = s) =
      (entries.filter (·.session = s)).flatMap rows := by
  induction entries with
  | nil => rfl
  | cons x xs ih =>
    rw [List.flatMap_cons, List.filter_append, ih]
    by_cases hx : x.session = s
    · have hall : x.rows.filter (·.session = s) = x.rows :=
        List.filter_eq_self.2 (List.forall_mem_map.2 fun count _ => decide_eq_true hx)
      rw [hall, List.filter_cons_of_pos (by simpa using hx), List.flatMap_cons]
    · have hnone : x.rows.filter (·.session = s) = [] :=
        List.filter_eq_nil_iff.2 (List.forall_mem_map.2 fun count _ => mt of_decide_eq_true hx)
      rw [hnone, List.filter_cons_of_neg (by simpa using hx), List.nil_append]

end Entry

/-- The entries of several runs: those of each run in its order, and no others. -/
structure Interleaves (entries : List Entry) (chronicles : List Chronicle) : Prop where
  own : ∀ c ∈ chronicles, (entries.filter (·.session = c.session)).map (·.counting) = c.rounds
  known : ∀ x ∈ entries, ∃ c ∈ chronicles, c.session = x.session

namespace Interleaves

variable {entries : List Entry} {chronicles : List Chronicle} (h : Interleaves entries chronicles)

include h

theorem filter_rows {c : Chronicle} (hc : c ∈ chronicles) :
    (entries.flatMap Entry.rows).filter (·.session = c.session) = c.rows := by
  rw [Entry.filter_rows, Chronicle.rows, ← h.own c hc, List.flatMap_map]
  refine List.flatMap_congr fun x hx => ?_
  rw [Entry.rows, of_decide_eq_true (List.mem_filter.1 hx).2]

theorem mem_chronicle {r : Ledger.Row} (hr : r ∈ entries.flatMap Entry.rows) :
    ∃ c ∈ chronicles, r ∈ c.rows := by
  obtain ⟨x, hx, hrx⟩ := List.mem_flatMap.1 hr
  obtain ⟨c, hc, hsession⟩ := h.known x hx
  obtain ⟨count, -, rfl⟩ := List.mem_map.1 hrx
  exact ⟨c, hc, h.filter_rows hc ▸ List.mem_filter.2 ⟨hr, decide_eq_true hsession.symm⟩⟩

end Interleaves

def World.walk : World :=
  (Act.spawn 0 ⟨0, 0⟩ .east).after <| (Act.enrol hopper).after ⟨.empty 3 1, [], []⟩

theorem World.walk_reachable : walk.Reachable Act.Placed :=
  ⟨3, 1, ⟨.empty 3 1, [], []⟩, _, rfl, .act (.act .start ⟨⟩) ⟨by decide, by decide⟩⟩

namespace Chronicle

/-- The first rounds of a run, each in the order that is given for it. -/
def opening (w : World) (orders : List (List Nat)) : Except Fault (List (Tally × World)) :=
  (Round.runMany (fun t v => .ok (t, v)) 1 orders.length w ⟨[], orders, ⟨#[], 0⟩⟩).result

def siege (session : String) : Chronicle :=
  have hrounds : opening World.siege [[1, 0], [0, 1]] =
      .ok ((opening World.siege [[1, 0], [0, 1]]).toOption.getD []) := by decide +kernel
  .ofRun session (World.known_of_reachable World.siege_reachable) (by decide +kernel)
    (by decide +kernel) (by decide) hrounds

def walk (session : String) : Chronicle :=
  have hrounds : opening World.walk [[0]] =
      .ok ((opening World.walk [[0]]).toOption.getD []) := by decide +kernel
  .ofRun session (World.known_of_reachable World.walk_reachable) (by decide +kernel)
    (by decide +kernel) (by decide) hrounds

end Chronicle

namespace Chronicle

end Chronicle
end Vivarium
