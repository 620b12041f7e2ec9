import Mathlib.Algebra.BigOperators.Group.Finset.Basic
import Vivarium.Ledger
import Vivarium.Proofs.Analysis.Sheet
import Vivarium.Proofs.Keyed
import Vivarium.Proofs.Number.Whole
import Vivarium.Session

/-!
What happened in a round, averaged over the sessions that have it. The rows of a session's round all tell
the same, so that it makes no difference which of them counts, and a session of many species counts no
more than one of few.
-/
namespace Vivarium.Analysis

namespace Table

/-- The cell of a row in the column of a name. -/
def cell (t : Table) (row : List Cell) (name : String) : Cell :=
  (t.index? name).elim .missing (cellAt row)

/-- What the session of a row is compared by. -/
def session (t : Table) (row : List Cell) : Cell := (t.cell row sessionColumn).key

def round (t : Table) (row : List Cell) : Cell := t.cell row "round"

/-- The sessions that have a round. -/
def sessionsIn (t : Table) (r : Cell) : Finset Cell :=
  ((t.rows.filter (t.round · = r)).map t.session).toFinset

/-- Each row has a round and tells what happened in this round of its session. -/
structure Tallies (t : Table) (total : Cell → Cell → String → Nat) : Prop where
  columns : ∀ name ∈ sessionColumn :: "round" :: Sheet.eventColumns, (t.index? name).isSome = true
  rounds : ∀ row ∈ t.rows, (t.round row).isPresent = true ∧ (t.round row).key = t.round row
  ordered : Ascending.IsLinear Cell.before (t.rows.map t.round)
  events : ∀ row ∈ t.rows, ∀ name ∈ Sheet.eventColumns,
    (t.cell row name).amount? = some (.ofRat (total (t.session row) (t.round row) name : Rat))

/-- One row for each round of each session. -/
structure Picks (t : Table) (picked : List (List Cell)) : Prop where
  mem : ∀ row ∈ picked, row ∈ t.rows
  nodup : (picked.map fun row => (t.session row, t.round row)).Nodup
  exists_of_mem : ∀ row ∈ t.rows, ∃ p ∈ picked,
    t.session p = t.session row ∧ t.round p = t.round row

theorem column?_eq {t : Table} {name : String} (h : (t.index? name).isSome = true) :
    t.column? name = some (t.rows.map (t.cell · name)) := by
  obtain ⟨i, hi⟩ := Option.isSome_iff_exists.1 h
  simp only [column?, cell, hi, Option.map_some, Option.elim_some]

end Table

/-- The average of the totals of some sessions, each of which counts once. It is the exact mean, rounded
to the nearest number, as long as the totals add up to no more than `2 ^ 53`. -/
structure Average.IsMean (a : Average) (sessions : Finset Cell) (total : Cell → Nat) : Prop where
  amounts : a.amounts.Perm (sessions.toList.map fun s => .ofRat (total s : Rat))
  value : ∑ s ∈ sessions, total s ≤ 2 ^ 53 →
    a.value = .ofRat ((∑ s ∈ sessions, total s : Nat) / (sessions.card : Rat))
  number : a.summation = .plain ∨ ∑ s ∈ sessions, total s ≤ 2 ^ 53 → a.number? = some a

namespace Sheet

/-- The sheet of events with an average for each round and column, where it is a number. -/
def ofMeans (rounds : List Cell) (mean : Cell → String → Average) : Sheet where
  rounds := rounds
  columns := eventColumns
  values := rounds.map fun r => eventColumns.map fun name => (mean r name).number?

section Rows

variable {t : Table}

theorem eventRows_eq (h : ∀ name ∈ eventColumns, (t.index? name).isSome = true) :
    eventRows t = .ok (t.rows.map fun row => eventColumns.map (t.cell row)) := by
  have habsent : eventColumns.filter (fun name => (t.index? name).isNone) = [] :=
    List.filter_eq_nil_iff.2 fun name hname => by simp [Option.isSome_iff_ne_none.1 (h name hname)]
  have hplaces (row : List Cell) :
      (eventColumns.filterMap t.index?).map (Table.cellAt row) = eventColumns.map (t.cell row) := by
    rw [List.map_filterMap]
    refine (List.filterMap_congr fun name hname => ?_).trans (congrFun List.filterMap_eq_map' _)
    obtain ⟨i, hi⟩ := Option.isSome_iff_exists.1 (h name hname)
    simp only [Table.cell, hi, Option.map_some, Option.elim_some]
  unfold eventRows
  simp only [habsent, List.isEmpty_nil, if_true, hplaces]

theorem events_eq (rule : List Cell → Summation)
    (h : ∀ name ∈ sessionColumn :: "round" :: eventColumns, (t.index? name).isSome = true) :
    events t rule = .ok (ofEvents rule (firstRows
      (t.rows.map (t.cell · sessionColumn)) (t.rows.map t.round)
      (t.rows.map fun row => eventColumns.map (t.cell row)))) := by
  obtain ⟨hsession, hround, hevents⟩ : (t.index? sessionColumn).isSome = true ∧
      (t.index? "round").isSome = true ∧ ∀ name ∈ eventColumns, (t.index? name).isSome = true := by
    simpa only [List.forall_mem_cons] using h
  unfold events Table.require
  rw [Table.column?_eq hround, eventRows_eq hevents, ← sessionColumn, Table.column?_eq hsession]
  rfl

theorem exists_picks (hrounds : ∀ row ∈ t.rows, (t.round row).key = t.round row)
    (events : List Cell → List Cell) : ∃ picked, t.Picks picked ∧
      firstRows (t.rows.map (t.cell · sessionColumn)) (t.rows.map t.round) (t.rows.map events) =
        picked.map fun row => (t.round row, events row) := by
  let entry (row : List Cell) := ((t.session row, (t.round row).key), t.round row, events row)
  obtain ⟨picked, hsub, hfirsts⟩ :=
    List.sublist_map_iff.1 (Keyed.firsts_sublist (t.rows.map entry))
  have hkeys : Keyed.keys (picked.map entry) =
      picked.map fun row => (t.session row, t.round row) := by
    rw [Keyed.keys, List.map_map]
    exact List.map_congr_left fun row hrow => congrArg (t.session row, ·) (hrounds row (hsub.mem hrow))
  refine ⟨picked, ⟨fun row hrow => hsub.mem hrow, ?_, fun row hrow => ?_⟩, ?_⟩
  · rw [← hkeys, ← hfirsts]
    exact Keyed.nodup_firsts _
  · have hmem : (t.session row, t.round row) ∈ Keyed.keys (t.rows.map entry) := by
      refine List.mem_map.2 ⟨entry row, List.mem_map_of_mem hrow, ?_⟩
      exact congrArg (t.session row, ·) (hrounds row hrow)
    rw [← Keyed.mem_keys_firsts, hfirsts, hkeys] at hmem
    obtain ⟨p, hp, hkey⟩ := List.mem_map.1 hmem
    exact ⟨p, hp, Prod.mk.inj hkey⟩
  · rw [firstRows_map]
    exact (congrArg (List.map Prod.snd) hfirsts).trans List.map_map

end Rows

end Sheet

namespace Table

variable {t : Table}

theorem Tallies.of_whole {total : Cell → Cell → String → Nat} {rounds : List Int}
    (hcolumns : ∀ name ∈ sessionColumn :: "round" :: Sheet.eventColumns, (t.index? name).isSome = true)
    (hrounds : t.rows.map t.round = rounds.map .whole)
    (hevents : ∀ row ∈ t.rows, ∀ name ∈ Sheet.eventColumns,
      (t.cell row name).amount? = some (.ofRat (total (t.session row) (t.round row) name : Rat))) :
    t.Tallies total where
  columns := hcolumns
  rounds row hrow := by
    obtain ⟨n, -, hn⟩ := List.mem_map.1 (hrounds ▸ List.mem_map_of_mem hrow)
    exact hn ▸ ⟨rfl, rfl⟩
  ordered := by
    refine ⟨Int, inferInstance, .whole, fun _ _ => Cell.whole.inj, fun _ _ => rfl, fun r hr => ?_⟩
    obtain ⟨n, -, hn⟩ := List.mem_map.1 (hrounds ▸ hr)
    exact ⟨n, hn⟩
  events := hevents

theorem Picks.perm_sessionsIn {picked : List (List Cell)} (h : t.Picks picked) (r : Cell) :
    ((picked.filter (t.round · = r)).map t.session).Perm (t.sessionsIn r).toList := by
  have hnodup : ((picked.filter (t.round · = r)).map t.session).Nodup := by
    have hkeys := (h.nodup.of_map).filter (t.round · = r)
    refine hkeys.map_on fun p hp q hq hsession => ?_
    have hround := (of_decide_eq_true (List.mem_filter.1 hp).2).trans
      (of_decide_eq_true (List.mem_filter.1 hq).2).symm
    exact List.inj_on_of_nodup_map h.nodup (List.mem_of_mem_filter hp) (List.mem_of_mem_filter hq)
      (Prod.ext hsession hround)
  refine (List.perm_ext_iff_of_nodup hnodup (Finset.nodup_toList _)).2 fun s => ?_
  simp only [sessionsIn, Finset.mem_toList, List.mem_toFinset, List.mem_map, List.mem_filter,
    decide_eq_true_eq]
  constructor
  · rintro ⟨p, ⟨hp, hround⟩, hsession⟩
    exact ⟨p, ⟨h.mem p hp, hround⟩, hsession⟩
  · rintro ⟨row, ⟨hrow, hround⟩, hsession⟩
    obtain ⟨p, hp, hpsession, hpround⟩ := h.exists_of_mem row hrow
    exact ⟨p, ⟨hp, hpround.trans hround⟩, hpsession.trans hsession⟩

variable {total : Cell → Cell → String → Nat} (h : t.Tallies total)

include h

theorem Tallies.perm {rows : List (List Cell)} (hrows : rows.Perm t.rows) :
    Tallies { t with rows } total where
  columns := h.columns
  rounds row hrow := h.rounds row (hrows.mem_iff.1 hrow)
  ordered := h.ordered.mono fun _ hr => (hrows.map t.round).mem_iff.1 hr
  events row hrow := h.events row (hrows.mem_iff.1 hrow)

end Table

theorem Table.sessionsIn_perm (t : Table) {rows : List (List Cell)} (hrows : rows.Perm t.rows)
    (r : Cell) : sessionsIn { t with rows } r = t.sessionsIn r :=
  List.toFinset_eq_of_perm _ _ ((hrows.filter _).map _)

/-- Numbers that some sessions have one of each are averaged over the sessions. -/
theorem Average.isMean {γ : Type} {xs : List γ} {session : γ → Cell} {sessions : Finset Cell}
    (hperm : (xs.map session).Perm sessions.toList) (total : Cell → Nat) (summation : Summation) :
    IsMean ⟨xs.map fun x => .ofRat (total (session x) : Rat), summation⟩ sessions total := by
  have htotals : (xs.map fun x => total (session x)).Perm (sessions.toList.map total) := by
    have hmap := hperm.map total
    rwa [List.map_map] at hmap
  have hsum : (xs.map fun x => total (session x)).sum = ∑ s ∈ sessions, total s :=
    htotals.sum_eq.trans (Finset.sum_map_toList sessions total)
  have hlength : xs.length = sessions.card := by
    rw [← Finset.length_toList, ← hperm.length_eq, List.length_map]
  have hvalue (hle : ∑ s ∈ sessions, total s ≤ 2 ^ 53) :
      value ⟨xs.map fun x => .ofRat (total (session x) : Rat), summation⟩ =
        .ofRat ((∑ s ∈ sessions, total s : Nat) / (sessions.card : Rat)) := by
    have htotal := summation.sum_map_ofRat (hsum.trans_le hle)
    rw [hsum, List.map_map, Function.comp_def] at htotal
    rw [value, htotal, List.length_map, hlength, Binary64.divNat]
  refine ⟨?_, hvalue, ?_⟩
  · have hmap := hperm.map fun s => Binary64.ofRat (total s : Rat)
    rwa [List.map_map] at hmap
  · rintro (rfl | hle)
    · exact number?_plain (List.forall_mem_map.2 fun x _ => .ofRat (Nat.cast_nonneg _))
    · refine number?_of_ne_undefined ?_
      rw [hvalue hle]
      exact (Binary64.IsAmount.ofRat (by positivity)).ne_undefined

namespace Sheet

theorem averageAt_map {γ : Type} {xs : List γ} {key cell : γ → Cell} {amount : γ → Nat} {k : Cell}
    (hcell : ∀ x ∈ xs, key x = k → (cell x).amount? = some (.ofRat (amount x : Rat)))
    (hk : k ∈ xs.map key) (summation : Summation) :
    averageAt summation k (xs.map fun x => (key x, cell x)) = Average.number?
      ⟨(xs.filter (key · = k)).map fun x => .ofRat (amount x : Rat), summation⟩ := by
  have hamounts : ((xs.map fun x => (key x, cell x)).filter (·.1 = k)).filterMap (·.2.amount?) =
      (xs.filter (key · = k)).map fun x => Binary64.ofRat (amount x : Rat) := by
    rw [List.filter_map, List.filterMap_map]
    refine (List.filterMap_congr fun x hx => ?_).trans (congrFun List.filterMap_eq_map' _)
    obtain ⟨hmem, hkey⟩ := List.mem_filter.1 hx
    exact hcell x hmem (of_decide_eq_true hkey)
  rw [averageAt, hamounts]
  refine Average.of?_of_ne_nil ?_ summation
  obtain ⟨x, hx, rfl⟩ := List.mem_map.1 hk
  exact mt List.map_eq_nil_iff.1
    (List.ne_nil_of_mem (List.mem_filter.2 ⟨hx, decide_eq_true rfl⟩))

section Picked

variable {t : Table} {total : Cell → Cell → String → Nat} {picked : List (List Cell)}
  (h : t.Tallies total) (hpicks : t.Picks picked)

include hpicks in
theorem mem_rounds_picked (r : Cell) : r ∈ picked.map t.round ↔ r ∈ t.rows.map t.round := by
  refine ⟨List.forall_mem_map.2 (fun p hp => List.mem_map_of_mem (hpicks.mem p hp)) r,
    List.forall_mem_map.2 (fun row hrow => ?_) r⟩
  obtain ⟨p, hp, -, hround⟩ := hpicks.exists_of_mem row hrow
  exact hround ▸ List.mem_map_of_mem hp

include h hpicks

theorem keys_rounds_picked :
    keys (picked.map t.round) = Ascending.ofList Cell.before (t.rows.map t.round) := by
  have hmem := mem_rounds_picked hpicks
  rw [keys_of_key_eq (List.forall_mem_map.2 fun p hp => (h.rounds p (hpicks.mem p hp)).1)
    (List.forall_mem_map.2 fun p hp => (h.rounds p (hpicks.mem p hp)).2)]
  exact (h.ordered.mono fun r hr => (hmem r).1 hr).ofList_eq hmem

theorem averageAt_picked {r : Cell} (hr : r ∈ t.rows.map t.round) {name : String}
    (hname : name ∈ eventColumns) (summation : Summation) :
    averageAt summation r.key (picked.map fun row => ((t.round row).key, t.cell row name)) =
      Average.number? ⟨(picked.filter (t.round · = r)).map fun row =>
        .ofRat (total (t.session row) r name : Rat), summation⟩ := by
  have hkeys : (picked.map fun row => ((t.round row).key, t.cell row name)) =
      picked.map fun row => (t.round row, t.cell row name) :=
    List.map_congr_left fun p hp => by rw [(h.rounds p (hpicks.mem p hp)).2]
  have hkey : r.key = r := by
    obtain ⟨row, hrow, rfl⟩ := List.mem_map.1 hr
    exact (h.rounds row hrow).2
  rw [hkeys, hkey]
  exact averageAt_map (fun p hp hround => hround ▸ h.events p (hpicks.mem p hp) name hname)
    ((mem_rounds_picked hpicks r).2 hr) summation

theorem ofEvents_picked (rule : List Cell → Summation) :
    ofEvents rule (picked.map fun row => (t.round row, eventColumns.map (t.cell row))) =
      ofMeans (Ascending.ofList Cell.before (t.rows.map t.round)) fun r name =>
        ⟨(picked.filter (t.round · = r)).map fun row =>
          .ofRat (total (t.session row) r name : Rat), rule (picked.map (t.cell · name))⟩ := by
  rw [ofEvents_map, keys_rounds_picked h hpicks]
  refine congrArg (Sheet.mk _ _ eventColumns) (List.map_congr_left fun r hr => ?_)
  have hround := (Ascending.mem_ofList _ _ _).1 hr
  exact List.map_congr_left (l := eventColumns) fun name hname =>
    averageAt_picked h hpicks hround hname (rule (picked.map (t.cell · name)))

end Picked

theorem events_eq_ofMeans {t : Table} {total : Cell → Cell → String → Nat} (h : t.Tallies total)
    (rule : List Cell → Summation) :
    ∃ mean, events t rule = .ok (ofMeans (Ascending.ofList Cell.before (t.rows.map t.round)) mean) ∧
      ∀ r name, (mean r name).IsMean (t.sessionsIn r) (total · r name) := by
  obtain ⟨picked, hpicks, hfirst⟩ :=
    exists_picks (fun row hrow => (h.rounds row hrow).2) fun row => eventColumns.map (t.cell row)
  have hevents := events_eq rule h.columns
  rw [hfirst, ofEvents_picked h hpicks] at hevents
  exact ⟨_, hevents, fun r name => Average.isMean (hpicks.perm_sessionsIn r) (total · r name) _⟩

/-- Each round is told of once, in ascending order, with the averages over the sessions that have it. The
order of the rows is of no account, but for the rounding of sums that are too great to be exact, and
neither is the way in which a column is summed. -/
theorem events_average_sessions {t : Table} {total : Cell → Cell → String → Nat}
    (h : t.Tallies total) (rule : List Cell → Summation) :
    ∃ (rounds : List Cell) (mean : Cell → String → Average),
      events t rule = .ok (ofMeans rounds mean) ∧
      rounds.Nodup ∧ rounds.Pairwise (fun r r' => r.before r' = true) ∧
      (∀ r, r ∈ rounds ↔ ∃ row ∈ t.rows, t.round row = r) ∧
      (∀ r ∈ rounds, ∀ name ∈ eventColumns,
        (mean r name).IsMean (t.sessionsIn r) (total · r name)) ∧
      ∀ rows : List (List Cell), rows.Perm t.rows → ∃ mean' : Cell → String → Average,
        events { t with rows } rule = .ok (ofMeans rounds mean') ∧
        ∀ r ∈ rounds, ∀ name ∈ eventColumns,
          (mean' r name).amounts.Perm (mean r name).amounts ∧
          (∑ s ∈ t.sessionsIn r, total s r name ≤ 2 ^ 53 →
            (mean' r name).value = (mean r name).value) := by
  have hmem (r : Cell) : r ∈ Ascending.ofList Cell.before (t.rows.map t.round) ↔
      ∃ row ∈ t.rows, t.round row = r := (Ascending.mem_ofList _ _ _).trans List.mem_map
  obtain ⟨mean, hevents, hmean⟩ := events_eq_ofMeans h rule
  refine ⟨_, mean, hevents, h.ordered.nodup_ofList, h.ordered.pairwise_before, hmem,
    fun r _ name _ => hmean r name, fun rows hrows => ?_⟩
  obtain ⟨mean', hevents', hmean'⟩ := events_eq_ofMeans (h.perm hrows) rule
  have hordered : Ascending.IsLinear Cell.before (rows.map t.round) := (h.perm hrows).ordered
  have hrounds : Ascending.ofList Cell.before (rows.map t.round) =
      Ascending.ofList Cell.before (t.rows.map t.round) :=
    hordered.ofList_eq fun _ => (hrows.map t.round).mem_iff
  refine ⟨mean', hrounds ▸ hevents', fun r _ name _ => ?_⟩
  have hold := hmean r name
  have hnew := hmean' r name
  rw [t.sessionsIn_perm hrows] at hnew
  exact ⟨hnew.amounts.trans hold.amounts.symm, fun hle => (hnew.value hle).trans (hold.value hle).symm⟩

/-- A session of two species counts for no more than one of a single species. -/
theorem events_average_sessions_uneven :
    let row (session : String) (round : Int) (species : String) (infections : Int) : List Cell :=
      [.text session, .whole round, .text species, .whole 5, .whole infections, .whole 0, .whole 0]
    let t : Table := ⟨Ledger.fieldNames, [row "old" 1 "Rover" 2, row "new" 1 "Rover" 1,
      row "old" 1 "Trap" 2, row "new" 2 "Rover" 4]⟩
    let records := [Ledger.fieldNames, ["old", "1", "Rover", "5", "2", "0", "0"],
      ["new", "1", "Rover", "5", "1", "0", "0"], ["old", "1", "Trap", "5", "2", "0", "0"],
      ["new", "2", "Rover", "5", "4", "0", "0"]]
    let total (s r : Cell) (name : String) : Nat :=
      if name ≠ "infections" then 0
      else if s = .text "old" then 2 else if r = .whole 1 then 1 else 4
    (Table.ofText (Csv.write records)).toOption = some t ∧ t.Tallies total ∧
      ∀ rule ∈ [summationOf, fun _ => .compensated],
      ∃ (rounds : List Cell) (mean mean' : Cell → String → Average),
        events t rule = .ok (ofMeans rounds mean) ∧
        events { t with rows := t.rows.reverse } rule = .ok (ofMeans rounds mean') ∧
        .whole 1 ∈ rounds ∧ (mean (.whole 1) "infections").value = .finite (3 / 2) ∧
        (mean' (.whole 1) "infections").value = .finite (3 / 2) := by
  intro row t records total
  have hrounds : t.rows.map t.round = [1, 1, 1, 2].map .whole := rfl
  have h : t.Tallies total := .of_whole (by decide +kernel) hrounds (by decide +kernel)
  refine ⟨by decide +kernel, h, fun rule _ => ?_⟩
  obtain ⟨rounds, mean, hevents, -, -, hmem, hmean, hperm⟩ := events_average_sessions h rule
  obtain ⟨mean', hevents', hsame⟩ := hperm t.rows.reverse (List.reverse_perm _)
  have hround : .whole 1 ∈ rounds := (hmem _).2 ⟨row "old" 1 "Rover" 2, by simp [t], rfl⟩
  have hle : ∑ s ∈ t.sessionsIn (.whole 1), total s (.whole 1) "infections" ≤ 2 ^ 53 := by
    decide +kernel
  have hexact : Binary64.ofRat ((∑ s ∈ t.sessionsIn (.whole 1), total s (.whole 1) "infections" : Nat) /
      ((t.sessionsIn (.whole 1)).card : Rat)) = .finite (3 / 2) := by decide +kernel
  have hvalue := ((hmean _ hround "infections" (by decide)).value hle).trans hexact
  have hvalue' := ((hsame _ hround "infections" (by decide)).2 hle).trans hvalue
  exact ⟨rounds, mean, mean', hevents, hevents', hround, hvalue, hvalue'⟩

/-- Beyond `2 ^ 53` the last bit of a sum is lost, with compensation as without. -/
theorem events_round_great_totals :
    let row (session : String) (infections : Int) : List Cell :=
      [.text session, .whole 1, .text "Ant", .whole 1, .whole infections, .whole 0, .whole 0]
    let t : Table :=
      ⟨Ledger.fieldNames, [row "a" 3, row "b" (2 ^ 53), row "c" 3, row "d" 0]⟩
    let rows := [row "d" 0, row "a" 3, row "c" 3, row "b" (2 ^ 53)]
    let infections (t : Table) (rule : List Cell → Summation) :=
      (events t rule).toOption.map (·.column 0)
    let average (s : Summation) (amounts : List Nat) : Average :=
      ⟨amounts.map fun n : Nat => .ofRat (n : Rat), s⟩
    (∃ total, t.Tallies total) ∧ rows.Perm t.rows ∧
      infections t summationOf = infections t (fun _ => .plain) ∧
      ∀ s : Summation,
        infections t (fun _ => s) = some [some (average s [3, 2 ^ 53, 3, 0])] ∧
        infections { t with rows } (fun _ => s) = some [some (average s [0, 3, 3, 2 ^ 53])] ∧
        (average s [3, 2 ^ 53, 3, 0]).exact = 2 ^ 51 + 3 / 2 ∧
        (average s [3, 2 ^ 53, 3, 0]).value = .finite (2 ^ 51 + 2) ∧
        (average s [0, 3, 3, 2 ^ 53]).value = .finite (2 ^ 51 + 3 / 2) := by
  intro row t rows infections average
  let total (s _ : Cell) (name : String) : Nat :=
    if name ≠ "infections" then 0
    else if s = .text "b" then 2 ^ 53 else if s = .text "d" then 0 else 3
  have hrounds : t.rows.map t.round = [1, 1, 1, 1].map .whole := rfl
  have h : t.Tallies total := .of_whole (by decide +kernel) hrounds (by decide +kernel)
  refine ⟨⟨total, h⟩, by decide +kernel, by decide +kernel, fun s => ?_⟩
  cases s <;> decide +kernel

end Sheet
end Vivarium.Analysis
