import Vivarium.Ledger
import Vivarium.Proofs.Population
import Vivarium.Recording

/-! The end of a round, and the three ways in which it is told: a line, rows of a ledger, and a frame. -/
namespace Vivarium

/-- The end of a round, when everyone is counted. -/
structure Counting where
  tally : Tally
  world : World
  counts : List (String × Nat)
  counted : world.census = .ok counts
  deriving DecidableEq

namespace Counting

variable (g : Counting)

def row (session : String) (count : String × Nat) : Ledger.Row :=
  ⟨session, g.tally.round, count.1, count.2, g.tally.infections, g.tally.moves, g.tally.aborted⟩

def rows (session : String) : List Ledger.Row := g.counts.map (g.row session)

def summary : Summary where
  round := g.tally.round
  creatures := g.world.creatures.length
  infections := g.tally.infections
  moves := g.tally.moves
  aborted := g.tally.aborted
  counts := g.counts.map fun (label, n) => (label, n)

def frame : Frame := ⟨g.tally.round, g.world.occupancy, g.world.headings⟩

def count (label : String) : Nat := (Keyed.get? label g.counts).getD 0

def events : List Int := [g.tally.infections, g.tally.moves, g.tally.aborted]

theorem rows_eq (session : String) : Ledger.rows g.tally g.world session = .ok (g.rows session) := by
  rw [Ledger.rows, g.counted]
  rfl

theorem summary_eq : Summary.ofTally g.tally g.world = .ok g.summary := by
  rw [Summary.ofTally, g.counted]
  rfl

def ofKnown (t : Tally) {w : World} (h : w.Known) : Counting := ⟨t, w, _, w.census_eq h⟩

theorem known : g.world.Known := by
  intro id c hc
  have hcounted := g.counted
  unfold World.census at hcounted
  split at hcounted
  · next hall => exact of_decide_eq_true (List.all_eq_true.1 hall c (List.mem_of_getElem? hc))
  · cases hcounted

/-- Species with distinct labels are counted one by one. -/
theorem counts_eq (hlabels : g.world.labels.Nodup) : g.counts =
    g.world.labels.zip ((List.range g.world.species.length).map g.world.population) := by
  have hkeys : Keyed.keys (g.world.labels.zip
      ((List.range g.world.species.length).map g.world.population)) = g.world.labels :=
    List.map_fst_zip (by simp [World.length_labels])
  have hcounts := Except.ok.inj (g.counted.symm.trans (g.world.census_eq g.known))
  rw [hcounts, Keyed.ofList_eq_self (hkeys.symm ▸ hlabels)]

theorem keys_counts (hlabels : g.world.labels.Nodup) : Keyed.keys g.counts = g.world.labels := by
  rw [g.counts_eq hlabels]
  exact List.map_fst_zip (by simp [World.length_labels])

end Counting

namespace Round

/-- The species stay the same from round to round, and nothing is counted below zero. -/
theorem runMany_settled {w : World} (h : w.Known) {number : Int} {n : Nat} {chance : Chance}
    {rounds : List (Tally × World)}
    (hrounds : (runMany (fun t v => .ok (t, v)) number n w chance).result = .ok rounds) :
    ∀ r ∈ rounds, r.2.Known ∧ r.2.species = w.species ∧
      0 ≤ r.1.infections ∧ 0 ≤ r.1.moves ∧ 0 ≤ r.1.aborted := by
  induction n generalizing number w chance rounds with
  | zero =>
    obtain rfl := Except.ok.inj hrounds
    simp
  | succ n ih =>
    obtain ⟨t, ht, hnext⟩ := Episode.ok_of_andThen hrounds
    obtain ⟨rest, hrest, rfl⟩ := Episode.ok_of_map hnext
    have hknown : (run number w chance).world.Known := known_turns h _ _ _
    have hspecies : (run number w chance).world.species = w.species := species_turns _ _ _ _
    intro r hr
    rcases List.mem_cons.1 hr with rfl | hr
    · obtain ⟨hmoves, hinfections, haborted, -⟩ := turns_counts ht
      dsimp only at hmoves hinfections haborted ⊢
      exact ⟨hknown, hspecies, by omega, by omega, by omega⟩
    · obtain ⟨hk, hs, htallied⟩ := ih hknown hrest r hr
      exact ⟨hk, hs.trans hspecies, htallied⟩

end Round
end Vivarium
