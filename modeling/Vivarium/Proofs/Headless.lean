import Vivarium.Headless
import Vivarium.Proofs.Episode
import Vivarium.Proofs.Ledger

/-! What a run without a display leaves in its ledger. -/
namespace Vivarium

namespace Headless

theorem enter_eq (h : Headless) (tally : Tally) : h.enter tally =
    let (directory, r) := Ledger.entry h.ledger h.session tally h.world h.directory
    ({ h with directory }, r) := by
  obtain ⟨w, _, ledger, session⟩ := h
  cases ledger with
  | none => rfl
  | some path =>
    simp only [enter, Ledger.entry]
    cases Ledger.rows tally w session <;> dsimp only

theorem report_eq_ok {h h' : Headless} {tally : Tally} (hr : h.report tally = (h', .ok ())) :
    ∃ out recording directory, h' = { h with out, recording, directory } ∧
      Ledger.entry h.ledger h.session tally h.world h.directory = (directory, .ok ()) := by
  unfold report at hr
  cases hs : Summary.ofTally tally h.world with
  | error f => simp [hs] at hr
  | ok summary =>
    simp only [hs, enter_eq] at hr
    generalize he : Ledger.entry h.ledger h.session tally h.world h.directory = entered at hr
    obtain ⟨directory, r⟩ := entered
    cases r with
    | error f => cases hr
    | ok a =>
      dsimp only at hr
      cases hc : h.recording.capture h.world tally.round with
      | error o => simp [hc] at hr
      | ok recording =>
        simp only [hc] at hr
        obtain rfl := (Prod.mk.inj hr).1
        exact ⟨_, recording, directory, rfl, rfl⟩

theorem round_eq_ok {h h' : Headless} {number : Int} (hr : h.round number = (h', .ok ())) :
    let e := Round.run number h.world h.chance
    ∃ tally notices out recording directory, e.result = .ok tally ∧
      h' = { h with world := e.world, chance := e.chance, notices, out, recording, directory } ∧
      Ledger.entry h.ledger h.session tally e.world h.directory = (directory, .ok ()) := by
  unfold round at hr
  cases hrun : (Round.run number h.world h.chance).result with
  | error f => simp [hrun] at hr
  | ok tally =>
    simp only [hrun] at hr
    obtain ⟨out, recording, directory, rfl, hentry⟩ := report_eq_ok hr
    exact ⟨tally, _, out, recording, directory, hrun, rfl, hentry⟩

/-- The rounds of a run without a display enter their rows into the ledger, and save nothing. -/
theorem rounds_kept {path : String} (saved : String) {rounds : Nat} {number : Int} {h h' : Headless}
    (hpath : h.ledger = some path) (hr : h.rounds number rounds = (h', .ok ())) :
    ∃ batches, (Round.runMany (fun tally w => Ledger.rows tally w h.session) number rounds h.world
        h.chance).result = .ok batches ∧
      Ledger.Kept path saved False h.directory batches h'.directory := by
  induction rounds generalizing number h with
  | zero =>
    obtain rfl := (Prod.mk.inj hr).1
    exact ⟨[], rfl, .start⟩
  | succ rounds ih =>
    unfold Headless.rounds at hr
    split at hr
    · cases hr
    · next h₁ hround =>
      obtain ⟨tally, notices, out, recording, directory, hrun, rfl, hentry⟩ := round_eq_ok hround
      rw [hpath] at hentry
      obtain ⟨batch, hbatch, happend⟩ := Ledger.entry_eq_ok hentry
      obtain ⟨batches, hbatches, hkept⟩ := ih (by exact hpath) hr
      refine ⟨batch :: batches, ?_, (Ledger.Kept.start.enter happend).trans hkept⟩
      rw [Round.runMany, Episode.andThen_of_ok hrun]
      simp only [hbatch, Episode.map, hbatches, Except.map]

theorem rounds_ledger {path : String} {rounds : Nat} {h h' : Headless}
    (hpath : h.ledger = some path) (hr : h.rounds 1 rounds = (h', .ok ())) :
    Ledger.after (Ledger.held path h.directory) h.session rounds h.world h.chance =
      .ok (Ledger.held path h'.directory) := by
  obtain ⟨batches, hbatches, hkept⟩ := rounds_kept path hpath hr
  exact hkept.after hbatches False.elim

end Headless

end Vivarium
