import Vivarium.Proofs.Counting
import Vivarium.Proofs.Headless
import Vivarium.Proofs.Recording
import Vivarium.Proofs.Writable

/-!
What a run without a display reports. Of each round there are a line, rows in the ledger and a frame,
and all of them are made of one and the same `Counting`.
-/
namespace Vivarium

/-- The recording of a frame for each round. -/
def Recording.ofRounds (rounds : List Counting) : Recording :=
  { Recording.new true with frames := rounds.map (·.frame) }

theorem Recording.rounds_ofRounds (rounds : List Counting) :
    (ofRounds rounds).rounds = rounds.map (·.tally.round) := by
  simp only [Recording.rounds, ofRounds, List.map_map]
  rfl

theorem Recording.isEmpty_ofRounds {rounds : List Counting} (h : rounds ≠ []) :
    (ofRounds rounds).frames.isEmpty = false := by
  simpa [ofRounds] using h

namespace Headless

/-- Nothing is in the way of a run that keeps a ledger and takes a frame of every round. -/
structure Ready (h : Headless) (path : String) : Prop where
  sound : h.world.Sound
  fair : h.chance.Fair h.world.creatures.length
  few : h.world.species.length ≤ Recording.greatestNumber + 1
  ledger : h.ledger = some path
  writable : h.directory.Writable path
  recording : h.recording.enabled = true ∧ h.recording.stride = 1

/-- What has been reported of some rounds since `h`. -/
structure Reports (h : Headless) (path : String) (rounds : List Counting) (h' : Headless) : Prop where
  session : h'.session = h.session
  species : h'.world.species = h.world.species
  size : h'.world.grid.width = h.world.grid.width ∧ h'.world.grid.height = h.world.grid.height
  out : h'.out = h.out ++ rounds.map (·.summary.line)
  ledger : Ledger.Kept path "" False h.directory (rounds.map (·.rows h.session)) h'.directory
  recording : h'.recording =
    { h.recording with frames := h.recording.frames ++ rounds.map (·.frame) }

variable {h h' h'' : Headless} {path : String}

theorem Reports.refl (h : Headless) (path : String) : h.Reports path [] h :=
  ⟨rfl, rfl, ⟨rfl, rfl⟩, by simp, .start, by simp⟩

theorem Reports.trans {xs ys : List Counting} (hx : h.Reports path xs h')
    (hy : h'.Reports path ys h'') : h.Reports path (xs ++ ys) h'' := by
  refine ⟨hy.session.trans hx.session, hy.species.trans hx.species,
    ⟨hy.size.1.trans hx.size.1, hy.size.2.trans hx.size.2⟩, ?_, ?_, ?_⟩
  · rw [hy.out, hx.out, List.map_append, List.append_assoc]
  · have hledger := hx.ledger.trans (hx.session ▸ hy.ledger)
    rwa [← List.map_append] at hledger
  · rw [hy.recording, hx.recording, List.map_append, List.append_assoc]

theorem Ready.report {g : Counting} (hr : h.Ready path) (hworld : h.world = g.world) :
    ∃ h', h.report g.tally = (h', .ok ()) ∧ h.Reports path [g] h' ∧ h'.Ready path ∧
      h'.world = h.world ∧ h'.chance = h.chance := by
  have hfits : ∀ c ∈ g.world.creatures, c.species ≤ Recording.greatestNumber := by
    intro c hc
    obtain ⟨id, hid⟩ := List.mem_iff_getElem?.1 hc
    have hknown := g.known id c hid
    have hfew := hr.few
    rw [hworld] at hfew
    omega
  obtain ⟨d, hd⟩ := Ledger.append_of_writable hr.writable ((g.rows h.session).map (·.fields))
  have hcapture := Recording.capture_due hr.recording.1 hr.recording.2 hfits g.tally.round
  refine ⟨{ h with
    out := h.out ++ [g.summary.line]
    directory := d
    recording := { h.recording with frames := h.recording.frames ++ [g.frame] } }, ?_, ?_, ?_, rfl, rfl⟩
  · simp only [Headless.report, enter, hr.ledger, hworld, g.summary_eq, g.rows_eq, hd, hcapture,
      Except.mapError]
    rfl
  · exact ⟨rfl, rfl, ⟨rfl, rfl⟩, rfl, .enter .start hd, rfl⟩
  · exact ⟨hr.sound, hr.fair, hr.few, hr.ledger, Ledger.writable_of_append hd, hr.recording⟩

theorem Ready.round (hr : h.Ready path) (number : Int) :
    ∃ g h', h.round number = (h', .ok ()) ∧ h.Reports path [g] h' ∧ h'.Ready path ∧
      (Round.run number h.world h.chance).result = .ok g.tally ∧
      (Round.run number h.world h.chance).world = g.world ∧
      h'.world = g.world ∧ h'.chance = (Round.run number h.world h.chance).chance := by
  have hrun := Round.run_completes hr.sound number hr.fair.within
  have hsound := hrun.sound hr.sound
  have hspecies : (Round.run number h.world h.chance).world.species = h.world.species :=
    Round.species_turns ..
  have hsize : (Round.run number h.world h.chance).world.grid.width = h.world.grid.width ∧
    (Round.run number h.world h.chance).world.grid.height = h.world.grid.height := Round.size_turns ..
  have hfair := Round.fair_run hr.fair number
  obtain ⟨t, ht⟩ := hrun.ok
  unfold Headless.round
  generalize Round.run number h.world h.chance = e at *
  let g := Counting.ofKnown t hsound.known
  have hready : Ready { h with
      world := e.world, chance := e.chance, notices := h.notices ++ e.notices } path :=
    ⟨hsound, hfair, hspecies ▸ hr.few, hr.ledger, hr.writable, hr.recording⟩
  obtain ⟨h', hreport, hreports, hready', hworld, hchance⟩ := hready.report (g := g) rfl
  refine ⟨g, h', ?_, ?_, hready', ht, rfl, hworld, hchance⟩
  · simp only [ht]
    exact hreport
  · exact ⟨hreports.session, hreports.species.trans hspecies,
      ⟨hreports.size.1.trans hsize.1, hreports.size.2.trans hsize.2⟩, hreports.out, hreports.ledger,
      hreports.recording⟩

/-- All rounds of a run are reported, each as it is counted at its end. -/
theorem Ready.rounds (hr : h.Ready path) (number : Int) (n : Nat) :
    ∃ rounds h', h.rounds number n = (h', .ok ()) ∧ h.Reports path rounds h' ∧
      (Round.runMany (fun t w => .ok (t, w)) number n h.world h.chance).result =
        .ok (rounds.map fun g => (g.tally, g.world)) := by
  induction n generalizing number h with
  | zero => exact ⟨[], h, rfl, .refl h path, rfl⟩
  | succ n ih =>
    obtain ⟨g, h', hround, hreports, hready, ht, hworld, hworld', hchance⟩ := hr.round number
    obtain ⟨rounds, h'', hrounds, hreports', hsimulated⟩ := ih hready (number + 1)
    refine ⟨g :: rounds, h'', ?_, hreports.trans hreports', ?_⟩
    · unfold Headless.rounds
      rw [hround]
      exact hrounds
    · rw [hworld', hchance] at hsimulated
      rw [Round.runMany, Episode.andThen_of_ok ht]
      simp only [Episode.map, hworld, hsimulated, Except.map, List.map_cons]

end Headless
end Vivarium
