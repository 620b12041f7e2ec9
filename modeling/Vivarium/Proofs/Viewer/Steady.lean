import Vivarium.Proofs.Census
import Vivarium.Proofs.Viewer.Course

/-! What can end a run of a viewer before its time: in a world that lawful acts lead to nothing that
the simulation looks up is missing, so it can only be a file, or a number that an array cannot hold. -/
namespace Vivarium

/-- A failure outside the simulation: of a file, or of a number that an array cannot hold. -/
def Failure.Outside (f : Failure) : Prop :=
  (∃ fault, f = .file fault) ∨ ∃ overflow, f = .overflow overflow

theorem World.Sound.census_ok {w : World} (h : w.Sound) : ∃ counts, w.census = .ok counts :=
  ⟨_, census_eq h.known⟩

namespace Stepper

theorem settle_within {s : Stepper} {w : World} {chance : Chance}
    (hc : chance.Within w.creatures.length) :
    (s.settle w chance).2.2.Within w.creatures.length := by
  unfold settle
  split
  · exact (Chance.order_within hc).2
  · exact hc

theorem step_within {s : Stepper} {w : World} {chance : Chance}
    (hc : chance.Within w.creatures.length) :
    (s.step w chance).2.chance.Within (s.step w chance).2.world.creatures.length := by
  unfold step
  cases s.pending with
  | nil => exact settle_within hc
  | cons me rest =>
    dsimp only
    split
    · have htake : (Turn.take w chance me).chance.Within
          (Turn.take w chance me).world.creatures.length := by
        rw [Chance.Within, Turn.orders_take, Turn.world_take, Act.length_after_turn]
        exact hc
      split
      · exact htake
      · exact settle_within htake
    · exact hc

end Stepper

namespace Viewer

/-- Nothing that the simulation of a viewer looks up is missing. -/
structure Steady (v : Viewer) : Prop where
  sound : v.world.Sound
  ready : v.stepper.Ready v.world
  within : v.chance.Within v.world.creatures.length

theorem Opened.steady {v : Viewer} {chance : Chance} (h : v.Opened chance)
    (hfair : chance.Fair v.world.creatures.length) (hw : v.world.Reachable Act.Lawful) :
    v.Steady := by
  obtain ⟨hstepper, hchance⟩ := Prod.mk.inj h
  refine ⟨World.sound_of_reachable hw, ?_, ?_⟩
  · rw [hstepper]
    exact Stepper.openRound_ready hfair.within 1 none
  · rw [hchance]
    exact (Chance.order_within hfair.within).2

theorem Steady.turned {v : Viewer} (h : v.Steady) :
    v.turned.Steady ∧ ∃ ended, (v.stepper.step v.world v.chance).2.result = .ok ended := by
  obtain ⟨hdone, hready⟩ := Stepper.step_completes h.sound h.ready h.within
  exact ⟨⟨hdone.sound h.sound, hready, Stepper.step_within h.within⟩, hdone.ok⟩

theorem Course.steady {rule : Control → Prop} {u v : Viewer} {k : Nat}
    {rounds : List (Tally × World)} (h : Course rule u k rounds v) (hu : u.Steady) : v.Steady := by
  induction h with
  | start => exact hu
  | control _ _ hv ih =>
    obtain ⟨hworld, hchance, hstepper, -⟩ := control_keeps hv
    exact ⟨hworld ▸ ih.sound, hworld ▸ hstepper ▸ ih.ready, hworld ▸ hchance ▸ ih.within⟩
  | wait _ _ _ ih => exact ⟨ih.sound, ih.ready, ih.within⟩
  | step _ _ _ ih => exact ⟨ih.turned.1.sound, ih.turned.1.ready, ih.turned.1.within⟩

theorem outside_of_saveRecording {v v' : Viewer} {f : Failure}
    (h : v.saveRecording = (v', .error f)) : f.Outside := by
  obtain ⟨directory, fault, -, rfl⟩ := saveRecording_eq_error h
  cases fault with
  | file fault => exact .inl ⟨fault, rfl⟩
  | overflow o => exact .inr ⟨o, rfl⟩

theorem outside_of_endRound {v v' : Viewer} {f : Failure} (h : v.endRound = (v', .error f))
    (hv : v.world.Sound) : f.Outside := by
  unfold endRound at h
  cases hl : v.stepper.last with
  | none => simp [hl] at h
  | some tally =>
    simp only [hl] at h
    cases hc : v.recording.capture v.world tally.round with
    | error o =>
      simp only [hc] at h
      exact .inr ⟨o, (Except.error.inj (Prod.mk.inj h).2).symm⟩
    | ok recording =>
      simp only [hc, enter_eq] at h
      generalize he : Ledger.entry v.ledger v.session tally v.world v.directory = entered at h
      obtain ⟨directory, r⟩ := entered
      obtain ⟨-, rfl⟩ := Prod.mk.inj h
      obtain ⟨counts, hcounts⟩ := hv.census_ok
      rcases Ledger.entry_eq_error he with ⟨fault, hrows⟩ | hfile
      · simp [Ledger.rows, hcounts, Except.map] at hrows
      · exact .inl hfile

theorem Fails.outside {v v' : Viewer} {f : Failure} (h : v.Fails v' f) (hv : v.Steady) :
    f.Outside := by
  cases h with
  | @control _ c _ hc =>
    cases c
    case save =>
      change v.saveRecording = _ at hc
      exact outside_of_saveRecording hc
    all_goals cases hc
  | step hs =>
    obtain ⟨hturned, ended, hr⟩ := hv.turned
    rw [step_eq, hr] at hs
    cases ended with
    | false => cases hs
    | true => exact outside_of_endRound hs hturned.sound
  | picture hp =>
    obtain ⟨counts, hcounts⟩ := hv.sound.census_ok
    simp [Viewer.picture, hcounts] at hp

end Viewer
end Vivarium
