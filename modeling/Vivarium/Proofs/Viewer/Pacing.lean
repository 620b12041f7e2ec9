import Mathlib.Data.List.Chain
import Vivarium.Proofs.Viewer.Census

/-! The pace of a viewer frame by frame: its bounds, which every control keeps, the turns that each
frame runs, and the time between two frames that run some. -/
namespace Vivarium

namespace Stepper

variable {s : Stepper} {w : World} {chance : Chance}

/-- The next step is somebody's turn, and not just the end of a round that has nobody in it. -/
def turnNext (s : Stepper) (w : World) : Bool := s.pending.head?.any (· < w.creatures.length)

/-- If there is anybody, somebody's turn is to come, and so it stays. -/
structure Staffed (s : Stepper) (w : World) (chance : Chance) : Prop where
  ready : s.Ready w
  waiting : s.pending = [] → w.creatures.length = 0
  fair : chance.Fair w.creatures.length

theorem Staffed.turnNext (h : s.Staffed w chance) (hn : 0 < w.creatures.length) :
    s.turnNext w = true := by
  cases hp : s.pending with
  | nil => exact absurd (h.waiting hp) (Nat.ne_of_gt hn)
  | cons me rest =>
    have hme : me < w.creatures.length := h.ready me (hp ▸ List.mem_cons_self)
    simpa [Stepper.turnNext, hp] using hme

theorem openRound_staffed (hfair : chance.Fair w.creatures.length) (round : Int)
    (last : Option Tally) :
    (openRound round last w chance).1.Staffed w (openRound round last w chance).2 := by
  obtain ⟨hperm, hlater⟩ := Chance.order_fair hfair
  refine ⟨openRound_ready hfair.within round last, fun hnone => ?_, hlater⟩
  have hnone : (chance.order w.creatures.length).1 = [] := hnone
  simpa [hnone] using hperm.length_eq.symm

theorem settle_staffed (hs : s.Ready w) (hfair : chance.Fair w.creatures.length) :
    (s.settle w chance).1.Staffed w (s.settle w chance).2.2 := by
  unfold settle
  split
  · exact openRound_staffed hfair _ _
  · next hpending => exact ⟨hs, fun hnone => absurd hnone (by simpa using hpending), hfair⟩

theorem Staffed.step (h : s.Staffed w chance) {ended : Bool}
    (hr : (s.step w chance).2.result = .ok ended) :
    (s.step w chance).1.Staffed (s.step w chance).2.world (s.step w chance).2.chance := by
  unfold Stepper.step at hr ⊢
  cases hp : s.pending with
  | nil => exact settle_staffed h.ready h.fair
  | cons me rest =>
    have hme : me < w.creatures.length := h.ready me (hp ▸ List.mem_cons_self)
    have hlen : (Turn.take w chance me).world.creatures.length = w.creatures.length := by
      rw [Turn.world_take, Act.length_after_turn]
    have hrest : ∀ i ∈ rest, i < (Turn.take w chance me).world.creatures.length := fun i hi =>
      hlen ▸ h.ready i (hp ▸ List.mem_cons_of_mem me hi)
    have hfair :
        (Turn.take w chance me).chance.Fair (Turn.take w chance me).world.creatures.length := by
      rw [Chance.Fair, Turn.orders_take, hlen]
      exact h.fair
    simp only [hp, hme, if_true] at hr ⊢
    cases ht : (Turn.take w chance me).result with
    | error f => simp [ht] at hr
    | ok outcome => exact settle_staffed hrest hfair

end Stepper

namespace Pace

variable {n : ℕ} {p : Pace}

/-- The pace that turns are looked at with: after the controls of a tick and its reading of the
clock. -/
def ready (creatures : Nat) (p : Pace) (t : Tick) : Pace :=
  let p := t.controls.foldl (control creatures) p
  { p with clock := t.time.getD p.clock }

theorem frame_eq (p : Pace) (t : Tick) : p.frame n t = (p.ready n t).turns := rfl

/-- The bounds of the turns in a frame and of the pause, in a world of so many creatures. -/
structure InRange (creatures : Nat) (p : Pace) : Prop where
  one_le_turns : 1 ≤ p.turnsPerFrame
  turns_le : p.turnsPerFrame ≤ max 1 (creatures : Int)
  pause_nonneg : 0 ≤ p.pauseMs
  pause_le : p.pauseMs ≤ Viewer.maxPause

theorem InRange.control (h : p.InRange n) (c : Control) : (p.control n c).InRange n := by
  obtain ⟨hone, hmost, hzero, hlong⟩ := h
  have hstep : 0 ≤ Viewer.pauseStep := by decide
  have hmax : 0 ≤ Viewer.maxPause := by decide
  cases c with
  | fewerTurns => exact ⟨Int.le_max_left .., by simp only [Pace.control]; omega, hzero, hlong⟩
  | moreTurns => exact ⟨by simp only [Pace.control]; omega, Int.min_le_left .., hzero, hlong⟩
  | faster => exact ⟨hone, hmost, Int.le_max_left .., by simp only [Pace.control]; omega⟩
  | slower => exact ⟨hone, hmost, by simp only [Pace.control]; omega, Int.min_le_left ..⟩
  | quit | pause | record | clear | save | other => exact ⟨hone, hmost, hzero, hlong⟩

theorem InRange.foldl (h : p.InRange n) (cs : List Control) :
    (cs.foldl (Pace.control n) p).InRange n := by
  induction cs generalizing p with
  | nil => exact h
  | cons c cs ih => exact ih (h.control c)

theorem InRange.ready (h : p.InRange n) (t : Tick) : (p.ready n t).InRange n :=
  have ⟨hone, hmost, hzero, hlong⟩ := h.foldl t.controls
  ⟨hone, hmost, hzero, hlong⟩

theorem InRange.turns (h : p.InRange n) : p.turns.2.InRange n := by
  unfold Pace.turns
  split
  · exact ⟨h.one_le_turns, h.turns_le, h.pause_nonneg, h.pause_le⟩
  · exact h

theorem lastTurn_foldl (p : Pace) (cs : List Control) :
    (cs.foldl (Pace.control n) p).lastTurn = p.lastTurn := by
  induction cs generalizing p with
  | nil => rfl
  | cons c cs ih =>
    rw [List.foldl_cons, ih]
    cases c <;> rfl

end Pace

namespace Viewer

section Course

variable {rule : Control → Prop} {u v : Viewer} {k : Nat} {rounds : List (Tally × World)}

def Staffed (v : Viewer) : Prop := v.stepper.Staffed v.world v.chance

theorem Opened.staffed {chance : Chance} (h : v.Opened chance)
    (hfair : chance.Fair v.world.creatures.length) : v.Staffed := by
  obtain ⟨hstepper, hchance⟩ := Prod.mk.inj h
  rw [Staffed, hstepper, hchance]
  exact Stepper.openRound_staffed hfair 1 none

theorem Course.staffed (h : Course rule u k rounds v) (hu : u.Staffed) : v.Staffed := by
  induction h with
  | start => exact hu
  | control _ _ hv ih =>
    obtain ⟨hworld, hchance, hstepper, -⟩ := control_keeps hv
    rwa [Staffed, hworld, hchance, hstepper]
  | wait _ _ _ ih => exact ih
  | step _ hr _ ih => exact ih.step hr

end Course

/-- The turns among so many steps, up to the one that fails. -/
def turnsIn : Nat → Viewer → Nat
  | 0, _ => 0
  | k + 1, v => (if v.stepper.turnNext v.world then 1 else 0) +
    match v.step with
    | (v, .ok ()) => turnsIn k v
    | (_, .error _) => 0

/-- The turns that are run if they are due. -/
def dueTurns (v : Viewer) : Nat :=
  if v.due then turnsIn v.turnsPerFrame.toNat { v with lastTurn := v.clock } else 0

end Viewer

/-- A frame as far as it comes: the pace in force when its turns are looked at, the turns that are run
in it, and whether it is shown in the end. -/
structure Shot where
  pace : Pace
  turns : Nat
  shown : Bool

/-- What holds of a frame in a world of so many creatures, wherever it is cut off. -/
structure Shot.Paced (creatures : Nat) (s : Shot) : Prop where
  inRange : s.pace.InRange creatures
  nobody : creatures = 0 → s.turns = 0
  at_rest : s.pace.paused = true → s.turns = 0
  at_most : s.turns ≤ s.pace.turnsPerFrame
  all_or_none : s.shown = true → s.turns = 0 ∨ s.turns = s.pace.turnsPerFrame

namespace Shot

/-- Between two frames of which the second is the next one to run turns the pause goes by that the
second one finds. -/
def Spaced (s later : Shot) : Prop := later.pace.pauseMs ≤ later.pace.clock - s.pace.clock

/-- The frames that run turns are spaced, also the first of them from turns that were run before. -/
def SpacedFrom (last : Int) (shots : List Shot) : Prop :=
  (shots.filter (0 < ·.turns)).IsChain Spaced ∧
    ∀ s ∈ (shots.filter (0 < ·.turns)).head?, s.pace.pauseMs ≤ s.pace.clock - last

theorem SpacedFrom.nil (last : Int) : SpacedFrom last [] := ⟨.nil, by simp⟩

theorem SpacedFrom.cons {s : Shot} {shots : List Shot} {last : Int}
    (hlate : 0 < s.turns → s.pace.pauseMs ≤ s.pace.clock - last)
    (h : SpacedFrom (if 0 < s.turns then s.pace.clock else last) shots) :
    SpacedFrom last (s :: shots) := by
  by_cases hs : 0 < s.turns
  · rw [if_pos hs] at h
    rw [SpacedFrom, List.filter_cons_of_pos (by simpa using hs)]
    exact ⟨h.1.cons h.2, by simpa using hlate hs⟩
  · rw [if_neg hs] at h
    rwa [SpacedFrom, List.filter_cons_of_neg (by simpa using hs)]

end Shot

namespace Viewer

/-- The viewer once the clock has been read. -/
def timed (v : Viewer) (t : Tick) : Viewer := { v with clock := t.time.getD v.clock }

def shot (v : Viewer) (t : Tick) : Shot :=
  match v.controls t.controls with
  | (w, .error _) => ⟨w.pace, 0, false⟩
  | (w, .ok ()) => ⟨(w.timed t).pace, (w.timed t).dueTurns, (v.frame t).2.isOk⟩

/-- The frames of a script, up to the one in which the viewer quits or something fails. -/
def shots (v : Viewer) : List Tick → List Shot
  | [] => []
  | t :: ts => v.shot t ::
    match v.frame t with
    | (w, .ok _) => if w.running then shots w ts else []
    | (_, .error _) => []

section Turns

variable {v v' : Viewer}

theorem Staffed.of_step (hv : v.Staffed) (h : v.step = (v', .ok ())) : v'.Staffed := by
  obtain ⟨ended, recording, directory, rfl, hr, -⟩ := step_eq_ok h
  exact hv.step hr

theorem turnsIn_le (k : ℕ) (v : Viewer) : turnsIn k v ≤ k := by
  induction k generalizing v with
  | zero => exact Nat.le_refl 0
  | succ k ih =>
    have hone : (if v.stepper.turnNext v.world then 1 else 0) ≤ 1 := by split <;> omega
    rw [turnsIn, Nat.add_comm k]
    refine Nat.add_le_add hone ?_
    split
    · exact ih _
    · exact Nat.zero_le k

theorem length_of_step (h : v.step = (v', .ok ())) :
    v'.world.creatures.length = v.world.creatures.length := by
  obtain ⟨ended, recording, directory, rfl, -⟩ := step_eq_ok h
  exact Stepper.length_step ..

theorem turnsIn_of_nobody (k : ℕ) (hn : v.world.creatures.length = 0) : turnsIn k v = 0 := by
  induction k generalizing v with
  | zero => rfl
  | succ k ih =>
    have hnext : v.stepper.turnNext v.world = false := by
      simp [Stepper.turnNext, hn]
    rw [turnsIn, hnext]
    generalize hstep : v.step = x
    obtain ⟨v', r⟩ := x
    cases r with
    | error f => rfl
    | ok a => simpa using ih ((length_of_step hstep).trans hn)

/-- Where there is anybody, each step that does not fail is a turn. -/
theorem turnsIn_of_steps {k : ℕ} (hv : v.Staffed) (hn : 0 < v.world.creatures.length)
    (h : steps k v = (v', .ok ())) : turnsIn k v = k := by
  induction k generalizing v with
  | zero => rfl
  | succ k ih =>
    rw [steps] at h
    rw [turnsIn, hv.turnNext hn]
    generalize hstep : v.step = x at h ⊢
    obtain ⟨w, r⟩ := x
    cases r with
    | error f => cases h
    | ok a =>
      have hlater := ih (hv.of_step hstep) (Nat.lt_of_lt_of_eq hn (length_of_step hstep).symm) h
      dsimp only at hlater ⊢
      rw [hlater, if_pos rfl, Nat.add_comm]

theorem dueTurns_le (h : 1 ≤ v.turnsPerFrame) : v.dueTurns ≤ v.turnsPerFrame := by
  unfold dueTurns
  split
  · have hle := turnsIn_le v.turnsPerFrame.toNat { v with lastTurn := v.clock }
    omega
  · exact Int.le_trans (by decide) h

theorem due_of_dueTurns (h : 0 < v.dueTurns) :
    v.paused = false ∧ v.pauseMs ≤ v.clock - v.lastTurn := by
  unfold dueTurns at h
  split at h
  · next hdue => simpa [due] using hdue
  · exact absurd h (Nat.lt_irrefl 0)

theorem dueTurns_of_nobody (hn : v.world.creatures.length = 0) : v.dueTurns = 0 := by
  unfold dueTurns
  split
  · exact turnsIn_of_nobody _ hn
  · rfl

/-- Turns that do not fail are all that the pace asks for. -/
theorem dueTurns_of_turns (hv : v.Staffed) (hn : 0 < v.world.creatures.length)
    (h : v.turns = (v', .ok ())) : v.dueTurns = v.pace.turns.1 := by
  unfold Viewer.turns at h
  unfold dueTurns
  split at h
  · next hdue =>
    have hpace : v.pace.turns = (v.turnsPerFrame.toNat, { v.pace with lastTurn := v.clock }) :=
      if_pos hdue
    rw [if_pos hdue, hpace]
    exact turnsIn_of_steps hv hn h
  · next hdue =>
    have hpace : v.pace.turns = (0, v.pace) := if_neg hdue
    rw [if_neg hdue, hpace]

end Turns

section Frame

variable {v v' : Viewer} {t : Tick} {p : Picture} {f : Failure}

theorem pace_of_control_error {c : Control} (h : v.control c = (v', .error f)) :
    v'.pace = v.pace := by
  cases c
  case save =>
    change v.saveRecording = _ at h
    obtain ⟨directory, fault, rfl, -⟩ := saveRecording_eq_error h
    rfl
  all_goals cases h

theorem inRange_controls {cs : List Control} {r : Except Failure Unit}
    (hv : v.pace.InRange v.world.creatures.length) (h : v.controls cs = (v', r)) :
    v'.pace.InRange v.world.creatures.length := by
  induction cs generalizing v with
  | nil =>
    obtain rfl := (Prod.mk.inj h).1
    exact hv
  | cons c cs ih =>
    rw [Viewer.controls] at h
    generalize hc : v.control c = x at h
    obtain ⟨w, r⟩ := x
    cases r with
    | error f =>
      obtain rfl := (Prod.mk.inj h).1
      exact pace_of_control_error hc ▸ hv
    | ok a =>
      have hworld : w.world = v.world := (control_keeps hc).1
      have hw : w.pace.InRange w.world.creatures.length := by
        rw [pace_control hc, hworld]
        exact hv.control c
      exact hworld ▸ ih hw h

theorem controls_eq_ok {cs : List Control} (h : v.controls cs = (v', .ok ())) :
    v'.pace = cs.foldl (Pace.control v.world.creatures.length) v.pace ∧
      v'.world.creatures.length = v.world.creatures.length ∧ (v.Staffed → v'.Staffed) := by
  have hcomes : Comes (fun _ => True) v _ (v.controls cs) := .controls v fun _ _ => trivial
  rw [h] at hcomes
  obtain ⟨⟨rounds, hcourse⟩, hpace⟩ := hcomes
  exact ⟨hpace, hcourse.length, hcourse.staffed⟩

theorem shown_shot (v : Viewer) (t : Tick) : (v.shot t).shown = (v.frame t).2.isOk := by
  unfold shot
  split
  · next hc =>
    rw [frame, hc]
    rfl
  · rfl

theorem frame_eq_ok (h : v.frame t = (v', .ok p)) : ∃ w, v.controls t.controls = (w, .ok ()) ∧
    (w.timed t).turns = (v', .ok ()) ∧ v'.picture = .ok p := by
  rw [frame] at h
  generalize hc : v.controls t.controls = x at h
  obtain ⟨w, r⟩ := x
  cases r with
  | error f => cases h
  | ok a =>
    dsimp only at h
    generalize ht : { w with clock := t.time.getD w.clock }.turns = y at h
    obtain ⟨u, r⟩ := y
    cases r with
    | error f => cases h
    | ok b =>
      obtain ⟨rfl, hp⟩ := Prod.mk.inj h
      exact ⟨w, rfl, ht, hp⟩

theorem shot_of_controls (hc : v.controls t.controls = (v', .ok ())) :
    v.shot t = ⟨(v'.timed t).pace, (v'.timed t).dueTurns, (v.frame t).2.isOk⟩ := by
  rw [shot, hc]

theorem pace_timed (hc : v.controls t.controls = (v', .ok ())) :
    (v'.timed t).pace = v.pace.ready v.world.creatures.length t := by
  have hpace := (controls_eq_ok hc).1
  have htimed : (v'.timed t).pace = { v'.pace with clock := t.time.getD v'.pace.clock } := rfl
  rw [htimed, hpace]
  rfl

theorem pace_of_frame (h : v.frame t = (v', .ok p)) :
    (v.shot t).pace = v.pace.ready v.world.creatures.length t ∧
      v'.pace = (v.shot t).pace.turns.2 ∧ p.pauseMs = (v.shot t).pace.pauseMs := by
  obtain ⟨w, hc, ht, hp⟩ := frame_eq_ok h
  have hturns : Comes (fun _ => True) (w.timed t) _ (w.timed t).turns := .turns (w.timed t)
  rw [ht] at hturns
  obtain ⟨-, hpace⟩ := hturns
  have hpause : p.pauseMs = v'.pace.pauseMs := by
    unfold picture at hp
    split at hp
    · cases hp
    · obtain rfl := Except.ok.inj hp
      rfl
  rw [shot_of_controls hc]
  refine ⟨pace_timed hc, hpace, ?_⟩
  rw [hpause, hpace, Pace.turns]
  split <;> rfl

theorem turns_of_frame (hs : v.Staffed) (hn : 0 < v.world.creatures.length)
    (h : v.frame t = (v', .ok p)) : (v.shot t).turns = (v.shot t).pace.turns.1 := by
  obtain ⟨w, hc, ht, -⟩ := frame_eq_ok h
  obtain ⟨-, hlen, hstaffed⟩ := controls_eq_ok hc
  rw [shot_of_controls hc]
  exact dueTurns_of_turns (hstaffed hs) (Nat.lt_of_lt_of_eq hn hlen.symm) ht

theorem shot_paced (hs : v.Staffed) (hv : v.pace.InRange v.world.creatures.length) (t : Tick) :
    (v.shot t).Paced v.world.creatures.length := by
  generalize hc : v.controls t.controls = x
  obtain ⟨w, r⟩ := x
  cases r with
  | error f =>
    have hw := inRange_controls hv hc
    have hzero : (0 : Int) ≤ w.pace.turnsPerFrame := Int.le_trans (by decide) hw.one_le_turns
    rw [shot, hc]
    exact ⟨hw, fun _ => rfl, fun _ => rfl, hzero, fun _ => .inl rfl⟩
  | ok a =>
    have hready : (w.timed t).pace.InRange v.world.creatures.length := pace_timed hc ▸ hv.ready t
    have hshot := shot_of_controls hc
    have hnobody (hn : v.world.creatures.length = 0) : (v.shot t).turns = 0 := by
      rw [hshot]
      exact dueTurns_of_nobody ((controls_eq_ok hc).2.1.trans hn)
    refine ⟨hshot ▸ hready, hnobody, fun hpaused => ?_, ?_, fun hshown => ?_⟩
    · rw [hshot] at hpaused ⊢
      refine Nat.eq_zero_of_not_pos fun hpos => ?_
      exact Bool.false_ne_true ((due_of_dueTurns hpos).1.symm.trans hpaused)
    · rw [hshot]
      exact dueTurns_le hready.one_le_turns
    · rcases Nat.eq_zero_or_pos v.world.creatures.length with hn | hn
      · exact .inl (hnobody hn)
      · rw [shown_shot] at hshown
        generalize hframe : v.frame t = x at hshown
        obtain ⟨v', r⟩ := x
        cases r with
        | error f => cases hshown
        | ok p =>
          have hone : 1 ≤ (v.shot t).pace.turnsPerFrame := hshot ▸ hready.one_le_turns
          rw [turns_of_frame hs hn hframe, Pace.turns]
          split
          · exact .inr (Int.toNat_of_nonneg (by omega))
          · exact .inl rfl

/-- Turns are run only once the pause since the last ones is over. -/
theorem shot_late (h : 0 < (v.shot t).turns) :
    (v.shot t).pace.pauseMs ≤ (v.shot t).pace.clock - v.lastTurn := by
  generalize hc : v.controls t.controls = x
  obtain ⟨w, r⟩ := x
  cases r with
  | error f =>
    rw [shot, hc] at h
    exact absurd h (Nat.lt_irrefl 0)
  | ok a =>
    have hlast : w.lastTurn = v.lastTurn :=
      (congrArg Pace.lastTurn (controls_eq_ok hc).1).trans (Pace.lastTurn_foldl _ _)
    rw [shot_of_controls hc] at h ⊢
    exact hlast ▸ (due_of_dueTurns h).2

/-- When turns were run last is known after each frame that is shown. -/
theorem lastTurn_of_frame (hs : v.Staffed) (hv : v.pace.InRange v.world.creatures.length)
    (hn : 0 < v.world.creatures.length) (h : v.frame t = (v', .ok p)) :
    v'.lastTurn = if 0 < (v.shot t).turns then (v.shot t).pace.clock else v.lastTurn := by
  obtain ⟨hready, hpace, -⟩ := pace_of_frame h
  have hone : 1 ≤ (v.shot t).pace.turnsPerFrame := (shot_paced hs hv t).inRange.one_le_turns
  have hbefore : (v.shot t).pace.lastTurn = v.lastTurn := hready ▸ Pace.lastTurn_foldl _ _
  have hlast : v'.lastTurn = (v.shot t).pace.turns.2.lastTurn := congrArg Pace.lastTurn hpace
  rw [hlast, turns_of_frame hs hn h, Pace.turns]
  split
  · rw [if_pos (by omega)]
  · rw [if_neg (Nat.lt_irrefl 0), hbefore]

theorem frame_keeps (hs : v.Staffed) (hv : v.pace.InRange v.world.creatures.length)
    (h : v.frame t = (v', .ok p)) : v'.Staffed ∧
      v'.world.creatures.length = v.world.creatures.length ∧
      v'.pace.InRange v.world.creatures.length := by
  have hcomes : Comes (fun _ => True) v _ ((v.frame t).1, (v.frame t).2.map fun _ => ()) :=
    .frame v fun _ _ => trivial
  rw [h] at hcomes
  obtain ⟨⟨rounds, hcourse⟩, hpace⟩ := hcomes
  exact ⟨hcourse.staffed hs, hcourse.length, hpace ▸ (hv.ready t).turns⟩

end Frame

section Run

variable {v v' : Viewer} {t : Tick} {ts : List Tick} {p : Picture} {f : Failure}

theorem shots_cons_of_ok (h : v.frame t = (v', .ok p)) :
    v.shots (t :: ts) = v.shot t :: if v'.running then v'.shots ts else [] := by
  rw [shots, h]

theorem shots_cons_of_error (h : v.frame t = (v', .error f)) : v.shots (t :: ts) = [v.shot t] := by
  rw [shots, h]

theorem shots_paced (hs : v.Staffed) (hv : v.pace.InRange v.world.creatures.length) :
    ∀ s ∈ v.shots ts, s.Paced v.world.creatures.length := by
  induction ts generalizing v with
  | nil => exact fun s h => absurd h List.not_mem_nil
  | cons t ts ih =>
    have hfirst := shot_paced hs hv t
    generalize hframe : v.frame t = x
    obtain ⟨v', r⟩ := x
    cases r with
    | error f =>
      rw [shots_cons_of_error hframe]
      exact List.forall_mem_singleton.2 hfirst
    | ok p =>
      obtain ⟨hs', hlen, hv'⟩ := frame_keeps hs hv hframe
      rw [shots_cons_of_ok hframe]
      refine List.forall_mem_cons.2 ⟨hfirst, ?_⟩
      split
      · exact hlen ▸ ih hs' (hlen.symm ▸ hv')
      · exact fun s h => absurd h List.not_mem_nil

theorem shots_spaced (hs : v.Staffed) (hv : v.pace.InRange v.world.creatures.length)
    (hn : 0 < v.world.creatures.length) : Shot.SpacedFrom v.lastTurn (v.shots ts) := by
  induction ts generalizing v with
  | nil => exact .nil _
  | cons t ts ih =>
    generalize hframe : v.frame t = x
    obtain ⟨v', r⟩ := x
    cases r with
    | error f =>
      rw [shots_cons_of_error hframe]
      exact .cons shot_late (.nil _)
    | ok p =>
      obtain ⟨hs', hlen, hv'⟩ := frame_keeps hs hv hframe
      -- the viewer knows when turns were run last, which is what the later frames are late from
      rw [shots_cons_of_ok hframe]
      refine .cons shot_late ?_
      rw [← lastTurn_of_frame hs hv hn hframe]
      split
      · exact ih hs' (hlen.symm ▸ hv') (hlen.symm ▸ hn)
      · exact .nil _

/-- Each frame that is shown has its picture, and only the last one can fail to be shown. -/
theorem play_eq (v : Viewer) (script : List Tick) :
    (v.play script).2.1.map (·.pauseMs) =
        ((v.shots script).filter (·.shown)).map (·.pace.pauseMs) ∧
      (∀ s ∈ (v.shots script).dropLast, s.shown = true) ∧
      ((v.play script).2.2 = .ok () ↔ ∀ s ∈ v.shots script, s.shown = true) := by
  induction script generalizing v with
  | nil => simp [play, shots]
  | cons t ts ih =>
    have hshown := v.shown_shot t
    rw [play]
    generalize hframe : v.frame t = x at hshown ⊢
    obtain ⟨v', r⟩ := x
    cases r with
    | error f =>
      have hshown : (v.shot t).shown = false := hshown
      rw [shots_cons_of_error hframe]
      simp [hshown]
    | ok p =>
      have hshown : (v.shot t).shown = true := hshown
      obtain ⟨hpictures, hbefore, hall⟩ := ih v'
      have hpause := (pace_of_frame hframe).2.2
      rw [shots_cons_of_ok hframe]
      by_cases hrunning : v'.running = true
      · simp only [hrunning, if_true]
        refine ⟨by simp [hshown, hpause, hpictures], fun s hs => ?_, ?_⟩
        · cases hlater : v'.shots ts with
          | nil => simp [hlater] at hs
          | cons next rest =>
            rw [hlater, List.dropLast_cons_cons] at hs
            rcases List.mem_cons.1 hs with rfl | hs
            · exact hshown
            · exact hbefore s (hlater ▸ hs)
        · rw [List.forall_mem_cons, hall]
          exact ⟨fun h => ⟨hshown, h⟩, And.right⟩
      · simp [hrunning, hshown, hpause]

theorem sum_turns_shots (hs : v.Staffed) (hv : v.pace.InRange v.world.creatures.length)
    (hn : 0 < v.world.creatures.length) (h : (v.play ts).2.2 = .ok ()) :
    ((v.shots ts).map (·.turns)).sum = (v.pace.play v.world.creatures.length ts).1 := by
  induction ts generalizing v with
  | nil => rfl
  | cons t ts ih =>
    rw [play] at h
    generalize hframe : v.frame t = x at h
    obtain ⟨v', r⟩ := x
    cases r with
    | error f => cases h
    | ok p =>
      obtain ⟨hready, hpace, -⟩ := pace_of_frame hframe
      obtain ⟨hs', hlen, hv'⟩ := frame_keeps hs hv hframe
      have hfirst : v.pace.frame v.world.creatures.length t = ((v.shot t).turns, v'.pace) := by
        rw [Pace.frame_eq, ← hready, hpace, turns_of_frame hs hn hframe]
      rw [shots_cons_of_ok hframe, Pace.play, hfirst, List.map_cons, List.sum_cons]
      -- whether the viewer goes on is a matter of the pace, too
      have hruns : v'.pace.running = v'.running := rfl
      by_cases hrunning : v'.running = true
      · simp only [hruns, hrunning, if_true] at h ⊢
        rw [ih hs' (hlen.symm ▸ hv') (hlen.symm ▸ hn) h, hlen]
      · simp [hruns, hrunning]

/-- The bounds of a viewer hold in every frame, whatever the controls; a frame that is shown runs no
turn, or else all the turns of a frame; and the pause goes by before the next frame that runs some. A
frame that is not shown is the last; in a world that lawful acts lead to, a file is at fault then, or a
number that an array cannot hold. -/
theorem run_paced {v v' : Viewer} {chance : Chance} {script : List Tick} {pictures : List Picture}
    {r : Except Failure Unit} (hopen : v.Opened chance)
    (hfair : chance.Fair v.world.creatures.length)
    (hrange : v.pace.InRange v.world.creatures.length) (hrun : v.run script = (v', pictures, r)) :
    let n := v.world.creatures.length
    let shots := v.shots (script ++ [{ controls := [.quit] }])
    (∀ s ∈ shots, s.pace.InRange n ∧ (s.pace.paused = true → s.turns = 0) ∧
      s.turns ≤ s.pace.turnsPerFrame ∧
      (s.shown = true → s.turns = 0 ∨ s.turns = s.pace.turnsPerFrame)) ∧
    (shots.filter (0 < ·.turns)).IsChain
      (fun s later => later.pace.pauseMs ≤ later.pace.clock - s.pace.clock) ∧
    (∀ s ∈ shots.dropLast, s.shown = true) ∧
    (r = .ok () ↔ ∀ s ∈ shots, s.shown = true) ∧
    pictures.map (·.pauseMs) = (shots.filter (·.shown)).map (·.pace.pauseMs) ∧
    (r = .ok () → 0 < n → (Stepper.steps (shots.map (·.turns)).sum v.stepper v.world
      v.chance).world = v'.world) ∧
    (v.world.Reachable Act.Lawful → ∀ f, r = .error f → f.Outside) := by
  intro n shots
  have hs := hopen.staffed hfair
  have hpaced : ∀ s ∈ shots, s.Paced n := shots_paced hs hrange
  obtain ⟨hpictures, hbefore, hall⟩ := v.play_eq (script ++ [{ controls := [.quit] }])
  have hplay : v.play (script ++ [{ controls := [.quit] }]) = (v', pictures, r) := hrun
  rw [hplay] at hpictures hall
  refine ⟨fun s h => ?_, ?_, hbefore, hall, hpictures, fun hr hn => ?_, fun hw f hf => ?_⟩
  · obtain ⟨hin, -, hrest, hmost, hshown⟩ := hpaced s h
    exact ⟨hin, hrest, hmost, hshown⟩
  · rcases Nat.eq_zero_or_pos n with hn | hn
    · have hnone : shots.filter (0 < ·.turns) = [] := by
        rw [List.filter_eq_nil_iff]
        exact fun s h => by simp [(hpaced s h).nobody hn]
      rw [hnone]
      exact .nil
    · exact (shots_spaced hs hrange hn).1
  · subst hr
    obtain ⟨rounds, hcourse⟩ := run_eq_ok hrun
    obtain ⟨-, -, hworld, -⟩ := hcourse.simulates
    rw [sum_turns_shots hs hrange hn (congrArg (·.2.2) hplay)]
    exact hworld
  · subst hf
    obtain ⟨k, rounds, w, hcourse, hfails⟩ := run_eq_error hrun
    exact hfails.outside (hcourse.steady (hopen.steady hfair hw))

def idlers : World :=
  (Act.spawn 0 ⟨1, 0⟩ .west).after <| (Act.spawn 0 ⟨0, 0⟩ .east).after <|
    (Act.enrol ⟨"Idler", ⟨0, 0, 0⟩, ⟨#[.label "on"]⟩⟩).after ⟨.empty 2 1, [], []⟩

theorem idlers_reachable : idlers.Reachable Act.Lawful := by
  have hidler : Species.ofSource "Idler\non:" ⟨0, 0, 0⟩ =
    .ok ⟨"Idler", ⟨0, 0, 0⟩, ⟨#[.label "on"]⟩⟩ := by rfl
  exact ⟨2, 1, ⟨.empty 2 1, [], []⟩, _, rfl, .act (.act (.act .start ⟨_, _, hidler⟩)
    ⟨by decide, by decide⟩) ⟨by decide, by decide⟩⟩

def seated (start : Stepper × Chance) (ledger : Option String) (pauseMs : Int)
    (directory : Directory) : Viewer :=
  { world := idlers, chance := start.2, stepper := start.1, scene := [], pauseMs,
    turnsPerFrame := 1, ledger, session := "0", stamp := "0", recording := .new, directory }

/-- Two turns at once, none as it is too soon, two after a shorter pause, and none while it is paused. -/
theorem run_paced_idlers :
    let chance : Chance := ⟨[], [[0, 1], [1, 0], [0, 1]], ⟨#[], 0⟩⟩
    let v := seated (Stepper.start idlers chance) none 100 {}
    let script : List Tick := [⟨some 100, [.moreTurns]⟩, ⟨some 179, []⟩, ⟨some 180, [.faster]⟩,
      ⟨some 900, [.pause, .slower]⟩]
    let shots := v.shots (script ++ [{ controls := [.quit] }])
    v.Opened chance ∧ chance.Fair 2 ∧ v.pace.InRange 2 ∧ shots.map (·.turns) = [2, 0, 2, 0, 0] ∧
      (∀ s ∈ shots, s.pace.InRange 2 ∧ (s.pace.paused = true → s.turns = 0) ∧
        (s.turns = 0 ∨ s.turns = s.pace.turnsPerFrame)) ∧
      (shots.filter (0 < ·.turns)).IsChain
        fun s later => later.pace.pauseMs ≤ later.pace.clock - s.pace.clock := by
  intro chance v script shots
  have hfair : chance.Fair 2 := Chance.fair_of_isPerm (by decide)
  have hopen : v.Opened chance := rfl
  have hrange : v.pace.InRange 2 := ⟨by decide, by decide, by decide, by decide⟩
  have hrun := run_of_isOk (show (v.run script).2.2.isOk by decide +kernel)
  obtain ⟨hframes, hspaced, -, hshown, -⟩ := run_paced hopen hfair hrange hrun
  refine ⟨hopen, hfair, hrange, by decide +kernel, fun s h => ?_, hspaced⟩
  obtain ⟨hin, hrest, -, hall⟩ := hframes s h
  exact ⟨hin, hrest, hall (hshown.1 rfl s h)⟩

/-- A folder in place of the ledger ends the frame after one of its two turns. -/
theorem frame_cut_off_by_ledger :
    let chance : Chance := ⟨[], [[0, 1], [0, 1]], ⟨#[], 0⟩⟩
    let v := seated (Stepper.start idlers chance) (some "runs") 0 ⟨[], [["runs"]]⟩
    let script : List Tick := [⟨some 0, []⟩, ⟨some 0, [.moreTurns]⟩]
    v.Opened chance ∧ chance.Fair 2 ∧ v.world.Reachable Act.Lawful ∧ v.pace.InRange 2 ∧
      ¬ ∀ s ∈ v.shots (script ++ [{ controls := [.quit] }]),
        s.turns = 0 ∨ s.turns = s.pace.turnsPerFrame := by
  intro chance v script
  have hrange : v.pace.InRange 2 := ⟨by decide, by decide, by decide, by decide⟩
  exact ⟨rfl, Chance.fair_of_isPerm (by decide), idlers_reachable, hrange, by decide +kernel⟩

end Run

end Viewer
end Vivarium
