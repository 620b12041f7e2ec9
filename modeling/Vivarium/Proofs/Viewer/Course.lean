import Vivarium.Proofs.Ledger
import Vivarium.Proofs.Round.Stepwise
import Vivarium.Viewer

/-! What becomes of a viewer frame by frame. Its pace alone says how many steps its simulation takes;
the world, the ledger and the recording have no part in it but for the number of the creatures. -/
namespace Vivarium

/-- What decides in which frames a viewer takes steps, and how many. -/
structure Pace where
  pauseMs : Int
  turnsPerFrame : Int
  paused : Bool
  clock : Int
  lastTurn : Int
  running : Bool

namespace Pace

def control (creatures : Nat) (p : Pace) : Control → Pace
  | .quit => { p with running := false }
  | .pause => { p with paused := !p.paused }
  | .fewerTurns => { p with turnsPerFrame := max 1 (p.turnsPerFrame - 1) }
  | .moreTurns => { p with turnsPerFrame := min (max 1 creatures) (p.turnsPerFrame + 1) }
  | .faster => { p with pauseMs := max 0 (p.pauseMs - Viewer.pauseStep) }
  | .slower => { p with pauseMs := min Viewer.maxPause (p.pauseMs + Viewer.pauseStep) }
  | .record | .clear | .save | .other => p

def turns (p : Pace) : Nat × Pace :=
  if !p.paused && p.pauseMs ≤ p.clock - p.lastTurn then
    (p.turnsPerFrame.toNat, { p with lastTurn := p.clock })
  else (0, p)

def frame (creatures : Nat) (p : Pace) (t : Tick) : Nat × Pace :=
  let p := t.controls.foldl (control creatures) p
  { p with clock := t.time.getD p.clock }.turns

def play (creatures : Nat) (p : Pace) : List Tick → Nat × Pace
  | [] => (0, p)
  | t :: ts =>
    let (k, p) := p.frame creatures t
    if p.running then
      let (j, p) := play creatures p ts
      (k + j, p)
    else (k, p)

def steps (creatures : Nat) (p : Pace) (script : List Tick) : Nat :=
  (p.play creatures (script ++ [{ controls := [.quit] }])).1

end Pace

namespace Viewer

/-- A viewer that was just opened on its world. -/
def Opened (v : Viewer) (chance : Chance) : Prop :=
  (v.stepper, v.chance) = Stepper.start v.world chance

def pace (v : Viewer) : Pace :=
  ⟨v.pauseMs, v.turnsPerFrame, v.paused, v.clock, v.lastTurn, v.running⟩

theorem saveRecording_eq_ok {v v' : Viewer} (h : v.saveRecording = (v', .ok ())) :
    ∃ directory out, v' = { v with directory, out } ∧ (directory = v.directory ∨
      v.recording.save v.world v.directory (Recording.defaultPath v.stamp) = (directory, .ok ())) := by
  unfold saveRecording at h
  split at h
  · obtain rfl := (Prod.mk.inj h).1
    exact ⟨_, _, rfl, .inl rfl⟩
  · dsimp only at h
    split at h
    · cases h
    · next hsave =>
      obtain rfl := (Prod.mk.inj h).1
      exact ⟨_, _, rfl, .inr hsave⟩

theorem saveRecording_eq_error {v v' : Viewer} {f : Failure}
    (h : v.saveRecording = (v', .error f)) :
    ∃ directory fault, v' = { v with directory } ∧ f = .ofSave fault := by
  unfold saveRecording at h
  split at h
  · cases h
  · dsimp only at h
    split at h
    · next fault _ =>
      obtain ⟨rfl, hf⟩ := Prod.mk.inj h
      exact ⟨_, fault, rfl, (Except.error.inj hf).symm⟩
    · cases h

section Control

variable {v v' : Viewer} {c : Control} (h : v.control c = (v', .ok ()))
include h

theorem control_keeps : v'.world = v.world ∧ v'.chance = v.chance ∧ v'.stepper = v.stepper ∧
    v'.ledger = v.ledger ∧ v'.session = v.session ∧ v'.stamp = v.stamp := by
  cases c
  case save =>
    change v.saveRecording = _ at h
    obtain ⟨directory, out, rfl, -⟩ := saveRecording_eq_ok h
    exact ⟨rfl, rfl, rfl, rfl, rfl, rfl⟩
  all_goals
    obtain rfl := (Prod.mk.inj h).1
    exact ⟨rfl, rfl, rfl, rfl, rfl, rfl⟩

theorem pace_control : v'.pace = v.pace.control v.world.creatures.length c := by
  cases c
  case save =>
    change v.saveRecording = _ at h
    obtain ⟨directory, out, rfl, -⟩ := saveRecording_eq_ok h
    rfl
  all_goals
    obtain rfl := (Prod.mk.inj h).1
    rfl

theorem directory_control : v'.directory = v.directory ∨ c = .save ∧
    v.recording.save v.world v.directory (Recording.defaultPath v.stamp) =
      (v'.directory, .ok ()) := by
  cases c
  case save =>
    change v.saveRecording = _ at h
    obtain ⟨directory, out, rfl, hd⟩ := saveRecording_eq_ok h
    exact hd.imp_right fun hsave => ⟨rfl, hsave⟩
  all_goals
    obtain rfl := (Prod.mk.inj h).1
    exact .inl rfl

theorem recording_control (hrecord : c ≠ .record) (hclear : c ≠ .clear) :
    v'.recording = v.recording := by
  cases c
  case save =>
    change v.saveRecording = _ at h
    obtain ⟨directory, out, rfl, -⟩ := saveRecording_eq_ok h
    rfl
  case record => exact absurd rfl hrecord
  case clear => exact absurd rfl hclear
  all_goals
    obtain rfl := (Prod.mk.inj h).1
    rfl

end Control

/-- The viewer once the turn of its next step is taken, but the end of the round not looked at. -/
def turned (v : Viewer) : Viewer :=
  let (stepper, turn) := v.stepper.step v.world v.chance
  { v with
    stepper
    world := turn.world
    chance := turn.chance
    scene := v.scene.applyAll turn.events
    notices := v.notices ++ turn.notices }

/-- The round that is over with the next step, if one is. -/
def closed (v : Viewer) (ended : Bool) : List (Tally × World) :=
  (Stepper.trail v.turned.stepper ended v.turned.world).rounds

theorem step_eq (v : Viewer) : v.step =
    match (v.stepper.step v.world v.chance).2.result with
    | .error f => (v.turned, .error (.world f))
    | .ok false => (v.turned, .ok ())
    | .ok true => v.turned.endRound := rfl

/-- What becomes of the recording and the directory when rounds end: at most one frame is taken for
a round, and its rows are entered into the ledger. -/
inductive Logged (v : Viewer) : List (Tally × World) → Recording → Directory → Prop
  | nothing : Logged v [] v.recording v.directory
  | round {tally : Tally} {recording : Recording} {directory : Directory} :
      v.recording.capture v.world tally.round = .ok recording →
      Ledger.entry v.ledger v.session tally v.world v.directory = (directory, .ok ()) →
      Logged v [(tally, v.world)] recording directory

theorem enter_eq (v : Viewer) (tally : Tally) : v.enter tally =
    let (directory, r) := Ledger.entry v.ledger v.session tally v.world v.directory
    ({ v with directory }, r) := by
  obtain ⟨w, _, _, _, _, _, ledger, session⟩ := v
  cases ledger with
  | none => rfl
  | some path =>
    simp only [enter, Ledger.entry]
    cases Ledger.rows tally w session <;> dsimp only

theorem endRound_eq_ok {v v' : Viewer} (h : v.endRound = (v', .ok ())) :
    ∃ recording directory, v' = { v with recording, directory } ∧
      v.Logged (v.stepper.last.map fun tally => (tally, v.world)).toList recording directory := by
  unfold endRound at h
  cases hl : v.stepper.last with
  | none =>
    obtain rfl := (Prod.mk.inj (hl ▸ h)).1
    exact ⟨_, _, rfl, .nothing⟩
  | some tally =>
    simp only [hl] at h
    cases hc : v.recording.capture v.world tally.round with
    | error o => simp [hc] at h
    | ok recording =>
      simp only [hc, enter_eq] at h
      generalize he : Ledger.entry v.ledger v.session tally v.world v.directory = entered at h
      obtain ⟨directory, r⟩ := entered
      obtain ⟨rfl, rfl⟩ := Prod.mk.inj h
      exact ⟨recording, directory, rfl, .round hc he⟩

theorem step_eq_ok {v v' : Viewer} (h : v.step = (v', .ok ())) :
    ∃ ended recording directory, v' = { v.turned with recording, directory } ∧
      (v.stepper.step v.world v.chance).2.result = .ok ended ∧
      v.turned.Logged (v.closed ended) recording directory := by
  rw [step_eq] at h
  split at h
  · cases h
  · next hr =>
    obtain rfl := (Prod.mk.inj h).1
    exact ⟨false, v.turned.recording, v.turned.directory, rfl, hr, .nothing⟩
  · next hr =>
    obtain ⟨recording, directory, rfl, hlogged⟩ := endRound_eq_ok h
    exact ⟨true, recording, directory, rfl, hr, hlogged⟩

theorem frame_eq (v : Viewer) (t : Tick) : ((v.frame t).1, (v.frame t).2.map fun _ => ()) =
    match v.controls t.controls with
    | (v, .error f) => (v, .error f)
    | (v, .ok ()) =>
      match { v with clock := t.time.getD v.clock }.turns with
      | (v, .error f) => (v, .error f)
      | (v, .ok ()) => (v, v.picture.map fun _ => ()) := by
  rw [frame]
  generalize v.controls t.controls = x
  obtain ⟨v', r⟩ := x
  cases r with
  | error f => rfl
  | ok a =>
    dsimp only
    generalize { v' with clock := t.time.getD v'.clock }.turns = y
    obtain ⟨w, r⟩ := y
    cases r <;> rfl

theorem play_cons (v : Viewer) (t : Tick) (ts : List Tick) :
    ((v.play (t :: ts)).1, (v.play (t :: ts)).2.2) =
      match ((v.frame t).1, (v.frame t).2.map fun _ => ()) with
      | (v, .error f) => (v, .error f)
      | (v, .ok ()) => if v.running then ((v.play ts).1, (v.play ts).2.2) else (v, .ok ()) := by
  rw [play]
  generalize v.frame t = x
  obtain ⟨v', r⟩ := x
  cases r with
  | error f => rfl
  | ok p =>
    dsimp only [Except.map]
    split <;> rfl

/-- A viewer's way through controls that keep to a rule, readings of the clock and steps, as long as
nothing fails: how many steps there were, and the rounds that are over, each with the world at its
end. -/
inductive Course (rule : Control → Prop) (u : Viewer) : Nat → List (Tally × World) → Viewer → Prop
  | start : Course rule u 0 [] u
  | control {k : Nat} {rounds : List (Tally × World)} {v v' : Viewer} {c : Control} :
      Course rule u k rounds v → rule c → v.control c = (v', .ok ()) → Course rule u k rounds v'
  | wait {k : Nat} {rounds : List (Tally × World)} {v : Viewer} (clock lastTurn : Int) :
      Course rule u k rounds v → Course rule u k rounds { v with clock, lastTurn }
  | step {k : Nat} {rounds : List (Tally × World)} {v : Viewer} {ended : Bool}
      {recording : Recording} {directory : Directory} :
      Course rule u k rounds v → (v.stepper.step v.world v.chance).2.result = .ok ended →
      v.turned.Logged (v.closed ended) recording directory →
      Course rule u (k + 1) (rounds ++ v.closed ended) { v.turned with recording, directory }

/-- What can end a run before its time. -/
inductive Fails (v : Viewer) : Viewer → Failure → Prop
  | control {v' : Viewer} {c : Control} {f : Failure} : v.control c = (v', .error f) → Fails v v' f
  | step {v' : Viewer} {f : Failure} : v.step = (v', .error f) → Fails v v' f
  | picture {f : Failure} : v.picture = .error f → Fails v v f

namespace Course

variable {rule : Control → Prop} {u v w : Viewer} {j k : Nat} {rounds others : List (Tally × World)}

theorem trans (h : Course rule u j rounds v) (h' : Course rule v k others w) :
    Course rule u (j + k) (rounds ++ others) w := by
  induction h' with
  | start => simpa using h
  | control _ hc hv ih => exact ih.control hc hv
  | wait clock lastTurn _ ih => exact ih.wait clock lastTurn
  | step _ hr hlogged ih =>
    rw [← Nat.add_assoc, ← List.append_assoc]
    exact ih.step hr hlogged

theorem length (h : Course rule u k rounds v) :
    v.world.creatures.length = u.world.creatures.length := by
  induction h with
  | start => rfl
  | control _ _ hv ih => rw [(control_keeps hv).1, ih]
  | wait _ _ _ ih => exact ih
  | step _ _ _ ih => exact (Stepper.length_step ..).trans ih

theorem keeps (h : Course rule u k rounds v) :
    v.ledger = u.ledger ∧ v.session = u.session ∧ v.stamp = u.stamp := by
  induction h with
  | start => exact ⟨rfl, rfl, rfl⟩
  | control _ _ hv ih =>
    obtain ⟨-, -, -, hledger, hsession, hstamp⟩ := control_keeps hv
    rwa [hledger, hsession, hstamp]
  | wait _ _ _ ih => exact ih
  | step _ _ _ ih => exact ih

/-- The simulation is the one that the steps give, whatever the viewer does besides. -/
theorem simulates (h : Course rule u k rounds v) :
    ∃ ends, (Stepper.steps k u.stepper u.world u.chance).result = .ok ⟨v.stepper, ends, rounds⟩ ∧
      (Stepper.steps k u.stepper u.world u.chance).world = v.world ∧
      (Stepper.steps k u.stepper u.world u.chance).chance = v.chance := by
  induction h with
  | start => exact ⟨[], rfl, rfl, rfl⟩
  | control _ _ hv ih =>
    obtain ⟨hworld, hchance, hstepper, -⟩ := control_keeps hv
    rwa [hworld, hchance, hstepper]
  | wait _ _ _ ih => exact ih
  | @step k rounds v ended recording directory _ hr _ ih =>
    obtain ⟨ends, hresult, hworld, hchance⟩ := ih
    refine ⟨ends ++ [ended], ?_⟩
    -- one more step is taken from where the steps so far have led; its trail follows on theirs
    have hadvance : v.stepper.advance v.world v.chance =
        { (v.stepper.step v.world v.chance).2 with result := .ok (v.turned.stepper, ended) } := by
      simp only [Stepper.advance, Episode.map, hr, Except.map]
      rfl
    rw [Stepper.steps_add, Episode.andThen_of_ok hresult, hworld, hchance, Stepper.steps_one,
      hadvance]
    exact ⟨rfl, rfl, rfl⟩

end Course

/-- What a stretch of a run comes to: the steps it takes and the pace after it, or a failure. -/
def Comes (rule : Control → Prop) (u : Viewer) (taken : Nat × Pace) :
    Viewer × Except Failure Unit → Prop
  | (v, .ok ()) => (∃ rounds, Course rule u taken.1 rounds v) ∧ v.pace = taken.2
  | (v, .error f) => ∃ k rounds w, Course rule u k rounds w ∧ w.Fails v f

namespace Comes

variable {rule : Control → Prop} {u : Viewer} {taken later : Nat × Pace}

theorem andThen {x : Viewer × Except Failure Unit} {next : Viewer → Viewer × Except Failure Unit} :
    Comes rule u taken x →
    (∀ v, v.pace = taken.2 → v.world.creatures.length = u.world.creatures.length →
      Comes rule v later (next v)) →
    Comes rule u (taken.1 + later.1, later.2)
      (match x with
        | (v, .error f) => (v, .error f)
        | (v, .ok ()) => next v) := by
  intro h hn
  obtain ⟨v, r⟩ := x
  cases r with
  | error f => exact h
  | ok a =>
    obtain ⟨⟨rounds, hcourse⟩, hpace⟩ := h
    have hnext := hn v hpace hcourse.length
    dsimp only
    generalize next v = y at hnext ⊢
    obtain ⟨w, r⟩ := y
    cases r with
    | error f =>
      obtain ⟨k, others, w', hw, hfails⟩ := hnext
      exact ⟨_, _, w', hcourse.trans hw, hfails⟩
    | ok b =>
      obtain ⟨⟨others, hw⟩, hlater⟩ := hnext
      exact ⟨⟨_, hcourse.trans hw⟩, hlater⟩

theorem control (v : Viewer) {c : Control} (hc : rule c) :
    Comes rule v (0, v.pace.control v.world.creatures.length c) (v.control c) := by
  generalize h : v.control c = x
  obtain ⟨v', r⟩ := x
  cases r with
  | error f => exact ⟨0, [], v, .start, .control h⟩
  | ok a => exact ⟨⟨[], .control .start hc h⟩, pace_control h⟩

theorem controls (v : Viewer) {cs : List Control} (hcs : ∀ c ∈ cs, rule c) :
    Comes rule v (0, cs.foldl (Pace.control v.world.creatures.length) v.pace) (v.controls cs) := by
  induction cs generalizing v with
  | nil => exact ⟨⟨[], .start⟩, rfl⟩
  | cons c cs ih =>
    have hrest (v' : Viewer) (hpace : v'.pace = v.pace.control v.world.creatures.length c)
        (hlen : v'.world.creatures.length = v.world.creatures.length) :
        Comes rule v' (0, (c :: cs).foldl (Pace.control v.world.creatures.length) v.pace)
          (v'.controls cs) := by
      rw [List.foldl_cons, ← hpace, ← hlen]
      exact ih v' fun d hd => hcs d (List.mem_cons_of_mem c hd)
    exact (control v (hcs c List.mem_cons_self)).andThen hrest

theorem step (v : Viewer) : Comes rule v (1, v.pace) v.step := by
  generalize h : v.step = x
  obtain ⟨v', r⟩ := x
  cases r with
  | error f => exact ⟨0, [], v, .start, .step h⟩
  | ok a =>
    obtain ⟨ended, recording, directory, rfl, hr, hlogged⟩ := step_eq_ok h
    exact ⟨⟨_, .step .start hr hlogged⟩, rfl⟩

theorem steps (k : Nat) (v : Viewer) : Comes rule v (k, v.pace) (Viewer.steps k v) := by
  induction k generalizing v with
  | zero => exact ⟨⟨[], .start⟩, rfl⟩
  | succ k ih =>
    have hrest (v' : Viewer) (hpace : v'.pace = v.pace)
        (_ : v'.world.creatures.length = v.world.creatures.length) :
        Comes rule v' (k, v.pace) (Viewer.steps k v') := hpace ▸ ih v'
    have hsteps := (step v).andThen hrest
    rw [Nat.add_comm] at hsteps
    exact hsteps

theorem wait {v : Viewer} {clock lastTurn : Int} {x : Viewer × Except Failure Unit}
    (h : Comes rule { v with clock, lastTurn } taken x) : Comes rule v taken x := by
  obtain ⟨v', r⟩ := x
  have hwait : Course rule v 0 [] { v with clock, lastTurn } := .wait clock lastTurn .start
  cases r with
  | error f =>
    obtain ⟨k, rounds, w, hw, hfails⟩ := h
    exact ⟨_, _, w, hwait.trans hw, hfails⟩
  | ok a =>
    obtain ⟨⟨rounds, hw⟩, hpace⟩ := h
    exact ⟨⟨rounds, by simpa using hwait.trans hw⟩, hpace⟩

theorem turns (v : Viewer) : Comes rule v v.pace.turns v.turns := by
  unfold Viewer.turns
  by_cases hdue : v.due
  · have hturns : v.pace.turns = (v.turnsPerFrame.toNat, { v.pace with lastTurn := v.clock }) :=
      if_pos hdue
    rw [if_pos hdue, hturns]
    exact (steps v.turnsPerFrame.toNat { v with lastTurn := v.clock }).wait
  · have hturns : v.pace.turns = (0, v.pace) := if_neg hdue
    rw [if_neg hdue, hturns]
    exact ⟨⟨[], .start⟩, rfl⟩

theorem picture (v : Viewer) : Comes rule v (0, v.pace) (v, v.picture.map fun _ => ()) := by
  cases h : v.picture with
  | error f => exact ⟨0, [], v, .start, .picture h⟩
  | ok p => exact ⟨⟨[], .start⟩, rfl⟩

theorem frame (v : Viewer) {t : Tick} (ht : ∀ c ∈ t.controls, rule c) :
    Comes rule v (v.pace.frame v.world.creatures.length t)
      ((v.frame t).1, (v.frame t).2.map fun _ => ()) := by
  have hcontrols := controls v ht
  rw [frame_eq, Pace.frame]
  generalize t.controls.foldl (Pace.control v.world.creatures.length) v.pace = p at hcontrols ⊢
  have hrest (v' : Viewer) (hpace : v'.pace = p)
      (_ : v'.world.creatures.length = v.world.creatures.length) :
      Comes rule v' { p with clock := t.time.getD p.clock }.turns
        (match { v' with clock := t.time.getD v'.clock }.turns with
          | (v, .error f) => (v, .error f)
          | (v, .ok ()) => (v, v.picture.map fun _ => ())) := by
    subst hpace
    exact ((turns { v' with clock := t.time.getD v'.clock }).andThen
      fun w hw _ => hw ▸ picture w).wait
  have hframe := hcontrols.andThen hrest
  rwa [Nat.zero_add] at hframe

theorem play (v : Viewer) {script : List Tick} (hscript : ∀ t ∈ script, ∀ c ∈ t.controls, rule c) :
    Comes rule v (v.pace.play v.world.creatures.length script)
      ((v.play script).1, (v.play script).2.2) := by
  induction script generalizing v with
  | nil => exact ⟨⟨[], .start⟩, rfl⟩
  | cons t ts ih =>
    rw [play_cons, Pace.play]
    have hframe := frame v (hscript t List.mem_cons_self)
    generalize v.pace.frame v.world.creatures.length t = taken at hframe ⊢
    obtain ⟨k, p⟩ := taken
    -- whether the viewer goes on is a matter of the pace, too
    have hrest (v' : Viewer) (hpace : v'.pace = p)
        (hlen : v'.world.creatures.length = v.world.creatures.length) :
        Comes rule v' (if p.running then p.play v.world.creatures.length ts else (0, p))
          (if v'.running then ((v'.play ts).1, (v'.play ts).2.2) else (v', .ok ())) := by
      rw [← hpace, ← hlen]
      change Comes rule v' (if v'.running then _ else _) _
      split
      · exact ih v' fun t ht => hscript t (List.mem_cons_of_mem _ ht)
      · exact ⟨⟨[], .start⟩, rfl⟩
    have hplay := hframe.andThen hrest
    dsimp only
    split at hplay
    · next hp =>
      rw [if_pos hp]
      exact hplay
    · next hp =>
      rw [if_neg hp]
      exact hplay

end Comes

/-- A control is used in a script, or closes the window after it. -/
def Used (script : List Tick) (c : Control) : Prop :=
  ∃ t ∈ script ++ [{ controls := [.quit] }], c ∈ t.controls

theorem used_iff {script : List Tick} {c : Control} (hc : c ≠ .quit) :
    Used script c ↔ ∃ t ∈ script, c ∈ t.controls := by
  simp [Used, or_and_right, exists_or, hc]

theorem run_comes (v : Viewer) (script : List Tick) :
    Comes (Used script) v (v.pace.play v.world.creatures.length (script ++ [{ controls := [.quit] }]))
      ((v.run script).1, (v.run script).2.2) :=
  .play v fun t ht _ hc => ⟨t, ht, hc⟩

theorem run_eq_ok {v v' : Viewer} {script : List Tick} {pictures : List Picture}
    (h : v.run script = (v', pictures, .ok ())) :
    ∃ rounds, Course (Used script) v (v.pace.steps v.world.creatures.length script) rounds v' := by
  have hrun := v.run_comes script
  rw [h] at hrun
  exact hrun.1

theorem run_eq_error {v v' : Viewer} {script : List Tick} {pictures : List Picture} {f : Failure}
    (h : v.run script = (v', pictures, .error f)) :
    ∃ k rounds w, Course (Used script) v k rounds w ∧ w.Fails v' f := by
  have hrun := v.run_comes script
  rwa [h] at hrun

end Viewer
end Vivarium
