import Vivarium.Display.Drawing
import Vivarium.Failure
import Vivarium.Ledger
import Vivarium.Round

/-!
The viewer: it shows a world while its creatures take their turns, frame by frame, at a pace that
the user controls.
-/
namespace Vivarium

/-- What a user does at the keyboard or to the window. -/
inductive Control
  | quit | pause | fewerTurns | moreTurns | faster | slower | record | clear | save | other
  deriving DecidableEq, Repr

/-- What one frame begins with: the reading of the clock, unless it stands, and the controls. -/
structure Tick where
  time : Option Int := none
  controls : List Control
  deriving DecidableEq, Repr

structure Picture where
  status : List String
  scene : Scene
  pauseMs : Int
  deriving DecidableEq, Repr

structure Viewer where
  world : World
  chance : Chance
  stepper : Stepper
  scene : Scene
  /-- The time between two frames that run turns is at least this long. -/
  pauseMs : Int
  turnsPerFrame : Int
  ledger : Option String
  session : String
  /-- Goes into the name of a recording that is saved. -/
  stamp : String
  recording : Recording
  directory : Directory
  paused : Bool := false
  clock : Int := 0
  lastTurn : Int := 0
  running : Bool := true
  out : List String := []
  notices : List Notice := []

namespace Viewer

def pauseStep : Int := 20
def maxPause : Int := 2000

def say (v : Viewer) (line : String) : Viewer := { v with out := v.out ++ [line] }

def saveRecording (v : Viewer) : Viewer × Except Failure Unit :=
  if v.recording.frames.isEmpty then (v.say Recording.nothingToSave, .ok ())
  else
    let path := Recording.defaultPath v.stamp
    match v.recording.save v.world v.directory path with
    | (directory, .error f) => ({ v with directory }, .error (.ofSave f))
    | (directory, .ok ()) => ({ v with directory }.say (v.recording.savedText path), .ok ())

def control (v : Viewer) : Control → Viewer × Except Failure Unit
  | .quit => ({ v with running := false }, .ok ())
  | .pause => ({ v with paused := !v.paused }, .ok ())
  | .fewerTurns => ({ v with turnsPerFrame := max 1 (v.turnsPerFrame - 1) }, .ok ())
  | .moreTurns =>
    let most : Int := max 1 v.world.creatures.length
    ({ v with turnsPerFrame := min most (v.turnsPerFrame + 1) }, .ok ())
  | .faster => ({ v with pauseMs := max 0 (v.pauseMs - pauseStep) }, .ok ())
  | .slower => ({ v with pauseMs := min maxPause (v.pauseMs + pauseStep) }, .ok ())
  | .record =>
    let recording := v.recording.toggle
    ({ v with recording }.say recording.toggledText, .ok ())
  | .clear => ({ v with recording := v.recording.clear }.say Recording.clearedText, .ok ())
  | .save => v.saveRecording
  | .other => (v, .ok ())

def controls (v : Viewer) : List Control → Viewer × Except Failure Unit
  | [] => (v, .ok ())
  | c :: cs =>
    match v.control c with
    | (v, .error f) => (v, .error f)
    | (v, .ok ()) => controls v cs

/-- Enters a round into the ledger if one is written. -/
def enter (v : Viewer) (tally : Tally) : Viewer × Except Failure Unit :=
  match v.ledger with
  | none => (v, .ok ())
  | some path =>
    match Ledger.rows tally v.world v.session with
    | .error f => (v, .error (.world f))
    | .ok rows =>
      let (directory, result) := Ledger.append v.directory path (rows.map (·.fields))
      ({ v with directory }, result.mapError .file)

/-- The end of a round: a frame for the recording, and the round's rows for the ledger. -/
def endRound (v : Viewer) : Viewer × Except Failure Unit :=
  match v.stepper.last with
  | none => (v, .ok ())
  | some tally =>
    match v.recording.capture v.world tally.round with
    | .error o => (v, .error (.overflow o))
    | .ok recording => { v with recording }.enter tally

def step (v : Viewer) : Viewer × Except Failure Unit :=
  let (stepper, turn) := v.stepper.step v.world v.chance
  let v := { v with
    stepper
    world := turn.world
    chance := turn.chance
    scene := v.scene.applyAll turn.events
    notices := v.notices ++ turn.notices }
  match turn.result with
  | .error f => (v, .error (.world f))
  | .ok false => (v, .ok ())
  | .ok true => v.endRound

def steps : Nat → Viewer → Viewer × Except Failure Unit
  | 0, v => (v, .ok ())
  | n + 1, v =>
    match v.step with
    | (v, .error f) => (v, .error f)
    | (v, .ok ()) => steps n v

/-- Turns are due once the pause since the last ones is over. -/
def due (v : Viewer) : Bool := !v.paused && v.pauseMs ≤ v.clock - v.lastTurn

def turns (v : Viewer) : Viewer × Except Failure Unit :=
  if v.due then steps v.turnsPerFrame.toNat { v with lastTurn := v.clock } else (v, .ok ())

def picture (v : Viewer) : Except Failure Picture :=
  match v.world.census with
  | .error f => .error (.world f)
  | .ok census =>
    let round := Status.roundLine v.stepper.round v.turnsPerFrame v.paused v.recording.enabled
    .ok ⟨[round, Status.censusLine census], v.scene, v.pauseMs⟩

/-- The frame of a tick: its controls, then the turns that are due, then the picture. -/
def frame (v : Viewer) (t : Tick) : Viewer × Except Failure Picture :=
  match v.controls t.controls with
  | (v, .error f) => (v, .error f)
  | (v, .ok ()) =>
    match { v with clock := t.time.getD v.clock }.turns with
    | (v, .error f) => (v, .error f)
    | (v, .ok ()) => (v, v.picture)

/-- The frames of a script, up to the one in which the viewer quits. -/
def play (v : Viewer) : List Tick → Viewer × List Picture × Except Failure Unit
  | [] => (v, [], .ok ())
  | t :: ts =>
    match v.frame t with
    | (v, .error f) => (v, [], .error f)
    | (v, .ok p) =>
      if v.running then
        let (v, ps, r) := play v ts
        (v, p :: ps, r)
      else (v, [p], .ok ())

/-- A script that does not quit is followed by a last frame in which the window is closed. -/
def run (v : Viewer) (script : List Tick) : Viewer × List Picture × Except Failure Unit :=
  v.play (script ++ [{ controls := [.quit] }])

/-- The recording that a viewer keeps if one is handed to it: a recording without frames is not
taken over, a new one that is off takes its place. -/
def adopt (given : Option Recording) : Recording :=
  match given with
  | some r => if r.frames.isEmpty then .new else r
  | none => .new

def handedBack (given : Recording) (v : Viewer) : Recording :=
  if given.frames.isEmpty then given else v.recording

def caption (w : World) : String := "Darwin: " ++ ", ".intercalate (w.species.map (·.name))

def layout (w : World) (side : Int) : Layout := ⟨w.grid.width, w.grid.height, side⟩

end Viewer
end Vivarium
