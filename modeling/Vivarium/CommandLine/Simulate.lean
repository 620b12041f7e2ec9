import Vivarium.CommandLine.Words
import Vivarium.Episode
import Vivarium.Headless
import Vivarium.Viewer

/-! The command line of the simulation. -/
namespace Vivarium.Simulate

open CommandLine (Ending Spec Value)

/-- What a user may set. A setting that was named without a value is none. -/
structure Settings where
  species : List (Option String) := []
  rounds : Option Int := some 200
  seed : Option Int := some 42
  width : Option Int := some 15
  height : Option Int := some 15
  perSpecies : Option Int := some 10
  ledger : String := "runs/rounds.csv"
  recording : String := ""
  showPrograms : Bool := false
  display : Bool := false
  /-- The pause that was set, if one was. -/
  pauseMs : Option (Option Int) := none
  deriving DecidableEq, Repr

def specs : List Spec := [
  ⟨"--help", .help⟩, ⟨"--species", .text⟩, ⟨"--rounds", .integer⟩,
  ⟨"--seed", .integer⟩, ⟨"--width", .integer⟩, ⟨"--height", .integer⟩,
  ⟨"--per-species", .integer⟩, ⟨"--csv", .text⟩, ⟨"--record", .text⟩,
  ⟨"--show-programs", .flag⟩, ⟨"--ui", .flag⟩, ⟨"--pause-ms", .integer⟩]

/-- The last value of an option counts; species add up. -/
def Settings.put (s : Settings) (name : String) (value : Value) : Settings :=
  match name with
  | "--species" => { s with species := s.species ++ [value.text?] }
  | "--rounds" => { s with rounds := value.integer? }
  | "--seed" => { s with seed := value.integer? }
  | "--width" => { s with width := value.integer? }
  | "--height" => { s with height := value.integer? }
  | "--per-species" => { s with perSpecies := value.integer? }
  | "--csv" => { s with ledger := value.text?.getD "" }
  | "--record" => { s with recording := value.text?.getD "" }
  | "--show-programs" => { s with showPrograms := true }
  | "--ui" => { s with display := true }
  | "--pause-ms" => { s with pauseMs := some value.integer? }
  | _ => s

structure Surroundings where
  directory : Directory
  input : String := ""
  script : List Tick := []
  session : String
  stamp : String
  side : Int := 40
  pauseMs : Int := 100
  turnsPerFrame : Int := 1

structure Show where
  caption : String
  layout : Layout
  pictures : List Picture
  deriving DecidableEq, Repr

structure Report where
  out : String := ""
  err : String := ""
  directory : Directory
  shown : Option Show := none
  ending : Ending Failure

def asLines (ls : List String) : String := String.join (ls.map (· ++ "\n"))

/-- An expected failure is reported with exit code 2. -/
def Report.fail (r : Report) (f : Failure) : Report :=
  if f.isExpected then
    { r with err := r.err ++ s!"[error] {f.message}\n", ending := .code 2 }
  else { r with ending := .failure f }

def loadAll (d : Directory) : List (Option String) → Except Failure (List Species)
  | [] => .ok []
  | none :: _ => .error (.unvalued .species)
  | some argument :: rest =>
    match Setting.species argument with
    | .error e => .error (.setting e)
    | .ok (path, colour) =>
      match Species.load d path colour with
      | .error e => .error (.species e)
      | .ok s => (loadAll d rest).map (s :: ·)

def programText (s : Species) : String :=
  s!"# {s.name} {s.colour.text}\n{s.program.listing}\n\n"

def required (setting : Unvalued) (value : Option Int) : Except Failure Int :=
  match value with
  | some n => .ok n
  | none => .error (.unvalued setting)

/-- An empty world of the size that is set. The width is looked at first. -/
def Settings.world (s : Settings) : Except Failure World :=
  match s.width, s.height with
  | some width, some height => (Setting.world width height).mapError .setting
  | some width, none =>
    .error (if width ≤ 0 then .setting (.badSize width none) else .unvalued .size)
  | none, _ => .error (.unvalued .size)

def settle (s : Settings) (species : List Species) (seed : Int) :
    Except Failure (Episode (List Nat)) := do
  let w ← s.world
  let perSpecies ← required .perSpecies s.perSpecies
  let w := { w with species }
  return Populate.run (List.range species.length) perSpecies.toNat w (.ofSeed seed)

def named? (path : String) : Option String := if path = "" then none else some path

def saveAt (r : Recording) (path : String) (w : World) (report : Report) : Report :=
  if path = "" then { report with ending := .code 0 }
  else if r.frames.isEmpty then
    { report with out := report.out ++ Recording.nothingToSave ++ "\n", ending := .code 0 }
  else match r.save w report.directory path with
    | (directory, .error f) => { report with directory }.fail (.ofSave f)
    | (directory, .ok ()) =>
      { report with
        directory
        out := report.out ++ r.savedText path ++ "\n"
        ending := .code 0 }

def headless (s : Settings) (around : Surroundings) (start : Episode (List Nat)) (rounds : Int)
    (before : Report) : Report :=
  let h : Headless := {
    world := start.world, chance := start.chance, ledger := named? s.ledger
    session := around.session, recording := .new (s.recording ≠ "")
    directory := before.directory }
  let (h, result) := h.rounds 1 rounds.toNat
  let report := { before with
    out := before.out ++ asLines h.out
    err := before.err ++ asLines (h.notices.map (·.text))
    directory := h.directory }
  match result with
  | .error f => report.fail f
  | .ok () => saveAt h.recording s.recording h.world report

def inViewer (s : Settings) (around : Surroundings) (start : Episode (List Nat)) (pauseMs : Int)
    (before : Report) : Report :=
  let given := Recording.new (s.recording ≠ "")
  let (stepper, chance) := Stepper.start start.world start.chance
  let v : Viewer := {
    world := start.world, chance, stepper, scene := Scene.applyAll [] start.events
    pauseMs, turnsPerFrame := around.turnsPerFrame, ledger := named? s.ledger
    session := around.session, stamp := around.stamp
    recording := Viewer.adopt (some given), directory := before.directory }
  let (v, pictures, result) := v.run around.script
  let report := { before with
    out := before.out ++ asLines v.out
    err := before.err ++ asLines (v.notices.map (·.text))
    directory := v.directory
    shown := some ⟨Viewer.caption v.world, Viewer.layout v.world around.side, pictures⟩ }
  match result with
  | .error f => report.fail f
  | .ok () => saveAt (Viewer.handedBack given v) s.recording v.world report

/-- The pause of the viewer, which is not negative if it is set. -/
def Settings.pause (s : Settings) (around : Surroundings) : Except Failure Int :=
  match s.pauseMs with
  | none => .ok around.pauseMs
  | some pause => (required .pause pause).map (max 0)

def withWorld (s : Settings) (around : Surroundings) (species : List Species) (before : Report) :
    Except Failure Report := do
  let seed ← required .seed s.seed
  if s.display then
    let pause ← s.pause around
    let start ← settle s species seed
    let _ ← start.result.mapError .world
    return inViewer s around start pause before
  else
    let start ← settle s species seed
    let _ ← start.result.mapError .world
    let rounds ← required .rounds s.rounds
    return headless s around start rounds before

def withSpecies (s : Settings) (around : Surroundings) (species : List Species) (before : Report) :
    Report :=
  if species.isEmpty then before.fail (.setting .noSpecies)
  else if s.showPrograms then
    { before with out := before.out ++ String.join (species.map programText), ending := .code 0 }
  else match withWorld s around species before with
    | .error f => before.fail f
    | .ok report => report

def withSettings (s : Settings) (around : Surroundings) : Report :=
  let before : Report := { directory := around.directory, ending := .code 0 }
  if s.species.isEmpty then
    let talk := Prompt.run around.directory (Prompt.inputLines around.input)
    let before := { before with out := talk.out, err := asLines talk.complaints }
    match talk.species with
    | .error .endOfInput => before.fail .endOfInput
    | .error .badPath => before.fail (.species .badPath)
    | .ok species => withSpecies s around species before
  else match loadAll around.directory s.species with
    | .error f => before.fail f
    | .ok species => withSpecies s around species before

def settings? (argv : List String) : Except CommandLine.UsageError (Option Settings) :=
  (CommandLine.read specs argv).map fun a =>
    if a.help then none else some (a.options.foldl (fun s (name, value) => s.put name value) {})

/-- The files that a run may look at, those that a user names later excepted. -/
def Settings.paths (s : Settings) : List String :=
  s.ledger :: Recording.fileName s.recording ::
    s.species.filterMap fun a => do return (← (Setting.species (← a)).toOption).1

def run (argv : List String) (around : Surroundings) : Report :=
  match settings? argv with
  | .error e => { directory := around.directory, ending := .usage e }
  | .ok none => { directory := around.directory, ending := .code 0 }
  | .ok (some s) => withSettings s around

end Vivarium.Simulate
