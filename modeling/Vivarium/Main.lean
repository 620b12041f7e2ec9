import Std.Time.Zoned
import Vivarium.Archive
import Vivarium.CommandLine.Analyse
import Vivarium.CommandLine.Simulate
import Vivarium.Session

/-!
The program. Its first word may ask for the analysis; without it the simulation runs. The files
that a run may look at are read beforehand, and those that it changes are written afterwards. There
is no screen: a viewer closes after its first picture, and the chart of an analysis is not drawn.
-/
namespace Vivarium.Main

def addPlace (d : Directory) (p : List String) : IO Directory := do
  let file := (← IO.currentDir) / Path.ofComponents p
  if p.isEmpty then return d
  if ← file.isDir then return { d with folders := d.folders ++ [p] }
  if ← file.pathExists then
    return { d with files := Keyed.put p (.bytes (← IO.FS.readBinFile file)) d.files }
  return d

/-- Adds what is on the way of the paths. No file has a null character in its path. -/
def addPaths (d : Directory) (paths : List String) : IO Directory :=
  ((paths.filter fun path => '\x00' ∉ path.toList).flatMap Path.places).foldlM addPlace d

def writeChanges (before after : Directory) : IO Unit := do
  for p in after.folders do
    if p ∉ before.folders then IO.FS.createDirAll ((← IO.currentDir) / Path.ofComponents p)
  for (p, content) in after.changedSince before do
    let file := (← IO.currentDir) / Path.ofComponents p
    if let some folder := file.parent then IO.FS.createDirAll folder
    match content with
    | .bytes b => IO.FS.writeBinFile file b
    | .arrays a => IO.FS.writeBinFile file a.bytes

def stamp : IO String := do
  let now ← Std.Time.PlainDateTime.now
  let two (n : Int) : String := (if n < 10 then "0" else "") ++ toString n
  let date := toString now.date.year.toInt ++ two now.date.month.val ++ two now.date.day.val
  return date ++ "_" ++ two now.time.hour.val ++ two now.time.minute.val ++ two now.time.second.val

def sessionName : IO String := do
  let bytes ← IO.getRandomBytes 8
  return Session.name (bytes.toList.foldl (fun n b => n * 256 + b.toNat) 0)

/-- The text after its first `n` characters. -/
def unsaid (text : String) (n : Nat) : String := .ofList (text.toList.drop n)

/-- How much of a report has been printed: characters of its output and of its complaints. -/
structure Said where
  out : Nat := 0
  err : Nat := 0

def say (said : Said) (out err : String) : IO Said := do
  IO.eprint (unsaid err said.err)
  IO.print (unsaid out said.out)
  (← IO.getStdout).flush
  return ⟨out.length, err.length⟩

/-- Asks until the conversation is over or the input ends; gives the directory with the files that
were named, the input and what has been said. -/
partial def converse (d : Directory) (input : String) (said : Said) :
    IO (Directory × String × Said) := do
  let talk := Prompt.run d (Prompt.inputLines input)
  let said ← say said talk.out (Simulate.asLines talk.complaints)
  match talk.species with
  | .error .endOfInput => pure ()
  | _ => return (d, input, said)
  let line ← (← IO.getStdin).getLine
  if line.isEmpty then return (d, input, said)
  converse (← addPaths d [Text.trim line]) (input ++ line) said

def usage (e : CommandLine.UsageError) : IO UInt32 := do
  IO.eprintln s!"error: {e.message}"
  return 2

def showOptions (specs : List CommandLine.Spec) : IO UInt32 := do
  IO.println ("options: " ++ " ".intercalate (specs.map (·.name)))
  return 0

def simulate (argv : List String) : IO UInt32 := do
  match Simulate.settings? argv with
  | .error e => usage e
  | .ok none => showOptions Simulate.specs
  | .ok (some s) =>
    let d ← addPaths {} s.paths
    let (d, input, said) ← if s.species.isEmpty then converse d "" {} else pure (d, "", {})
    let around := { directory := d, input, session := ← sessionName, stamp := ← stamp }
    let r := Simulate.run argv around
    writeChanges d r.directory
    let _ ← say said r.out r.err
    match r.ending with
    | .code n => return n.toUInt32
    | .usage e => usage e
    | .failure f => throw (IO.userError f.message)

def analyse (argv : List String) : IO UInt32 := do
  match Analyse.settings? argv with
  | .error e => usage e
  | .ok none => showOptions Analyse.specs
  | .ok (some s) =>
    let d ← addPaths {} s.paths
    let r := Analyse.run argv (← stamp) d
    writeChanges d r.directory
    let _ ← say {} r.out r.err
    match r.ending with
    | .code n => return n.toUInt32
    | .usage e => usage e
    | .failure f => throw (IO.userError f.message)

end Vivarium.Main

def main (args : List String) : IO UInt32 :=
  match args with
  | "analyse" :: rest => Vivarium.Main.analyse rest
  | _ => Vivarium.Main.simulate args
