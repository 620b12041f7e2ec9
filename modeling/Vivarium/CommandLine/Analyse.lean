import Vivarium.Analysis.Chart
import Vivarium.Analysis.Packing
import Vivarium.CommandLine.Words
import Vivarium.Session
import Vivarium.Species

/-! The command line of the analysis. -/
namespace Vivarium.Analyse

open Analysis
open CommandLine (Ending Spec Value)

/-- What a user may set. A path that was named without a value is none. -/
structure Settings where
  ledger : Option String := some "runs/rounds.csv"
  folder : Option String := some "reports"
  tag : String := ""
  session : String := "latest"
  deriving DecidableEq, Repr

def specs : List Spec := [
  ⟨"--help", .help⟩, ⟨"--csv", .text⟩, ⟨"--outdir", .text⟩, ⟨"--tag", .text⟩,
  ⟨"--session", .text⟩]

/-- The last value of an option counts. -/
def Settings.put (s : Settings) (name : String) (value : Value) : Settings :=
  match name with
  | "--csv" => { s with ledger := value.text? }
  | "--outdir" => { s with folder := value.text? }
  | "--tag" => { s with tag := value.text?.getD "" }
  | "--session" => { s with session := value.text?.getD "" }
  | _ => s

inductive Failure
  | noLedger (path : String)
  | unvaluedLedger
  | unvaluedFolder
  | packed (error : PackingError)
  | table (error : TableError)
  | noSession
  | sheet (error : SheetError)
  | file (fault : FileFault)
  /-- A sheet would lie in a folder that does not exist. -/
  | noFolder (path : String)
  deriving DecidableEq, Repr

namespace Failure

def message : Failure → String
  | .noLedger path =>
    "\n[ERROR] Census CSV not found.\n" ++ s!"  Expected: {path}\n" ++ "Hints:\n" ++
      "  • Run `python -m darwin_sim.main --csv runs/rounds.csv ...` first.\n\n"
  | .unvaluedLedger => "stat: path should be string, bytes, os.PathLike or integer, not list"
  | .unvaluedFolder => "expected str, bytes or os.PathLike object, not list"
  | .packed e => e.message
  | .table e => e.message
  | .noSession => "single positional indexer is out-of-bounds"
  | .sheet e => e.message
  | .file fault => fault.message
  | .noFolder path => s!"Cannot save file into a non-existent directory: '{path}'"

end Failure

def tableOf (path : String) (bytes : ByteArray) : Except Failure Table :=
  match (Packing.ofPath? path).bind (·.error? bytes) with
  | some e => .error (.packed e)
  | none => (Table.ofBytes bytes).mapError .table

def load (d : Directory) (path : String) : Except Failure Table :=
  if !d.contains path then .error (.noLedger path)
  else match d.read path with
    | .error fault => .error (.file fault)
    | .ok bytes => tableOf path bytes

def select (d : Directory) (path session : String) : Except Failure Selection :=
  match load d path with
  | .error f => .error f
  | .ok t =>
    match t.select? (.ofText session) with
    | some s => .ok s
    | none => .error .noSession

structure Report where
  out : String := ""
  err : String := ""
  directory : Directory
  chart : Option Chart := none
  ending : Ending Failure

/-- A ledger that is not there is reported with exit code 1. -/
def Report.fail (r : Report) : Failure → Report
  | .noLedger path => { r with err := r.err ++ (Failure.noLedger path).message, ending := .code 1 }
  | f => { r with ending := .failure f }

def Report.print (r : Report) (text : String) : Report := { r with out := r.out ++ text }

/-- Where the outputs of a run go, when it was made, and the tag if there is one. -/
structure Place where
  folder : String
  stamp : String
  tag : String
  deriving DecidableEq, Repr

def Place.path (p : Place) (base ending : String) : String :=
  let tagged := if p.tag = "" then p.stamp else s!"{p.stamp}__{p.tag}"
  Path.join p.folder s!"{base}_{tagged}{ending}"

def save (d : Directory) (path text : String) : Except Failure Directory :=
  let parent := Path.plainParent path
  match d.locate parent with
  | .error (.tooLong p) => .error (.file (.tooLong p))
  | _ =>
    if d.hasFolder parent then (d.write path (.bytes text.toUTF8)).mapError .file
    else .error (.noFolder parent)

def writeCounts (place : Place) (counts : Sheet) (before : Report) : Report × Except Failure Unit :=
  match before.directory.makeFolder place.folder with
  | (directory, .error fault) => ({ before with directory }, .error (.file fault))
  | (directory, .ok ()) =>
    let before := { before with directory }
    let path := place.path "species_counts" ".csv"
    match save directory path counts.text with
    | .error f => (before, .error f)
    | .ok directory => ({ before with directory }.print s!"[OK] Wrote {path}\n", .ok ())

def tell (place : Place) (counts : Sheet) (events : Except SheetError Sheet) (before : Report) :
    Report :=
  match writeCounts place counts before with
  | (r, .error f) => r.fail f
  | (r, .ok ()) =>
    match events with
    | .error e => r.fail (.sheet e)
    | .ok events =>
      let path := place.path "species_rounds" ".png"
      { r with chart := some (.ofSheets counts events path) }.print
        s!"[OK] Saved {path}\n\nDone. Outputs are in: {place.folder}\n"

def withTable (s : Settings) (stamp : String) (t : Table) (before : Report) : Report :=
  let before := before.print s!"[INFO] Rows after filter: {t.rows.length}\n"
  if t.rows.isEmpty then before.print "[WARN] Nothing to analyze.\n"
  else match Sheet.counts t, s.folder with
    | .error e, _ => before.fail (.sheet e)
    | .ok _, none => before.fail .unvaluedFolder
    | .ok counts, some folder => tell ⟨folder, stamp, s.tag⟩ counts (Sheet.events t) before

def withSettings (s : Settings) (stamp : String) (d : Directory) : Report :=
  let before : Report := { directory := d, ending := .code 0 }
  match s.ledger with
  | none => before.fail .unvaluedLedger
  | some ledger =>
    match select d ledger s.session with
    | .error f => before.fail f
    | .ok selection => withTable s stamp selection.table (before.print selection.text)

def settings? (argv : List String) : Except CommandLine.UsageError (Option Settings) :=
  (CommandLine.read specs argv).map fun a =>
    if a.help then none else some (a.options.foldl (fun s (name, value) => s.put name value) {})

def Settings.paths (s : Settings) : List String := s.ledger.toList ++ s.folder.toList

def run (argv : List String) (stamp : String) (d : Directory) : Report :=
  match settings? argv with
  | .error e => { directory := d, ending := .usage e }
  | .ok none => { directory := d, ending := .code 0 }
  | .ok (some s) => withSettings s stamp d

end Vivarium.Analyse
