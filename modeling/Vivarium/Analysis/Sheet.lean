import Vivarium.Analysis.Table
import Vivarium.Csv.Writer
import Vivarium.Keyed
import Vivarium.Number.Sum

/-!
Sheets: averages by round and column. One sheet counts the creatures of each species; the other
tells what happened in each round, and there a session counts once however many rows it has.
-/
namespace Vivarium.Analysis

/-- Amounts that a sum is divided among. -/
structure Average where
  amounts : List Binary64
  summation : Summation
  deriving DecidableEq, Repr

namespace Average

/-- The average as it is computed: every sum is rounded and the quotient is rounded. -/
def value (a : Average) : Binary64 := (a.summation.sum a.amounts).divNat a.amounts.length

/-- The average of finite amounts before any rounding. -/
def exact (a : Average) : Rat :=
  (a.amounts.map fun x => x.toRat?.getD 0).foldr (· + ·) 0 / a.amounts.length

def number? (a : Average) : Option Average := if a.value = .undefined then none else some a

def of? (summation : Summation) (amounts : List Binary64) : Option Average :=
  if amounts.isEmpty then none else number? ⟨amounts, summation⟩

end Average

structure Sheet where
  heading : String := "round"
  rounds : List Cell
  columns : List String
  /-- For each round the averages by column. -/
  values : List (List (Option Average))
  deriving DecidableEq, Repr

inductive SheetError
  | noColumn (name : String)
  | noColumns (names : List String)
  /-- Neither sessions nor rounds tell the rows apart. -/
  | noKeys
  deriving DecidableEq, Repr

def SheetError.message : SheetError → String
  | .noColumn name => name
  | .noColumns names =>
    "Columns not found: " ++ ", ".intercalate (names.map fun n => s!"'{n}'")
  | .noKeys => "not enough values to unpack (expected 2, got 0)"

namespace Table

def require (t : Table) (name : String) : Except SheetError (List Cell) :=
  match t.column? name with
  | some cells => .ok cells
  | none => .error (.noColumn name)

end Table

namespace Sheet

/-- The distinct cells in ascending order, each as it first comes, missing ones left out. -/
def keys (cells : List Cell) : List Cell :=
  let present := cells.filter Cell.isPresent
  (Ascending.ofList Cell.before (present.map Cell.key)).map fun k =>
    (present.find? (·.key = k)).getD k

/-- How the amounts of a column are summed: with compensation if some are missing, plainly if none
is. The average of 38.1, 10.2 and 24.9 is 24.399999999999995 in a column without gaps, where
compensation would make it 24.400000000000002. What is proved of averages of sessions holds of any
other rule as well. -/
def summationOf (cells : List Cell) : Summation :=
  if cells.any (·.amount?.isNone) then .compensated else .plain

example : let amounts : List Binary64 := [.ofRat 38.1, .ofRat 10.2, .ofRat 24.9]
    (Average.mk amounts .plain).value.text = "24.399999999999995" ∧
      (Average.mk amounts .compensated).value.text = "24.400000000000002" := by decide +kernel

def averageAt {α : Type} [DecidableEq α] (summation : Summation) (k : α)
    (entries : List (α × Cell)) : Option Average :=
  Average.of? summation ((entries.filter (·.1 = k)).filterMap (·.2.amount?))

section Rule

variable (rule : List Cell → Summation)

/-- The averages by round and species; a round or a species without any is left out. -/
def ofCounts (rounds species counts : List Cell) : Sheet :=
  let entries := ((rounds.map Cell.key).zip (species.map Cell.key)).zip counts
  let average (r s : Cell) := averageAt (rule counts) (r.key, s.key) entries
  let allRounds := keys rounds
  let allSpecies := keys species
  let kept := allRounds.filter fun r => allSpecies.any fun s => (average r s).isSome
  let columns := allSpecies.filter fun s => allRounds.any fun r => (average r s).isSome
  { rounds := kept
    columns := columns.map Cell.label
    values := kept.map fun r => columns.map (average r) }

/-- The sheet of two counts that have no round or no species: the two names stand for what is not
there. -/
def ofTwoCounts (counts : List Cell) : Sheet :=
  let names := [Cell.text "round", Cell.text "species"]
  let average (name : Cell) := averageAt (rule counts) name (names.zip counts)
  let kept := names.filter fun name => (average name).isSome
  { heading := ""
    rounds := kept
    columns := if kept.isEmpty then [] else ["count"]
    values := kept.map fun name => [average name] }

end Rule

/-- The average count of each species in each round in which any species was counted. -/
def counts (t : Table) (rule : List Cell → Summation := summationOf) :
    Except SheetError Sheet := do
  let counts ← t.require "count"
  match t.column? "round", t.column? "species" with
  | some rounds, some species => return ofCounts rule rounds species counts
  | none, _ =>
    if counts.length = 2 then return ofTwoCounts rule counts else .error (.noColumn "round")
  | _, none =>
    if counts.length = 2 then return ofTwoCounts rule counts else .error (.noColumn "species")

def eventColumns : List String := ["infections", "moves", "aborted"]

/-- Each session's round with its events: the first row of the two counts. -/
def firstRows (sessions rounds : List Cell) (events : List (List Cell)) :
    List (Cell × List Cell) :=
  let keys := (sessions.map Cell.key).zip (rounds.map Cell.key)
  (Keyed.firsts (keys.zip (rounds.zip events))).map (·.2)

/-- The averages of each column of events by round. -/
def ofEvents (rule : List Cell → Summation) (entries : List (Cell × List Cell)) : Sheet :=
  let rounds := keys (entries.map (·.1))
  let keys := entries.map (·.1.key)
  let columns := (List.range eventColumns.length).map fun i =>
    let cells := entries.map (Table.cellAt ·.2 i)
    (rule cells, keys.zip cells)
  { rounds
    columns := eventColumns
    values := rounds.map fun r => columns.map fun (summation, entries) =>
      averageAt summation r.key entries }

/-- The events of each row, in the order of the columns of events. -/
def eventRows (t : Table) : Except SheetError (List (List Cell)) :=
  let absent := eventColumns.filter fun name => (t.index? name).isNone
  if absent.isEmpty then
    .ok (t.rows.map fun row => (eventColumns.filterMap t.index?).map (Table.cellAt row))
  else .error (.noColumns (Ascending.ofList (fun a b => a < b) absent))

/-- What happened in each round, averaged over the sessions that have it. A table without sessions
is one session. -/
def events (t : Table) (rule : List Cell → Summation := summationOf) :
    Except SheetError Sheet := do
  let sessions := t.column? "session_id"
  if sessions.isNone ∧ (t.column? "round").isNone ∧ ¬ t.rows.isEmpty then .error .noKeys
  let rounds ← t.require "round"
  let events ← eventRows t
  return ofEvents rule (firstRows (sessions.getD (rounds.map fun _ => .missing)) rounds events)

def valueText (a : Option Average) : String := a.elim "" (·.value.text)

def text (s : Sheet) : String :=
  let records := (s.heading :: s.columns) ::
    (s.rounds.zip s.values).map fun (r, vs) => r.label :: vs.map valueText
  String.join (records.map fun r => Csv.writeFields r ++ "\n")

def column (s : Sheet) (i : Nat) : List (Option Average) := s.values.map (·.getD i none)

end Sheet
end Vivarium.Analysis
