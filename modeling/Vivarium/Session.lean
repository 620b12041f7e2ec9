import Vivarium.Analysis.Table
import Vivarium.Text.Quoted

/-! Sessions: the names by which the runs in a ledger are told apart, and the rows of one of them. -/
namespace Vivarium

namespace Session

/-- The name that a random number gives: its last eight hexadecimal digits. -/
def name (random : Nat) : String := Text.hex 8 (random % UInt32.size)

end Session

namespace Analysis

inductive Choice
  | every
  /-- The session of the last row that has one. -/
  | latest
  | named (session : String)
  deriving DecidableEq, Repr

def Choice.ofText (s : String) : Choice :=
  if s = "" then .every else if s = "latest" then .latest else .named s

/-- The rows that are left, and the session if one was chosen. -/
structure Selection where
  session : Option String
  table : Table
  deriving DecidableEq, Repr

def Selection.text (s : Selection) : String :=
  s.session.elim "" fun id => s!"[OK] Filtering analysis to session_id={id}\n"

def sessionColumn : String := "session_id"

/-- The rows of the chosen session; none if there is no latest session. A named session is a text
and so is no session of a column of numbers. A table without rows or sessions stays as it is. -/
def Table.select? (t : Table) (choice : Choice) : Option Selection :=
  match t.index? sessionColumn with
  | none => some ⟨none, t⟩
  | some i =>
    if t.rows.isEmpty then some ⟨none, t⟩
    else match choice with
      | .every => some ⟨none, t⟩
      | .named s => some ⟨s, t.keep i (.text s)⟩
      | .latest =>
        ((t.rows.map (Table.cellAt · i)).filter Cell.isPresent).getLast?.map fun id =>
          ⟨id.label, t.keep i id⟩

end Analysis
end Vivarium
