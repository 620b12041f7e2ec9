import Vivarium.Analysis.Kind
import Vivarium.Csv.Reader
import Vivarium.Text.Utf8

/-!
Tables read from comma-separated text. The first record names the columns; records without content
are passed over, and a record that is too short is filled up with missing cells.
-/
namespace Vivarium.Analysis

structure Table where
  names : List String
  rows : List (List Cell)
  deriving DecidableEq, Repr

/-- Why a file is no table; lines count from one, records from zero. -/
inductive TableError
  | noColumns
  | tooManyFields (expected line seen : Nat)
  | openQuote (record : Nat)
  | encoding (error : Text.Utf8Error)
  deriving DecidableEq, Repr

namespace TableError

def message : TableError → String
  | .noColumns => "No columns to parse from file"
  | .tooManyFields expected line seen =>
    s!"Error tokenizing data. C error: Expected {expected} fields in line {line}, saw {seen}\n"
  | .openQuote record =>
    s!"Error tokenizing data. C error: EOF inside string starting at row {record}"
  | .encoding error => error.message

end TableError

/-- A header and the records below it, as texts. -/
structure Sections where
  header : List String
  records : List (List String)
  deriving DecidableEq, Repr

namespace Sections

/-- A blank line, or one of nothing but blanks and tabs. -/
def isVoid : List Csv.Field → Bool
  | [] => true
  | [f] => !f.quoted && f.text.toList.all fun c => c = ' ' || c = '\t'
  | _ => false

/-- The records with content and the lines they stand on. -/
def numbered (records : List (List Csv.Field)) : List (List String × Nat) :=
  ((records.zipIdx 1).filter (!isVoid ·.1)).map fun (r, line) => (r.map (·.text), line)

/-- The first record below the header may be the longer one of the two. -/
def widest (header : List String) (body : List (List String × Nat)) : Nat :=
  max header.length (body.head?.elim 0 (·.1.length))

/-- The sections of a text. The header is checked before any record but the first one below it. -/
def ofText (checkHeader : List String → Except TableError Unit) (s : String) :
    Except TableError Sections :=
  let reading := Csv.read s
  let last := reading.records.length - 1
  let openQuote : Except TableError Unit :=
    if reading.openQuote then .error (.openQuote last) else .ok ()
  let complete := if reading.openQuote then reading.records.take last else reading.records
  match numbered complete with
  | [] => do openQuote; .error .noColumns
  | (header, _) :: body => do
    if body.isEmpty then openQuote
    checkHeader header
    match body.find? (widest header body < ·.1.length) with
    | some (r, line) => .error (.tooManyFields (widest header body) line r.length)
    | none => openQuote
    return ⟨header, body.map (·.1)⟩

def width (s : Sections) : Nat := max s.header.length (s.records.head?.elim 0 (·.length))

/-- How many columns stand before the first one that has a name. -/
def nameless (s : Sections) : Nat := s.width - s.header.length

/-- The texts of a column; a field that a record lacks is empty. -/
def column (s : Sections) (i : Nat) : List String := s.records.map (·.getD i "")

/-- The first text that is no UTF-8, column after column. The characters are bytes; a column that
is no text is all ASCII. -/
def undecodable? (s : Sections) : Option Text.Utf8Error :=
  (List.range s.width).findSome? fun i =>
    let kind := Kind.ofTexts (s.column i)
    if kind.isText then (s.column i).findSome? Text.bytesError? else none

end Sections

namespace Table

def numericNames : List String := ["round", "count", "infections", "moves", "aborted"]

def kindOf (name : String) (texts : List String) : Kind :=
  let kind := Kind.ofTexts texts
  if name ∈ numericNames then kind.numeric (texts.any isMissing) else kind

def kinds (s : Sections) : List Kind :=
  s.header.zipIdx.map fun (name, i) => kindOf name (s.column (s.nameless + i))

def ofSections (s : Sections) : Table :=
  let kinds := kinds s
  { names := s.header
    rows := s.records.map fun r => kinds.zipIdx.map fun (kind, i) =>
      kind.cell (r.getD (s.nameless + i) "") }

def withoutMark (s : String) : String :=
  match s.toList with
  | '\uFEFF' :: cs => .ofList cs
  | _ => s

def ofText (s : String) : Except TableError Table :=
  (Sections.ofText (fun _ => .ok ()) (withoutMark s)).map ofSections

/-- The mark of byte order, each byte a character. -/
def byteMark : List Char := ['\u00EF', '\u00BB', '\u00BF']

def checkUtf8 (header : List String) : Except TableError Unit :=
  match header.findSome? Text.bytesError? with
  | some e => .error (.encoding e)
  | none => .ok ()

/-- What is said of bytes that are no UTF-8: what is wrong with the records comes first. -/
def encodingError (bytes : ByteArray) (e : Text.Utf8Error) : TableError :=
  let cs := Text.bytesAsChars bytes
  let cs := if byteMark.isPrefixOf cs then cs.drop byteMark.length else cs
  match Sections.ofText checkUtf8 (.ofList cs) with
  | .error f => f
  | .ok s => .encoding (s.undecodable?.getD e)

def ofBytes (bytes : ByteArray) : Except TableError Table :=
  match Text.decode bytes with
  | .ok s => ofText s
  | .error e => .error (encodingError bytes e)

/-- The place of a column; of two columns of one name the first. -/
def index? (t : Table) (name : String) : Option Nat := t.names.idxOf? name

def cellAt (row : List Cell) (i : Nat) : Cell := row.getD i .missing

def column? (t : Table) (name : String) : Option (List Cell) :=
  (t.index? name).map fun i => t.rows.map (cellAt · i)

def keep (t : Table) (i : Nat) (c : Cell) : Table :=
  { t with rows := t.rows.filter fun row => (cellAt row i).key = c.key }

end Table
end Vivarium.Analysis
