/-!
Reading comma-separated records. A record ends at a line feed, at a carriage return, or at both
together; a field is quoted if its first character is a quote.
-/
namespace Vivarium.Csv

inductive Mode
  | record
  /-- Before the first character of a field that is not the first. -/
  | field
  | plain
  | quoted
  /-- After a quote inside a quoted field: the field is over, unless a second quote follows. -/
  | quote
  deriving DecidableEq, Repr

structure Field where
  text : String
  quoted : Bool := false
  deriving DecidableEq, Repr

/-- A field of which only the beginning has been read, the last character first. -/
structure Begun where
  chars : List Char := []
  quoted : Bool := false
  deriving DecidableEq, Repr

def Begun.push (p : Begun) (c : Char) : Begun := { p with chars := c :: p.chars }

def Begun.field (p : Begun) : Field := ⟨.ofList p.chars.reverse, p.quoted⟩

/-- The records of a text, a blank line being an empty one, and whether a quote is left open. -/
structure Reading where
  records : List (List Field)
  openQuote : Bool
  deriving DecidableEq, Repr

/-- The last field and the fields before it, those in reverse, as a record. -/
def close (p : Begun) (fields : List Field) : List Field := (p.field :: fields).reverse

def Reading.cons (r : List Field) (rest : Reading) : Reading :=
  { rest with records := r :: rest.records }

def readFrom (mode : Mode) (p : Begun) (fields : List Field) : List Char → Reading
  | [] =>
    if mode = .record then ⟨[], false⟩
    else ⟨[close p fields], mode = .quoted⟩
  | '\r' :: '\n' :: cs =>
    match mode with
    | .quoted => readFrom .quoted ((p.push '\r').push '\n') fields cs
    | .record => (readFrom .record {} [] cs).cons []
    | _ => (readFrom .record {} [] cs).cons (close p fields)
  | c :: cs =>
    match mode with
    | .quoted =>
      if c = '"' then readFrom .quote p fields cs
      else readFrom .quoted (p.push c) fields cs
    | .record =>
      if c = '\r' ∨ c = '\n' then (readFrom .record {} [] cs).cons []
      else if c = '"' then readFrom .quoted { quoted := true } [] cs
      else if c = ',' then readFrom .field {} [{ text := "" }] cs
      else readFrom .plain { chars := [c] } [] cs
    | .field =>
      if c = '\r' ∨ c = '\n' then (readFrom .record {} [] cs).cons (close p fields)
      else if c = '"' then readFrom .quoted { quoted := true } fields cs
      else if c = ',' then readFrom .field {} ({ text := "" } :: fields) cs
      else readFrom .plain { chars := [c] } fields cs
    | .plain =>
      if c = '\r' ∨ c = '\n' then (readFrom .record {} [] cs).cons (close p fields)
      else if c = ',' then readFrom .field {} (p.field :: fields) cs
      else readFrom .plain (p.push c) fields cs
    | .quote =>
      if c = '\r' ∨ c = '\n' then (readFrom .record {} [] cs).cons (close p fields)
      else if c = '"' then readFrom .quoted (p.push '"') fields cs
      else if c = ',' then readFrom .field {} (p.field :: fields) cs
      else readFrom .plain (p.push c) fields cs

def read (s : String) : Reading := readFrom .record {} [] s.toList

/-- The texts of the records of a text without its blank lines. -/
def records (s : String) : List (List String) :=
  ((read s).records.filter (!·.isEmpty)).map (·.map (·.text))

end Vivarium.Csv
