import Vivarium.Text.Digits
import Vivarium.Text.Quoted

/-!
The words of a command line, read against a table of options. An option may be cut short as long
as one option alone begins that way; its value is the next word, or follows an equals sign.
-/
namespace Vivarium.CommandLine

inductive Kind
  | help | flag | text | integer
  deriving DecidableEq, Repr

structure Spec where
  name : String
  kind : Kind
  deriving DecidableEq, Repr

inductive Value
  | set
  | text (s : String)
  | integer (n : Int)
  /-- A separator in the place of a value. -/
  | nothing
  deriving DecidableEq, Repr

namespace Value

def text? : Value → Option String
  | .text s => some s
  | _ => none

def integer? : Value → Option Int
  | .integer n => some n
  | _ => none

end Value

inductive UsageError
  | ambiguous (word : String) (names : List String)
  | expectedValue (option : String)
  | ignoredValue (option value : String)
  | badInteger (option value : String)
  | unrecognized (words : List String)
  deriving DecidableEq, Repr

def UsageError.message : UsageError → String
  | .ambiguous word names => s!"ambiguous option: {word} could match " ++ ", ".intercalate names
  | .expectedValue option => s!"argument {option}: expected one argument"
  | .ignoredValue option value =>
    s!"argument {option}: ignored explicit argument {Text.quoted value}"
  | .badInteger option value => s!"argument {option}: invalid int value: {Text.quoted value}"
  | .unrecognized words => "unrecognized arguments: " ++ " ".intercalate words

/-- How a program ends. -/
inductive Ending (ε : Type)
  | code (n : Nat)
  | usage (error : UsageError)
  /-- A failure that is not reported but ends the program. -/
  | failure (failure : ε)
  deriving DecidableEq, Repr

def separator : String := "--"

inductive Word
  | value
  | separator
  | option (spec : Spec) (value : Option String)
  /-- It has the form of an option but is none. -/
  | unknown
  deriving DecidableEq, Repr

/-- The help option is shown with its short form. -/
def Spec.shownName (s : Spec) : String := if s.kind = .help then "-h/" ++ s.name else s.name

/-- A minus sign before digits, which a point may divide or begin. The word may end its line. -/
def isNegativeNumber (word : List Char) : Bool :=
  let isDigit (c : Char) := (Text.digit? c).isSome
  let isEnd (cs : List Char) : Bool := cs = [] || cs = ['\n']
  match word with
  | '-' :: cs =>
    match cs.dropWhile isDigit with
    | '.' :: ds => ds.head?.any isDigit && isEnd (ds.dropWhile isDigit)
    | rest => cs.head?.any isDigit && isEnd rest
  | _ => false

def splitValue (word : String) : String × Option String :=
  let cs := word.toList
  match cs.dropWhile (· ≠ '=') with
  | [] => (word, none)
  | _ :: value => (.ofList (cs.takeWhile (· ≠ '=')), some (.ofList value))

/-- A word that begins with the short form of help, whose letter may be repeated. What else follows
it is a value. -/
def shortHelp? (specs : List Spec) (word : String) : Option Word := do
  let help ← specs.find? (·.kind = .help)
  match word.toList with
  | ['-', 'h'] => some (.option help none)
  | '-' :: 'h' :: rest =>
    let more := if rest.head? = some '=' then rest.drop 1 else rest
    match more, more.dropWhile (· = 'h') with
    | _ :: _, [] => some (.option help none)
    | _, value => some (.option help (some (.ofList value)))
  | _ => none

def classify (specs : List Spec) (word : String) : Except UsageError Word :=
  match word.toList with
  | '-' :: second :: _ =>
    let (name, value) := splitValue word
    let candidates :=
      if second = '-' then specs.filter (name.toList.isPrefixOf ·.name.toList) else []
    match specs.find? (·.name = word), specs.find? (·.name = name) with
    | some s, _ => .ok (.option s none)
    | none, some s => .ok (.option s value)
    | none, none =>
      match shortHelp? specs word, candidates with
      | some w, _ => .ok w
      | none, [s] => .ok (.option s value)
      | none, _ :: _ :: _ => .error (.ambiguous word (candidates.map (·.name)))
      | none, [] =>
        if isNegativeNumber word.toList ∨ ' ' ∈ word.toList then .ok .value else .ok .unknown
  | _ => .ok .value

/-- Every word before a separator is classified; what follows the separator is plain. -/
def classifyAll (specs : List Spec) : List String → Except UsageError (List (String × Word))
  | [] => .ok []
  | word :: rest =>
    if word = separator then .ok ((word, .separator) :: rest.map (·, .value))
    else do
      let w ← classify specs word
      return (word, w) :: (← classifyAll specs rest)

/-- The value that follows an equals sign or is a word of its own. -/
def convert (spec : Spec) (text : String) : Except UsageError Value :=
  if text = separator then .ok .nothing
  else match spec.kind with
  | .integer =>
    match Text.int? text with
    | some n => .ok (.integer n)
    | none => .error (.badInteger spec.name text)
  | _ => .ok (.text text)

/-- The options that are set, in order, and the words left over. -/
structure Assignments where
  options : List (String × Value) := []
  help : Bool := false
  leftOver : List String := []
  deriving DecidableEq, Repr

def Assignments.cons (option : String × Value) (a : Assignments) : Assignments :=
  { a with options := option :: a.options }

/-- Assigns values in order; a request for help ends the reading. -/
def assign : List (String × Word) → Except UsageError Assignments
  | [] => .ok {}
  | (_, .option spec (some v)) :: rest =>
    match spec.kind with
    | .help => .error (.ignoredValue spec.shownName v)
    | .flag => .error (.ignoredValue spec.name v)
    | _ => do
      let v ← convert spec v
      return (← assign rest).cons (spec.name, v)
  | (_, .option spec none) :: rest =>
    match spec.kind with
    | .help => .ok { help := true }
    | .flag => do return (← assign rest).cons (spec.name, .set)
    | _ =>
      match rest with
      | (v, .value) :: rest => do
        let v ← convert spec v
        return (← assign rest).cons (spec.name, v)
      | _ => .error (.expectedValue spec.name)
  | (word, _) :: rest => do
    let a ← assign rest
    return { a with leftOver := word :: a.leftOver }

/-- The assignments of a command line. Words that are left over are an error, unless help is
asked for. -/
def read (specs : List Spec) (argv : List String) : Except UsageError Assignments := do
  let a ← assign (← classifyAll specs argv)
  if a.help ∨ a.leftOver.isEmpty then .ok a else .error (.unrecognized a.leftOver)

end Vivarium.CommandLine
