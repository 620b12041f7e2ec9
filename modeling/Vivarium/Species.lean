import Vivarium.Colour.Basic
import Vivarium.Directory
import Vivarium.Program.Parser
import Vivarium.Text.Utf8

/-! Species: a name, a colour and a program, read from a text or from a file. -/
namespace Vivarium

structure Species where
  name : String
  colour : Colour
  program : Program
  deriving DecidableEq, Repr

/-- Why a file gives no text. -/
inductive ReadFault
  | file (fault : FileFault)
  | encoding (error : Text.Utf8Error)
  deriving DecidableEq, Repr

def ReadFault.message : ReadFault → String
  | .file fault => fault.message
  | .encoding error => error.message

inductive SpeciesError
  | unreadable (path : String) (fault : ReadFault)
  | malformed (error : SyntaxError)
  /-- The path holds a null character. -/
  | badPath
  deriving DecidableEq, Repr

def SpeciesError.message : SpeciesError → String
  | .unreadable path fault => s!"cannot read species file '{path}': {fault.message}"
  | .malformed error => error.message
  | .badPath => FileFault.nullCharacter.message

namespace Directory

/-- The text of a file, every newline style written as a line feed. -/
def readText (d : Directory) (path : String) : Except ReadFault String :=
  match d.read path with
  | .error fault => .error (.file fault)
  | .ok bytes =>
    match Text.decode bytes with
    | .error e => .error (.encoding e)
    | .ok s => .ok (Text.foldNewlines s)

end Directory

namespace Species

def ofSource (source : String) (colour : Colour) : Except SpeciesError Species :=
  match Program.parse source with
  | .error e => .error (.malformed e)
  | .ok (name, program) => .ok ⟨name, colour, program⟩

def load (d : Directory) (path : String) (colour : Colour) : Except SpeciesError Species :=
  match d.readText path with
  | .error (.file .nullCharacter) => .error .badPath
  | .error fault => .error (.unreadable path fault)
  | .ok source => ofSource source colour

end Species
end Vivarium
