import Vivarium.Recording
import Vivarium.Setting

/-! Everything that can end a program early. -/
namespace Vivarium

/-- A setting that was named without a value where one is needed. -/
inductive Unvalued
  | species | seed | rounds | size | perSpecies | pause
  deriving DecidableEq, Repr

def Unvalued.message : Unvalued → String
  | .species => "'list' object has no attribute 'rpartition'"
  | .seed => "The only supported seed types are: None,\nint, float, str, bytes, and bytearray."
  | .rounds => "can only concatenate list (not \"int\") to list"
  | .size => "'<=' not supported between instances of 'list' and 'int'"
  | .perSpecies => "'list' object cannot be interpreted as an integer"
  | .pause => "'>' not supported between instances of 'list' and 'int'"

inductive Failure
  | species (error : SpeciesError)
  | setting (error : SettingError)
  | unvalued (setting : Unvalued)
  | world (fault : Fault)
  | file (fault : FileFault)
  | overflow (overflow : Overflow)
  | endOfInput
  deriving DecidableEq, Repr

namespace Failure

def message : Failure → String
  | .species e => e.message
  | .setting e => e.message
  | .unvalued s => s.message
  | .world f => f.message
  | .file f => f.message
  | .overflow o => o.message
  | .endOfInput => "EOF when reading a line"

/-- A failure that lies in what the user asked for; a program reports it and ends in order. -/
def isExpected : Failure → Bool
  | .species .badPath => false
  | .species _ => true
  | .setting _ => true
  | .world (.outOfBounds _) => true
  | .world (.undefinedLabel _) => true
  | .world (.runaway ..) => true
  | _ => false

def ofSave : Recording.SaveFault → Failure
  | .file f => .file f
  | .overflow o => .overflow o

end Failure
end Vivarium
