import Vivarium.Species
import Vivarium.World

/-! Settings that a user gives, and what is wrong with those that cannot be used. -/
namespace Vivarium

inductive SettingError
  /-- The height need not have a value to be at fault. -/
  | badSize (width : Int) (height : Option Int)
  | unknownColour (name : String)
  | badSpecies (argument : String)
  | noSpecies
  deriving DecidableEq, Repr

def SettingError.message : SettingError → String
  | .badSize width height =>
    let shown := height.elim "[]" toString
    s!"width and height must be >0 (got {width}x{shown})"
  | .unknownColour name => s!"unknown colour '{name}'"
  | .badSpecies argument => s!"expected PATH:COLOR, got '{argument}'"
  | .noSpecies => "no species given"

namespace Setting

def world (width height : Int) : Except SettingError World :=
  match World.create? width height with
  | none => .error (.badSize width (some height))
  | some w => .ok w

def colour (name : String) : Except SettingError Colour :=
  match Colour.ofText? name with
  | none => .error (.unknownColour name)
  | some c => .ok c

/-- A path and a colour with a colon between them; the colour is after the last one. -/
def species (argument : String) : Except SettingError (String × Colour) :=
  let cs := argument.toList.reverse
  let name := (cs.takeWhile (· ≠ ':')).reverse
  match cs.dropWhile (· ≠ ':') with
  | _ :: p :: path =>
    if name = [] then .error (.badSpecies argument)
    else (colour (.ofList name)).map fun c => (.ofList (p :: path).reverse, c)
  | _ => .error (.badSpecies argument)

end Setting
end Vivarium
