import Vivarium.Colour.Names
import Vivarium.Text.Basic

/-! Colours, and the two ways to write one: by name, and in hexadecimal. -/
namespace Vivarium

structure Colour where
  red : Int
  green : Int
  blue : Int
  deriving DecidableEq, Repr, Inhabited

namespace Colour

def ofNumber (n : Nat) : Colour := ⟨n / 65536 % 256, n / 256 % 256, n % 256⟩

def text (c : Colour) : String := s!"({c.red}, {c.green}, {c.blue})"

def components (c : Colour) : List Int := [c.red, c.green, c.blue]

def hexDigit? (c : Char) : Option Nat :=
  let n := c.toNat
  if 48 ≤ n ∧ n ≤ 57 then some (n - 48)
  else if 97 ≤ n ∧ n ≤ 102 then some (n - 87)
  else if 65 ≤ n ∧ n ≤ 70 then some (n - 55)
  else none

/-- Six hexadecimal digits, or eight of which the last two say how opaque the colour is. A null
character ends them, whatever follows it. -/
def ofHex? (digits : List Char) : Option Colour := do
  let values ← (digits.takeWhile (· ≠ '\x00')).mapM hexDigit?
  if values.length = 6 ∨ values.length = 8 then
    some (ofNumber ((values.take 6).foldl (fun n d => n * 16 + d) 0))
  else none

/-- A name is found whatever its case and the blanks inside it. -/
def ofName? (name : List Char) : Option Colour :=
  let plain := String.ofList ((name.filter (· ≠ ' ')).map Char.toLower)
  (namedColours.lookup plain).map ofNumber

def ofText? (s : String) : Option Colour :=
  let cs := Text.trimChars s.toList
  let hex := match cs with
    | '#' :: digits => ofHex? digits
    | '0' :: 'x' :: digits => ofHex? digits
    | _ => none
  hex <|> ofName? cs

end Colour
end Vivarium
