import Vivarium.Directory
import Vivarium.World

/-! Recordings: snapshots of the grid at the ends of rounds, saved as an archive of arrays. -/
namespace Vivarium

structure Frame where
  round : Int
  occupancy : List (List (Option Nat))
  headings : List (List (Option Heading))
  deriving DecidableEq, Repr

structure Recording where
  enabled : Bool
  /-- A frame is taken in every round whose number it divides. -/
  stride : Int
  frames : List Frame
  deriving DecidableEq, Repr

structure Overflow where
  value : Int
  kind : String
  deriving DecidableEq, Repr

def Overflow.message (o : Overflow) : String :=
  s!"Python integer {o.value} out of bounds for {o.kind}"

namespace Recording

/-- The greatest number of 32 bits with a sign. -/
def greatestNumber : Nat := 2147483647

def new (enabled : Bool := false) (stride : Int := 1) : Recording := ⟨enabled, max 1 stride, []⟩

def toggle (r : Recording) : Recording := { r with enabled := !r.enabled }

def clear (r : Recording) : Recording := { r with frames := [] }

/-- The numbers of the occupants' species, if the array of a frame can hold them. -/
def occupancy (w : World) : Except Overflow (List (List (Option Nat))) :=
  match w.occupancy.flatten.findSome? fun o => o.filter (greatestNumber < ·) with
  | some n => .error ⟨n, "int32"⟩
  | none => .ok w.occupancy

/-- Takes a frame if the recording is on and the round is one whose frame is taken. -/
def capture (r : Recording) (w : World) (round : Int) : Except Overflow Recording :=
  if r.enabled ∧ round % r.stride = 0 then
    (occupancy w).map fun occupancy =>
      { r with frames := r.frames ++ [⟨round, occupancy, w.headings⟩] }
  else .ok r

def rounds (r : Recording) : List Int := r.frames.map (·.round)

def cellNumber : Option Nat → Int
  | none => -1
  | some n => n

/-- Trailing null characters fill an array of texts up, so they are not part of its items. -/
def arrayText (s : String) : String :=
  .ofList ((s.toList.reverse.dropWhile (·.toNat = 0)).reverse)

/-- The numbers as an array of a kind that holds those from `lo` to `hi`. -/
def bounded (kind : NumberKind) (name : String) (lo hi : Int) (shape : List Nat)
    (items : List Int) : Except Overflow NamedArray :=
  match items.find? fun n => n < lo ∨ hi < n with
  | some n => .error ⟨n, name⟩
  | none => .ok (.numbers kind shape items)

def archive (r : Recording) (w : World) : Except Overflow Archive := do
  let side (n : Nat) := NamedArray.numbers .int32 [] [(n : Int)]
  let shape := [r.frames.length, w.grid.height, w.grid.width]
  let occupancy := r.frames.flatMap fun f => f.occupancy.flatten.map cellNumber
  let headings := r.frames.flatMap fun f =>
    f.headings.flatten.map fun h => cellNumber (h.map (·.index))
  let names := w.species.map (arrayText ·.name)
  let rounds ← bounded .int32 "int32" (-2147483648) 2147483647 [r.frames.length] r.rounds
  let colours ← bounded .uint8 "uint8" 0 255 [w.species.length, 3]
    (w.species.flatMap (·.colour.components))
  return [("width", side w.grid.width), ("height", side w.grid.height),
    ("occupancy", .numbers .int16 shape (occupancy.map (Int.bmod · 65536))),
    ("direction", .numbers .int8 shape headings), ("round", rounds),
    ("species_names", if names.isEmpty then .numbers .float64 [0] [] else .texts names),
    ("species_colors", colours)]

/-- The ending of an archive's file name; a name without it gets it. -/
def fileName (path : String) : String :=
  if path.endsWith ".npz" then path else path ++ ".npz"

inductive SaveFault
  | file (fault : FileFault)
  | overflow (overflow : Overflow)
  deriving DecidableEq, Repr

def defaultPath (stamp : String) : String := s!"recordings/darwin_run_{stamp}.npz"

def save (r : Recording) (w : World) (d : Directory) (path : String) :
    Directory × Except SaveFault Unit :=
  match d.makeParent path with
  | (d, .error fault) => (d, .error (.file fault))
  | (d, .ok ()) =>
    match r.archive w with
    | .error o => (d, .error (.overflow o))
    | .ok a =>
      match d.write (fileName path) (.arrays a) with
      | .error fault => (d, .error (.file fault))
      | .ok d => (d, .ok ())

def nothingToSave : String := "[recorder] nothing to save"

def savedText (r : Recording) (path : String) : String :=
  s!"[recorder] saved: {path} (T={r.frames.length})"

def toggledText (r : Recording) : String := "[recorder] " ++ if r.enabled then "ON" else "OFF"

def clearedText : String := "[recorder] cleared"

end Recording
end Vivarium
