import Vivarium.Program.Basic
import Vivarium.Text.Basic

/-!
Reading a program: the first line is the species name, every other line that is neither blank nor
a comment is one instruction.
-/
namespace Vivarium

inductive LineFault
  | emptyLabel
  | textAfterLabel (head : String)
  | tooManyTokens (line : String)
  | unknownInstruction (token : String)
  | bareLabel
  | needsLabel (token : String)
  | takesNoLabel (token : String)
  deriving DecidableEq, Repr

def LineFault.message : LineFault → String
  | .emptyLabel => "empty label name"
  | .textAfterLabel head => s!"unexpected text after label '{head}'"
  | .tooManyTokens line => s!"too many tokens in '{line}'"
  | .unknownInstruction token => s!"unknown instruction '{token}'"
  | .bareLabel => "labels are written as 'name:'"
  | .needsLabel token => s!"'{token}' needs a label"
  | .takesNoLabel token => s!"'{token}' takes no label"

/-- What can be wrong with a whole text. Lines are counted from 1, the name line included. -/
inductive SyntaxError
  | emptySource
  | line (number : Nat) (fault : LineFault)
  | noInstructions (name : String)
  | duplicateLabel (name : String) (first second : Nat)
  | undefinedLabel (address : Nat) (instruction : Instruction) (target : String)
  deriving DecidableEq, Repr

def SyntaxError.message : SyntaxError → String
  | .emptySource => "empty species source"
  | .line number fault => s!"line {number}: {fault.message}"
  | .noInstructions name => s!"species '{name}' has no instructions"
  | .duplicateLabel name first second =>
    s!"label '{name}' defined twice (addresses {first} and {second})"
  | .undefinedLabel address instruction target =>
    s!"address {address}: '{instruction.text}' jumps to undefined label '{target}'"

/-- The name a label line defines: the word without its final colon. -/
def labelName? (word : String) : Option String :=
  match word.toList.reverse with
  | ':' :: name => some (.ofList name.reverse)
  | _ => none

namespace Instruction

def ofOperands (head : String) : Opcode → List String → Except LineFault Instruction
  | .label, _ => .error .bareLabel
  | .jump c, [target] => .ok (.jump c target)
  | .jump _, _ => .error (.needsLabel head)
  | .infect, [entry] => .ok (.infect (some entry))
  | .infect, _ => .ok (.infect none)
  | .hop, [] => .ok .hop
  | .left, [] => .ok .left
  | .right, [] => .ok .right
  | _, _ => .error (.takesNoLabel head)

/-- The instruction of a line given as its words; the line itself is only quoted in messages. -/
def ofWords (line head : String) (rest : List String) : Except LineFault Instruction :=
  match labelName? head with
  | some name =>
    if name = "" then .error .emptyLabel
    else if rest ≠ [] then .error (.textAfterLabel head)
    else .ok (.label name)
  | none =>
    if 1 < rest.length then .error (.tooManyTokens line)
    else match Opcode.ofToken? head with
      | none => .error (.unknownInstruction head)
      | some op => ofOperands head op rest

/-- The instruction of a line, none if it is blank or a comment. -/
def ofLine (line : String) : Except LineFault (Option Instruction) :=
  match Text.words line with
  | [] => .ok none
  | head :: rest =>
    if head.toList.head? = some '#' then .ok none
    else (ofWords (Text.trim line) head rest).map some

/-- The instructions of numbered lines, up to the first line at fault. -/
def ofLines (number : Nat) : List String → Except SyntaxError (List Instruction)
  | [] => .ok []
  | line :: rest =>
    match ofLine line with
    | .error fault => .error (.line number fault)
    | .ok none => ofLines (number + 1) rest
    | .ok (some i) => (ofLines (number + 1) rest).map (i :: ·)

end Instruction

namespace Program

/-- The first label that is defined again, with the two addresses. -/
def duplicate? (seen : List (String × Nat)) : List (String × Nat) → Option (String × Nat × Nat)
  | [] => none
  | (name, address) :: rest =>
    match seen.lookup name with
    | some first => some (name, first, address)
    | none => duplicate? ((name, address) :: seen) rest

/-- The first instruction that names a label which is defined nowhere. -/
def undefined? (p : Program) : Option (Nat × Instruction × String) :=
  p.code.toList.zipIdx.findSome? fun (i, address) =>
    match i.target? with
    | some target => if (p.address? target).isSome then none else some (address, i, target)
    | none => none

/-- A program from its instructions, if every label it names is defined exactly once. -/
def check (p : Program) : Except SyntaxError Program :=
  match duplicate? [] p.labels with
  | some (name, first, second) => .error (.duplicateLabel name first second)
  | none =>
    match p.undefined? with
    | some (address, i, target) => .error (.undefinedLabel address i target)
    | none => .ok p

/-- The species name and the program that a text holds. -/
def parse (source : String) : Except SyntaxError (String × Program) :=
  match Text.lines source with
  | [] => .error .emptySource
  | name :: rest =>
    match Instruction.ofLines 2 rest with
    | .error e => .error e
    | .ok [] => .error (.noInstructions name)
    | .ok (i :: is) => (check ⟨(i :: is).toArray⟩).map (name, ·)

end Program
end Vivarium
