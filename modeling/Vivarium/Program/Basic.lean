import Vivarium.Text.Basic

/-! Programs: sequences of instructions, each at its own address, with jumps to named labels. -/
namespace Vivarium

/-- What a jump asks before it is taken. -/
inductive Condition
  | empty | wall | same | enemy | random | always
  deriving DecidableEq, Repr

inductive Opcode
  | hop | left | right | infect | jump (condition : Condition) | label
  deriving DecidableEq, Repr

namespace Opcode

def token : Opcode → String
  | .hop => "hop"
  | .left => "left"
  | .right => "right"
  | .infect => "infect"
  | .jump .empty => "ifempty"
  | .jump .wall => "ifwall"
  | .jump .same => "ifsame"
  | .jump .enemy => "ifenemy"
  | .jump .random => "ifrandom"
  | .jump .always => "go"
  | .label => "label"

def all : List Opcode :=
  [.hop, .left, .right, .infect, .jump .empty, .jump .wall, .jump .same, .jump .enemy,
    .jump .random, .jump .always, .label]

def ofToken? (token : String) : Option Opcode := all.find? (·.token = token)

theorem ofToken?_token (op : Opcode) : ofToken? op.token = some op := by
  cases op with
  | jump c => cases c <;> rfl
  | _ => rfl

end Opcode

inductive Instruction
  | hop | left | right
  /-- Take over the creature ahead, which starts at the entry label or else at address 0. -/
  | infect (entry : Option String)
  | jump (condition : Condition) (target : String)
  | label (name : String)
  deriving DecidableEq, Repr

namespace Instruction

def opcode : Instruction → Opcode
  | .hop => .hop
  | .left => .left
  | .right => .right
  | .infect _ => .infect
  | .jump c _ => .jump c
  | .label _ => .label

/-- The label or name written beside the operation. -/
def operand? : Instruction → Option String
  | .infect entry => entry
  | .jump _ target => some target
  | .label name => some name
  | _ => none

def target? : Instruction → Option String
  | .infect entry => entry
  | .jump _ target => some target
  | _ => none

def text : Instruction → String
  | .label name => name ++ ":"
  | i => match i.operand? with
    | none => i.opcode.token
    | some l => i.opcode.token ++ " " ++ l

end Instruction

structure Program where
  code : Array Instruction
  deriving DecidableEq, Repr

namespace Program

def size (p : Program) : Nat := p.code.size

/-- The place of an address; a program starts again past its end. -/
def wrap (p : Program) (pc : Nat) : Nat := if pc < p.size then pc else 0

theorem wrap_lt {p : Program} (h : 0 < p.size) (pc : Nat) : p.wrap pc < p.size := by
  unfold wrap
  split <;> assumption

def labels (p : Program) : List (String × Nat) :=
  p.code.toList.zipIdx.filterMap fun
    | (.label name, address) => some (name, address)
    | _ => none

def address? (p : Program) (name : String) : Option Nat :=
  p.code.findIdx? (· = .label name)

/-- One line per instruction, each headed by its address. -/
def listing (p : Program) : String :=
  "\n".intercalate <| p.code.toList.zipIdx.map fun (i, address) =>
    Text.padLeft 3 (toString address) ++ "  " ++ i.text

/-- A program can run: it has an instruction, and each label it names stands at one address. -/
structure WellFormed (p : Program) : Prop where
  nonempty : 0 < p.size
  nodup : (p.labels.map Prod.fst).Nodup
  defined : ∀ i ∈ p.code, ∀ name, i.target? = some name → (p.address? name).isSome

end Program
end Vivarium
