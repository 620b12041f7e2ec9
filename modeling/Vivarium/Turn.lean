import Vivarium.Episode

/-!
A turn: a creature runs its program until an instruction ends the turn, or until it has evaluated
as many instructions as its budget allows.
-/
namespace Vivarium

structure Outcome where
  opcode : Opcode
  steps : Nat
  moved : Bool := false
  infected : Bool := false
  deriving DecidableEq, Repr

inductive Progress
  | ended (moved infected : Bool)
  | goesOn
  deriving DecidableEq, Repr

namespace Turn

/-- The budget for a program of a given size, unless one is given. -/
def budgetFor (size : Nat) : Nat := max 1 size * 4

def holds (w : World) (chance : Chance) (me : Nat) (c : Creature) : Condition → Bool × Chance
  | .empty => (decide (w.grid.Contains c.ahead) && (w.grid.occupant? c.ahead).isNone, chance)
  | .wall => (!decide (w.grid.Contains c.ahead), chance)
  | .same => (w.grid.occupant? c.ahead = some me, chance)
  | .enemy =>
    let other := do w.creatures[← w.grid.occupant? c.ahead]?
    (other.any (·.species ≠ c.species), chance)
  | .random => chance.coin
  | .always => (true, chance)

/-- The heading a creature takes up before a jump under the condition. -/
def swerve? (heading : Heading) : Condition → Option Heading
  | .wall => some heading.left
  | .same => some heading.right
  | _ => none

/-- A jump that is taken: the swerve first, then the label is looked up. -/
def jump (w : World) (chance : Chance) (me : Nat) (c : Creature) (p : Program)
    (condition : Condition) (target : String) : Episode Progress :=
  let swerved : Episode Unit := match swerve? c.heading condition with
    | none => .done () w chance
    | some heading => .ofChange (w.turn me heading) () chance
  swerved.andThen fun _ w chance =>
    match p.address? target with
    | none => .failed (.undefinedLabel target) w chance
    | some pc => .done .goesOn (w.modify me ({ · with pc })) chance

/-- Evaluates one instruction of `p` for the creature `c` with number `me`. -/
def evaluate (w : World) (chance : Chance) (me : Nat) (c : Creature) (p : Program) :
    Instruction → Episode Progress
  | .hop =>
    if w.grid.Contains c.ahead ∧ w.grid.occupant? c.ahead = none then
      .ofChange (w.move me c.ahead) (.ended true false) chance
    else .done (.ended false false) w chance
  | .left => .ofChange (w.turn me c.heading.left) (.ended false false) chance
  | .right => .ofChange (w.turn me c.heading.right) (.ended false false) chance
  | .infect entry =>
    match w.grid.occupant? c.ahead with
    | none => .done (.ended false false) w chance
    | some other =>
      match entry with
      | none => .ofChange (w.infect other c.species 0) (.ended false true) chance
      | some name =>
        match p.address? name with
        | none => .failed (.undefinedLabel name) w chance
        | some pc => .ofChange (w.infect other c.species pc) (.ended false true) chance
  | .jump condition target =>
    let (taken, chance) := holds w chance me c condition
    if taken then jump w chance me c p condition target else .done .goesOn w chance
  | .label _ => .done .goesOn w chance

/-- The instruction that a creature is about to evaluate: the creature as it is, the instruction,
and the world in which its address is advanced. Past the end of the program the address is 0. -/
def fetch (w : World) (me : Nat) (p : Program) : Except Fault (Creature × Instruction × World) :=
  match w.creatures[me]? with
  | none => .error .unknownCreature
  | some c =>
    match p.code[p.wrap c.pc]? with
    | none => .error .noInstruction
    | some i => .ok (c, i, w.modify me ({ · with pc := p.wrap c.pc + 1 }))

/-- Runs on with `left` instructions to go and `steps` evaluated. -/
def loop (me : Nat) (s : Species) (budget : Int) : Nat → Nat → World → Chance → Episode Outcome
  | 0, _, w, chance =>
    let pc := (w.creatures[me]?.map (·.pc)).getD 0
    .failed (.runaway s.name budget pc) w chance
  | left + 1, steps, w, chance =>
    match fetch w me s.program with
    | .error f => .failed f w chance
    | .ok (c, i, w) =>
      (evaluate w chance me c s.program i).andThen fun
        | .ended moved infected => .done ⟨i.opcode, steps + 1, moved, infected⟩
        | .goesOn => loop me s budget left (steps + 1)

/-- A creature's turn, by the budget given or else by that for its program. -/
def run (w : World) (chance : Chance) (me : Nat) (budget : Option Int := none) : Episode Outcome :=
  match w.speciesOf? me with
  | none => .failed .unknownSpecies w chance
  | some s =>
    let budget := budget.getD (budgetFor s.program.size)
    loop me s budget budget.toNat 0 w chance

/-- A creature's slot in a round: a runaway turn is given up with a notice. -/
def take (w : World) (chance : Chance) (me : Nat) : Episode (Option Outcome) :=
  let turn := run w chance me
  match turn.result with
  | .error (.runaway s b pc) =>
    let pos := (turn.world.creatures[me]?.map (·.pos)).getD ⟨0, 0⟩
    { turn with notices := turn.notices ++ [⟨me, pos, .runaway s b pc⟩], result := .ok none }
  | _ => turn.map some

end Turn
end Vivarium
