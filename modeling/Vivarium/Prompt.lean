import Vivarium.Setting

/-! Asking the user for species, one file and one colour after the other. -/
namespace Vivarium.Prompt

def askPath : String := "Enter the species filename: "
def askColour : String := "Enter color of species: "

/-- The lines of an input; the last one may lack its end. -/
def inputLines (s : String) : List String :=
  let parts := (s.toList.splitOn '\n').map String.ofList
  if parts.getLast? = some "" then parts.dropLast else parts

/-- Why a conversation ends without the species being known. -/
inductive Breakoff
  | endOfInput
  | badPath
  deriving DecidableEq, Repr

/-- What is asked, what is complained of, and what comes of it. -/
structure Conversation where
  out : String
  complaints : List String
  species : Except Breakoff (List Species)

inductive Answer
  | species (s : Species)
  | refused (message : String)
  | badPath
  deriving DecidableEq, Repr

/-- The species of a path and a colour. The colour is looked at first. -/
def answer (d : Directory) (path colour : String) : Answer :=
  match Setting.colour colour with
  | .error e => .refused e.message
  | .ok c =>
    match Species.load d path c with
    | .error .badPath => .badPath
    | .error e => .refused e.message
    | .ok s => .species s

def complaint (message : String) : String := s!"[darwin] {message}; try again"

/-- Goes on until a blank path is given. -/
def run (d : Directory) : List String → Conversation
  | [] => ⟨askPath, [], .error .endOfInput⟩
  | path :: rest =>
    if Text.trim path = "" then ⟨askPath, [], .ok []⟩
    else match rest with
      | [] => ⟨askPath ++ askColour, [], .error .endOfInput⟩
      | colour :: rest =>
        let later := run d rest
        let out := askPath ++ askColour ++ later.out
        match answer d (Text.trim path) (Text.trim colour) with
        | .badPath => ⟨askPath ++ askColour, [], .error .badPath⟩
        | .refused m => ⟨out, complaint m :: later.complaints, later.species⟩
        | .species s => ⟨out, later.complaints, later.species.map (s :: ·)⟩

end Vivarium.Prompt
