import Vivarium.Proofs.World.Operations
import Vivarium.Turn

/-! What a creature changes while its turn goes on: its heading and its address, nothing else. -/
namespace Vivarium

/-- The heading after the headings of a list are taken up one after another. -/
def Heading.after (d : Heading) : List Heading → Heading
  | [] => d
  | e :: es => e.after es

@[simp] theorem Heading.after_nil (d : Heading) : d.after [] = d := rfl

@[simp] theorem Heading.after_cons (d e : Heading) (es : List Heading) :
    d.after (e :: es) = e.after es := rfl

@[simp] theorem Heading.after_append (d : Heading) (ds es : List Heading) :
    d.after (ds ++ es) = (d.after ds).after es := by
  induction ds generalizing d with
  | nil => rfl
  | cons e ds ih => exact ih e

/-- A heading and an address. -/
structure Stance where
  heading : Heading
  pc : Nat
  deriving DecidableEq, Repr

def Creature.stance (c : Creature) : Stance := ⟨c.heading, c.pc⟩

def Creature.hold (c : Creature) (t : Stance) : Creature :=
  { c with heading := t.heading, pc := t.pc }

@[simp] theorem Creature.pos_hold (c : Creature) (t : Stance) : (c.hold t).pos = c.pos := rfl

@[simp] theorem Creature.heading_hold (c : Creature) (t : Stance) :
    (c.hold t).heading = t.heading := rfl

@[simp] theorem Creature.pc_hold (c : Creature) (t : Stance) : (c.hold t).pc = t.pc := rfl

@[simp] theorem Creature.species_hold (c : Creature) (t : Stance) :
    (c.hold t).species = c.species := rfl

@[simp] theorem Creature.stance_hold (c : Creature) (t : Stance) : (c.hold t).stance = t := rfl

@[simp] theorem Creature.hold_hold (c : Creature) (t u : Stance) :
    (c.hold t).hold u = c.hold u := rfl

@[simp] theorem Creature.hold_stance (c : Creature) : c.hold c.stance = c := rfl

@[simp] theorem Creature.ahead_hold (c : Creature) (t : Stance) :
    (c.hold t).ahead = c.pos.step t.heading := rfl

namespace World

def hold (w : World) (me : Nat) (t : Stance) : World := w.modify me (·.hold t)

@[simp] theorem grid_hold (w : World) (me : Nat) (t : Stance) : (w.hold me t).grid = w.grid := rfl

@[simp] theorem species_hold (w : World) (me : Nat) (t : Stance) :
    (w.hold me t).species = w.species := rfl

@[simp] theorem length_hold (w : World) (me : Nat) (t : Stance) :
    (w.hold me t).creatures.length = w.creatures.length := length_modify ..

theorem getElem?_hold (w : World) (me i : Nat) (t : Stance) :
    (w.hold me t).creatures[i]? =
      if me = i then w.creatures[i]?.map (·.hold t) else w.creatures[i]? := getElem?_modify ..

@[simp] theorem pos?_hold (w : World) (me i : Nat) (t : Stance) :
    (w.hold me t).pos? i = w.pos? i :=
  pos?_modify (Creature.pos_hold · t) w me i

@[simp] theorem hold_hold (w : World) (me : Nat) (t u : Stance) :
    (w.hold me t).hold me u = w.hold me u := modify_modify ..

/-- A creature is there, and so is the species whose program it runs. -/
structure Actor (w : World) (me : Nat) (c : Creature) (s : Species) : Prop where
  creature : w.creatures[me]? = some c
  species : w.species[c.species]? = some s

theorem Actor.hold {w : World} {me : Nat} {c : Creature} {s : Species} (h : w.Actor me c s)
    (t : Stance) : (w.hold me t).Actor me (c.hold t) s :=
  ⟨by simp [getElem?_hold, h.creature], h.species⟩

theorem Actor.speciesOf? {w : World} {me : Nat} {c : Creature} {s : Species}
    (h : w.Actor me c s) : w.speciesOf? me = some s := by
  simp [World.speciesOf?, h.creature, h.species]

theorem exists_actor {w : World} {me : Nat} {s : Species} (h : w.speciesOf? me = some s) :
    ∃ c, w.Actor me c s := by
  obtain ⟨c, hc, hs⟩ := Option.bind_eq_some_iff.1 h
  exact ⟨c, hc, hs⟩

section Actor

variable {w : World} {me : Nat} {c : Creature} {s : Species} (h : w.Actor me c s)

include h

theorem Actor.hold_stance : w.hold me c.stance = w := by
  have hid : w.hold me c.stance = w.modify me id := modify_congr h.creature rfl
  rw [hid]
  simp [modify]

theorem Actor.hold_inj {t u : Stance} : w.hold me t = w.hold me u ↔ t = u := by
  constructor
  · intro heq
    have hc := (h.hold t).creature
    rw [heq, (h.hold u).creature] at hc
    exact congrArg Creature.stance (Option.some.inj hc).symm
  · rintro rfl
    rfl

theorem Actor.modify_pc (pc : Nat) : w.modify me ({ · with pc }) = w.hold me ⟨c.heading, pc⟩ :=
  modify_congr h.creature rfl

theorem Actor.modify_heading (heading : Heading) :
    w.modify me ({ · with heading }) = w.hold me ⟨heading, c.pc⟩ :=
  modify_congr h.creature rfl

end Actor

end World
end Vivarium
