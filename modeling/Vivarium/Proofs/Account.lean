import Mathlib.Logic.Function.Basic
import Vivarium.Proofs.World.Known

/-! What can be known of creatures by hearsay. Whoever hears every event from before the first
newcomer on knows of each creature where it is, where it heads and which colour it has. -/
namespace Vivarium

/-- Where an event finds its creature. A newcomer was nowhere before. -/
def Event.place? : Event → Option Pos
  | .created .. => none
  | .moved _ source _ => some source
  | .turned _ pos _ => some pos
  | .changed _ pos _ => some pos

/-- All that events tell of a creature. -/
structure Likeness where
  pos : Pos
  heading : Heading
  colour : Colour
  deriving DecidableEq, Repr

/-- What is known of each creature, by its number. -/
abbrev Account := Nat → Option Likeness

namespace Account

/-- Nobody is known. -/
def blank : Account := fun _ => none

/-- What is known after an event. But for a newcomer it changes one feature of a creature that is
known already. -/
def hear (a : Account) : Event → Account
  | .created id pos heading colour => Function.update a id (some ⟨pos, heading, colour⟩)
  | .moved id _ target => Function.update a id ((a id).map ({ · with pos := target }))
  | .turned id _ heading => Function.update a id ((a id).map ({ · with heading }))
  | .changed id _ colour => Function.update a id ((a id).map ({ · with colour }))

def hearAll (a : Account) (es : List Event) : Account := es.foldl hear a

/-- Every event finds its creature where it is known to be by then. -/
def Agrees : Account → List Event → Prop
  | _, [] => True
  | a, e :: es =>
    (∀ p, e.place? = some p → (a e.creature).map (·.pos) = some p) ∧ (a.hear e).Agrees es

variable {a : Account}

@[simp] theorem hearAll_nil (a : Account) : a.hearAll [] = a := rfl

@[simp] theorem hearAll_cons (a : Account) (e : Event) (es : List Event) :
    a.hearAll (e :: es) = (a.hear e).hearAll es := rfl

@[simp] theorem hearAll_append (a : Account) (es fs : List Event) :
    a.hearAll (es ++ fs) = (a.hearAll es).hearAll fs := List.foldl_append

@[simp] theorem agrees_nil : a.Agrees [] := ⟨⟩

theorem agrees_append {es fs : List Event} :
    a.Agrees (es ++ fs) ↔ a.Agrees es ∧ (a.hearAll es).Agrees fs := by
  induction es generalizing a with
  | nil => simp
  | cons e es ih => simp [Agrees, ih, and_assoc]

theorem agrees_singleton {e : Event} :
    a.Agrees [e] ↔ ∀ p, e.place? = some p → (a e.creature).map (·.pos) = some p := by
  simp [Agrees]

theorem hearAll_turns {id : Nat} {l : Likeness} (h : a id = some l) (hs : List Heading) (p : Pos) :
    a.hearAll (hs.map (.turned id p)) =
      Function.update a id (some { l with heading := l.heading.after hs }) := by
  induction hs generalizing a l with
  | nil => simp [← h]
  | cons d hs ih => simp [hear, h, ih (l := { l with heading := d })]

theorem agrees_turns {id : Nat} {l : Likeness} (h : a id = some l) (hs : List Heading) :
    a.Agrees (hs.map (.turned id l.pos)) := by
  induction hs generalizing a l with
  | nil => exact agrees_nil
  | cons d hs ih =>
    refine ⟨by simp [Event.place?, Event.creature, h], ?_⟩
    exact ih (l := { l with heading := d }) (by simp [hear, h])

end Account

namespace World

/-- How a creature looks: by its own position and heading, and the colour of its species. -/
def likeness? (w : World) : Account := fun id => do
  let c ← w.creatures[id]?
  let s ← w.species[c.species]?
  return ⟨c.pos, c.heading, s.colour⟩

variable {w : World}

theorem likeness?_eq_some {id : Nat} {c : Creature} {s : Species} (hc : w.creatures[id]? = some c)
    (hs : w.species[c.species]? = some s) :
    w.likeness? id = some ⟨c.pos, c.heading, s.colour⟩ := by
  simp [likeness?, hc, hs]

theorem Actor.likeness? {me : Nat} {c : Creature} {s : Species} (h : w.Actor me c s) :
    w.likeness? me = some ⟨c.pos, c.heading, s.colour⟩ :=
  likeness?_eq_some h.creature h.species

theorem likeness?_modify {id : Nat} {c : Creature} {s : Species} {f : Creature → Creature}
    (hc : w.creatures[id]? = some c) (hs : w.species[(f c).species]? = some s) :
    (w.modify id f).likeness? =
      Function.update w.likeness? id (some ⟨(f c).pos, (f c).heading, s.colour⟩) := by
  funext i
  by_cases hi : i = id
  · subst hi
    simp [World.likeness?, hc, hs]
  · simp [World.likeness?, getElem?_modify, Ne.symm hi, hi]

theorem likeness?_hold {me : Nat} {c : Creature} {s : Species} (h : w.Actor me c s) (t : Stance) :
    (w.hold me t).likeness? =
      Function.update w.likeness? me (some ⟨c.pos, t.heading, s.colour⟩) :=
  likeness?_modify h.creature h.species

theorem likeness?_move {me : Nat} {c : Creature} {s : Species} {target : Pos}
    (h : w.Actor me c s) (hfrom : w.grid.Contains c.pos) (hto : w.grid.Contains target) :
    (w.move me target).world.likeness? =
      Function.update w.likeness? me (some ⟨target, c.heading, s.colour⟩) := by
  rw [move_eq h.creature hfrom hto]
  exact likeness?_modify (w := { w with grid := (w.grid.put c.pos none).put target (some me) })
    h.creature h.species

theorem likeness?_infect {other species : Nat} {d : Creature} {s : Species}
    (hd : w.creatures[other]? = some d) (hs : w.species[species]? = some s) (start : Nat) :
    (w.infect other species start).world.likeness? =
      Function.update w.likeness? other (some ⟨d.pos, d.heading, s.colour⟩) := by
  rw [world_infect]
  exact likeness?_modify hd hs

/-- The events of a turn, or of a part of one, tell all that it changes. -/
theorem hearAll_course {v : World} {me : Nat} {es : List Event} {r : Except Fault Progress}
    (hk : w.Known) (h : Turn.Course w me v es r) :
    w.likeness?.hearAll es = v.likeness? ∧ w.likeness?.Agrees es := by
  cases h with
  | idle => simp
  | held hs pc ha =>
    rw [Account.hearAll_turns ha.likeness?, likeness?_hold ha]
    exact ⟨rfl, Account.agrees_turns ha.likeness? hs⟩
  | @moved c s hs pc target ha _ _ hfrom hto =>
    have hold := ha.hold ⟨c.heading.after hs, pc⟩
    rw [Account.hearAll_append, Account.agrees_append, Account.hearAll_turns ha.likeness?,
      likeness?_move hold hfrom hto, likeness?_hold ha]
    refine ⟨by simp [Account.hear], Account.agrees_turns ha.likeness? hs, ?_⟩
    simp [Account.agrees_singleton, Event.place?, Event.creature]
  | @infected c s hs pc other p entry start ha _ _ hp =>
    have hk' := hk.hold me ⟨c.heading.after hs, pc⟩
    have hold := likeness?_hold ha ⟨c.heading.after hs, pc⟩
    rw [← pos?_hold w me other ⟨c.heading.after hs, pc⟩] at hp
    obtain ⟨d, hd, rfl⟩ := pos?_eq_some.1 hp
    obtain ⟨t, ht⟩ := hk'.exists_species hd
    have hother := likeness?_eq_some hd ht
    rw [Account.hearAll_append, Account.agrees_append, Account.hearAll_turns ha.likeness?, ← hold,
      likeness?_infect hd ha.species]
    refine ⟨by simp [Account.hear, hother], Account.agrees_turns ha.likeness? hs, ?_⟩
    simp [Account.agrees_singleton, Event.place?, Event.creature, hother]

theorem likeness?_spawn {species : Nat} {s : Species} (hs : w.species[species]? = some s) (p : Pos)
    (heading : Heading) : (w.spawn species p heading).world.likeness? =
      Function.update w.likeness? w.creatures.length (some ⟨p, heading, s.colour⟩) := by
  rw [world_spawn]
  funext i
  by_cases hi : i = w.creatures.length
  · subst hi
    simp [likeness?, hs]
  · have hget : (w.creatures ++ [⟨species, p, heading, 0⟩])[i]? = w.creatures[i]? := by grind
    simp [likeness?, hi, hget]

theorem hearAll_spawn {species : Nat} {p : Pos} (hs : species < w.species.length)
    (hp : w.grid.Contains p) (heading : Heading) :
    w.likeness?.hearAll (w.spawn species p heading).events =
        (w.spawn species p heading).world.likeness? ∧
      w.likeness?.Agrees (w.spawn species p heading).events := by
  have hget := List.getElem?_eq_getElem hs
  rw [Change.events, result_spawn hget hp, likeness?_spawn hget]
  exact ⟨rfl, by simp [Account.agrees_singleton, Event.place?]⟩

theorem likeness?_enrol (hk : w.Known) (s : Species) :
    (w.addSpecies s).1.likeness? = w.likeness? := by
  funext i
  cases hc : w.creatures[i]? with
  | none => simp [likeness?, addSpecies, hc]
  | some c => simp [likeness?, addSpecies, hc, List.getElem?_append_left (hk i c hc)]

theorem hearAll_act (hk : w.Known) {a : Act} (ha : Act.Placed w a) :
    w.likeness?.hearAll (a.events w) = (a.after w).likeness? ∧ w.likeness?.Agrees (a.events w) := by
  cases a with
  | enrol s => exact ⟨(likeness?_enrol hk s).symm, Account.agrees_nil⟩
  | spawn species p heading => exact hearAll_spawn ha.1 ha.2 heading
  | turn me chance budget => exact hearAll_course hk (Turn.run_course w chance me budget)

theorem hearAll_run {v : World} {es : List Event} (hk : v.Known) (h : Run Act.Placed v es w) :
    v.likeness?.hearAll es = w.likeness? ∧ v.likeness?.Agrees es := by
  induction h with
  | start => simp
  | act hrun ha ih =>
    have hnow := hearAll_act (hrun.invariant (fun _ _ hv hact => hv.act hact) hk) ha
    rw [Account.hearAll_append, Account.agrees_append, ih.1]
    exact ⟨hnow.1, ih.2, hnow.2⟩

/-- From events alone all creatures are known as they are, and nobody else; and each event finds its
creature where it is known to be at that moment. -/
theorem account_complete {start w : World} {es : List Event} (hstart : start.creatures = [])
    (hr : Run Act.Placed start es w) :
    (∀ (id : Nat) (c : Creature), w.creatures[id]? = some c →
      ∃ s, w.species[c.species]? = some s ∧
        Account.blank.hearAll es id = some ⟨c.pos, c.heading, s.colour⟩) ∧
      (∀ id, w.creatures.length ≤ id → Account.blank.hearAll es id = none) ∧
      ∀ told e rest, es = told ++ e :: rest → ∀ p, e.place? = some p →
        (Account.blank.hearAll told e.creature).map (·.pos) = some p := by
  have hblank : start.likeness? = Account.blank := by
    funext id
    simp [likeness?, hstart, Account.blank]
  have hknown : start.Known := by
    intro id c hc
    simp [hstart] at hc
  obtain ⟨hheard, hagrees⟩ := hearAll_run hknown hr
  rw [hblank] at hheard hagrees
  refine ⟨fun id c hc => ?_, fun id hid => ?_, fun told e rest hes => ?_⟩
  · have hw : w.Known := hr.invariant (fun _ _ hv ha => hv.act ha) hknown
    obtain ⟨s, hs⟩ := hw.exists_species hc
    exact ⟨s, hs, hheard ▸ likeness?_eq_some hc hs⟩
  · simp [hheard, likeness?, List.getElem?_eq_none hid]
  · rw [hes, Account.agrees_append] at hagrees
    exact hagrees.2.1

def painter : Species := ⟨"Painter", ⟨255, 0, 0⟩, ⟨#[.infect none]⟩⟩

theorem account_complete_painted :
    let still : Chance := ⟨[], [], ⟨#[], 0⟩⟩
    let start : World := ⟨.empty 3 1, [hopper, painter], []⟩
    let w := (Act.turn 2 still none).after <| (Act.turn 0 still none).after <|
      (Act.spawn 1 ⟨2, 0⟩ .west).after <| (Act.spawn 0 ⟨0, 0⟩ .north).after <|
      (Act.spawn 0 ⟨0, 0⟩ .east).after start
    start.creatures = [] ∧ ∃ es, Run Act.Placed start es w ∧
      Account.blank.hearAll es 0 = some ⟨⟨1, 0⟩, .east, ⟨255, 0, 0⟩⟩ := by
  intro still start w
  obtain ⟨es, hr⟩ : ∃ es, Run Act.Placed start es w :=
    ⟨_, .act (.act (.act (.act (.act .start ⟨by decide, by decide⟩) ⟨by decide, by decide⟩)
      ⟨by decide, by decide⟩) ⟨⟩) ⟨⟩⟩
  have hc : w.creatures[0]? = some ⟨1, ⟨1, 0⟩, .east, 0⟩ := by decide
  have hp : w.species[1]? = some painter := by decide
  obtain ⟨s, hs, hheard⟩ := (account_complete rfl hr).1 0 _ hc
  obtain rfl := Option.some.inj (hp.symm.trans hs)
  exact ⟨rfl, es, hr, hheard⟩

end World
end Vivarium
