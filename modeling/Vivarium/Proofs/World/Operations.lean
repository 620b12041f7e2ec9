import Vivarium.World

/-! What each change of the world does to the positions of creatures and to the cells. -/
namespace Vivarium.World

def pos? (w : World) (id : Nat) : Option Pos := w.creatures[id]?.map (·.pos)

theorem pos?_eq_some {w : World} {id : Nat} {p : Pos} :
    w.pos? id = some p ↔ ∃ c, w.creatures[id]? = some c ∧ c.pos = p := by
  simp [pos?]

theorem pos?_of_creature {w : World} {id : Nat} {c : Creature} (h : w.creatures[id]? = some c) :
    w.pos? id = some c.pos :=
  pos?_eq_some.2 ⟨c, h, rfl⟩

@[simp] theorem grid_modify (w : World) (id : Nat) (f : Creature → Creature) :
    (w.modify id f).grid = w.grid := rfl

@[simp] theorem species_modify (w : World) (id : Nat) (f : Creature → Creature) :
    (w.modify id f).species = w.species := rfl

@[simp] theorem length_modify (w : World) (id : Nat) (f : Creature → Creature) :
    (w.modify id f).creatures.length = w.creatures.length := by
  simp [modify]

theorem getElem?_modify (w : World) (id i : Nat) (f : Creature → Creature) :
    (w.modify id f).creatures[i]? =
      if id = i then w.creatures[i]?.map f else w.creatures[i]? := by
  rw [modify, List.getElem?_modify]
  split <;> simp

@[simp] theorem getElem?_modify_self (w : World) (id : Nat) (f : Creature → Creature) :
    (w.modify id f).creatures[id]? = w.creatures[id]?.map f := by
  simp [getElem?_modify]

theorem modify_congr {w : World} {id : Nat} {c : Creature} {f g : Creature → Creature}
    (hc : w.creatures[id]? = some c) (h : f c = g c) : w.modify id f = w.modify id g := by
  have hl : w.creatures.modify id f = w.creatures.modify id g := by
    apply List.ext_getElem?
    intro i
    rw [List.getElem?_modify, List.getElem?_modify]
    split
    · next hi => subst hi; simp [hc, h]
    · rfl
  rw [modify, modify, hl]

theorem modify_modify (w : World) (id : Nat) (f g : Creature → Creature) :
    (w.modify id f).modify id g = w.modify id (g ∘ f) := by
  simp [modify, List.modify_modify_eq]

theorem pos?_modify {f : Creature → Creature} (hf : ∀ c, (f c).pos = c.pos) (w : World)
    (id i : Nat) : (w.modify id f).pos? i = w.pos? i := by
  simp only [pos?, getElem?_modify]
  split <;> simp [Option.map_map, Function.comp_def, hf]

theorem turn_eq {w : World} {id : Nat} {c : Creature} (hc : w.creatures[id]? = some c)
    (heading : Heading) : w.turn id heading =
      ⟨w.modify id ({ · with heading }), .ok (.turned id c.pos heading)⟩ := by
  simp [turn, hc]

theorem infect_eq {w : World} {id species : Nat} {c : Creature} {s : Species}
    (hc : w.creatures[id]? = some c) (hs : w.species[species]? = some s) (pc : Nat) :
    w.infect id species pc =
      ⟨w.modify id ({ · with species, pc }), .ok (.changed id c.pos s.colour)⟩ := by
  simp [infect, hc, hs]

theorem turn_fault {w : World} {id : Nat} {heading : Heading} {f : Fault}
    (h : (w.turn id heading).result = .error f) : f = .unknownCreature := by
  unfold turn at h
  split at h
  · exact (Except.error.inj h).symm
  · cases h

theorem infect_fault {w : World} {id species pc : Nat} {f : Fault}
    (h : (w.infect id species pc).result = .error f) :
    f = .unknownCreature ∨ f = .unknownSpecies := by
  unfold infect at h
  split at h
  · exact .inl (Except.error.inj h).symm
  · dsimp only at h
    split at h
    · exact .inr (Except.error.inj h).symm
    · cases h

theorem set_fault {w : World} {p : Pos} {o : Option Nat} {f : Fault}
    (h : w.set p o = .error f) : f = .outOfBounds p := by
  unfold set at h
  split at h
  · cases h
  · exact (Except.error.inj h).symm

theorem move_fault {w : World} {id : Nat} {target : Pos} {f : Fault}
    (h : (w.move id target).result = .error f) :
    f = .unknownCreature ∨ ∃ p, f = .outOfBounds p := by
  unfold move at h
  split at h
  · exact .inl (Except.error.inj h).symm
  · split at h
    · next hset =>
      obtain rfl := Except.error.inj h
      exact .inr ⟨_, set_fault hset⟩
    · split at h
      · next hset =>
        obtain rfl := Except.error.inj h
        exact .inr ⟨_, set_fault hset⟩
      · cases h

theorem world_infect (w : World) (id species pc : Nat) :
    (w.infect id species pc).world = w.modify id ({ · with species, pc }) := by
  unfold infect
  cases hc : w.creatures[id]? with
  | none =>
    have hl := List.getElem?_eq_none_iff.1 hc
    simp [modify, List.modify_eq_self hl]
  | some c => cases hs : w.species[species]? <;> simp [hs]

theorem pos?_infect (w : World) (other species pc id : Nat) :
    (w.infect other species pc).world.pos? id = w.pos? id := by
  rw [world_infect]
  exact pos?_modify (f := ({ · with species, pc })) (fun _ => rfl) w other id

theorem move_eq {w : World} {id : Nat} {c : Creature} {target : Pos}
    (hc : w.creatures[id]? = some c) (hs : w.grid.Contains c.pos) (ht : w.grid.Contains target) :
    w.move id target =
      ⟨{ w with grid := (w.grid.put c.pos none).put target (some id) }.modify id
        ({ · with pos := target }), .ok (.moved id c.pos target)⟩ := by
  simp [move, set, hc, hs, ht]

theorem move_of_not_contains {w : World} {id : Nat} {c : Creature}
    (hc : w.creatures[id]? = some c) (hs : ¬ w.grid.Contains c.pos) (target : Pos) :
    w.move id target = ⟨w, .error (.outOfBounds c.pos)⟩ := by
  simp [move, set, hc, hs]

section Move

variable {w : World} {id : Nat} {c : Creature} {target : Pos}
  (hc : w.creatures[id]? = some c) (hs : w.grid.Contains c.pos) (ht : w.grid.Contains target)

include hc hs ht

theorem occupant?_move (p : Pos) : (w.move id target).world.grid.occupant? p =
    if target = p then some id else if c.pos = p then none else w.grid.occupant? p := by
  rw [move_eq hc hs ht]
  simp only [grid_modify]
  rw [Grid.occupant?_put _ (by simpa using ht), Grid.occupant?_put _ hs]

theorem pos?_move (i : Nat) :
    (w.move id target).world.pos? i = if id = i then some target else w.pos? i := by
  rw [move_eq hc hs ht]
  simp only [pos?, getElem?_modify]
  split
  · next h => subst h; simp [hc]
  · rfl

end Move

theorem world_spawn (w : World) (species : Nat) (p : Pos) (heading : Heading) :
    (w.spawn species p heading).world =
      { w with
        creatures := w.creatures ++ [⟨species, p, heading, 0⟩]
        grid := if w.grid.Contains p then w.grid.put p (some w.creatures.length) else w.grid } := by
  by_cases hp : w.grid.Contains p
  · simp only [spawn, set, hp, if_true]
    split <;> rfl
  · simp only [spawn, set, hp, if_false]

theorem result_spawn {w : World} {species : Nat} {p : Pos} {s : Species}
    (hs : w.species[species]? = some s) (hp : w.grid.Contains p) (heading : Heading) :
    (w.spawn species p heading).result =
      .ok (.created w.creatures.length p heading s.colour) := by
  simp [spawn, set, hp, hs]

theorem pos?_spawn (w : World) (species : Nat) (p : Pos) (heading : Heading) (i : Nat) :
    (w.spawn species p heading).world.pos? i =
      if i = w.creatures.length then some p else w.pos? i := by
  simp only [pos?, world_spawn]
  grind

theorem pos?_lt {w : World} {id : Nat} {p : Pos} (h : w.pos? id = some p) :
    id < w.creatures.length := by
  obtain ⟨c, hc, -⟩ := pos?_eq_some.1 h
  exact (List.getElem?_eq_some_iff.1 hc).1

end Vivarium.World
