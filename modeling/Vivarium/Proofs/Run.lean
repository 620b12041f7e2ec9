import Vivarium.Turn

/-! Runs: all that can be done to a world since its creation, one act after another. -/
namespace Vivarium

/-- What can be done to a world. A turn comes with its own chance, so its coins are any coins. -/
inductive Act
  | enrol (species : Species)
  | spawn (species : Nat) (pos : Pos) (heading : Heading)
  | turn (me : Nat) (chance : Chance) (budget : Option Int)

namespace Act

/-- The world after an act. A failing act, or a turn that is given up, leaves what it has done. -/
def after (a : Act) (w : World) : World :=
  match a with
  | enrol s => (w.addSpecies s).1
  | spawn species pos heading => (w.spawn species pos heading).world
  | turn me chance budget => (Turn.run w chance me budget).world

/-- What an act tells. -/
def events (a : Act) (w : World) : List Event :=
  match a with
  | enrol _ => []
  | spawn species pos heading => (w.spawn species pos heading).events
  | turn me chance budget => (Turn.run w chance me budget).events

end Act

/-- Acts one after another, each keeping to the rule when it comes, with the events they tell. -/
inductive Run (rule : World → Act → Prop) (w : World) : List Event → World → Prop
  | start : Run rule w [] w
  | act {es : List Event} {v : World} {a : Act} :
      Run rule w es v → rule v a → Run rule w (es ++ a.events v) (a.after v)

namespace Run

variable {rule : World → Act → Prop} {u v w : World} {es fs : List Event}

theorem trans (h : Run rule u es v) (h' : Run rule v fs w) : Run rule u (es ++ fs) w := by
  induction h' with
  | start => simpa using h
  | act _ ha ih =>
    rw [← List.append_assoc]
    exact ih.act ha

theorem mono {rule' : World → Act → Prop} (hrule : ∀ v a, rule v a → rule' v a)
    (h : Run rule w es v) : Run rule' w es v := by
  induction h with
  | start => exact .start
  | act _ ha ih => exact ih.act (hrule _ _ ha)

theorem single {a : Act} (h : rule w a) : Run rule w (a.events w) (a.after w) := by
  simpa using start.act h

/-- What holds at first and is kept by every act holds in the end. -/
theorem invariant {P : World → Prop} (hact : ∀ v a, P v → rule v a → P (a.after v))
    (h : Run rule w es v) (hw : P w) : P v := by
  induction h with
  | start => exact hw
  | act _ ha ih => exact hact _ _ ih ha

end Run

/-- A world that some run leads to from an empty one. -/
def World.Reachable (rule : World → Act → Prop) (w : World) : Prop :=
  ∃ width height start es, World.create? width height = some start ∧ Run rule start es w

namespace World.Reachable

variable {rule : World → Act → Prop} {v w : World}

/-- What holds in every empty world and is kept by every act holds in every reachable world. -/
theorem invariant {P : World → Prop}
    (hempty : ∀ width height, 0 < width → 0 < height → P ⟨.empty width height, [], []⟩)
    (hact : ∀ v a, P v → rule v a → P (a.after v)) (h : w.Reachable rule) : P w := by
  obtain ⟨width, height, start, es, hc, hr⟩ := h
  apply hr.invariant hact
  unfold World.create? at hc
  split at hc
  · cases hc
  · obtain rfl := Option.some.inj hc
    exact hempty _ _ (by omega) (by omega)

end World.Reachable
end Vivarium
