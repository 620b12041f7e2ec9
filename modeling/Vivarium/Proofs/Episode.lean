import Vivarium.Episode

/-! How the parts of two stretches make up the whole. -/
namespace Vivarium.Episode

variable {α β γ : Type}

@[simp] theorem world_done (a : α) (w : World) (c : Chance) : (done a w c).world = w := rfl

@[simp] theorem events_done (a : α) (w : World) (c : Chance) : (done a w c).events = [] := rfl

@[simp] theorem result_done (a : α) (w : World) (c : Chance) : (done a w c).result = .ok a := rfl

@[simp] theorem world_failed (f : Fault) (w : World) (c : Chance) :
    (failed f w c : Episode α).world = w := rfl

@[simp] theorem events_failed (f : Fault) (w : World) (c : Chance) :
    (failed f w c : Episode α).events = [] := rfl

@[simp] theorem result_failed (f : Fault) (w : World) (c : Chance) :
    (failed f w c : Episode α).result = .error f := rfl

theorem andThen_of_ok {e : Episode α} {a : α} (h : e.result = .ok a)
    (next : α → World → Chance → Episode β) :
    e.andThen next =
      { next a e.world e.chance with
        events := e.events ++ (next a e.world e.chance).events
        notices := e.notices ++ (next a e.world e.chance).notices } := by
  simp [andThen, h]

theorem andThen_of_error {e : Episode α} {f : Fault} (h : e.result = .error f)
    (next : α → World → Chance → Episode β) :
    e.andThen next = { e with result := .error f } := by
  simp [andThen, h]

theorem ofChange_eq (w : World) (v : Event) (a : α) (chance : Chance) :
    ofChange ⟨w, .ok v⟩ a chance = { world := w, chance, events := [v], result := .ok a } := rfl

theorem ofChange_fault {change : Change} {a : α} {chance : Chance} {f : Fault}
    (h : (ofChange change a chance).result = .error f) : change.result = .error f := by
  cases hr : change.result with
  | error g => simpa [ofChange, hr, Except.map] using h
  | ok v => simp [ofChange, hr, Except.map] at h

theorem ofChange_ok {change : Change} {a b : α} {chance : Chance}
    (h : (ofChange change a chance).result = .ok b) : b = a := by
  cases hr : change.result with
  | error g => simp [ofChange, hr, Except.map] at h
  | ok v => simpa [ofChange, hr, Except.map, eq_comm] using h

theorem andThen_chance {P : Chance → Prop} {e : Episode α}
    {next : α → World → Chance → Episode β} (he : P e.chance)
    (hn : ∀ a w c, P c → P (next a w c).chance) : P (e.andThen next).chance := by
  unfold andThen
  split
  · exact he
  · exact hn _ _ _ he

theorem notices_andThen {e : Episode α} {next : α → World → Chance → Episode β}
    (he : e.notices = []) (hn : ∀ a w c, (next a w c).notices = []) :
    (e.andThen next).notices = [] := by
  unfold andThen
  split
  · exact he
  · simp [he, hn]

theorem andThen_congr {e : Episode α} {f g : α → World → Chance → Episode β}
    (h : ∀ a, e.result = .ok a → f a e.world e.chance = g a e.world e.chance) :
    e.andThen f = e.andThen g := by
  unfold andThen
  split
  · rfl
  · next a ha => rw [h a ha]

@[simp] theorem done_andThen (a : α) (w : World) (c : Chance)
    (f : α → World → Chance → Episode β) : (done a w c).andThen f = f a w c := by
  simp [andThen, done]

theorem andThen_assoc (e : Episode α) (f : α → World → Chance → Episode β)
    (g : β → World → Chance → Episode γ) :
    (e.andThen f).andThen g = e.andThen fun a w c => (f a w c).andThen g := by
  cases he : e.result with
  | error x => simp only [andThen, he]
  | ok a =>
    rw [andThen_of_ok he, andThen_of_ok he]
    unfold andThen
    dsimp only
    split <;> simp only [List.append_assoc]

theorem map_eq_andThen (f : α → β) (e : Episode α) :
    e.map f = e.andThen fun a w c => done (f a) w c := by
  unfold map andThen
  cases he : e.result <;> simp [done, Except.map]

@[simp] theorem map_id (e : Episode α) : e.map id = e := by
  obtain ⟨w, c, es, ns, r⟩ := e
  cases r <;> rfl

theorem andThen_map (e : Episode α) (f : α → World → Chance → Episode β) (g : β → γ) :
    (e.andThen f).map g = e.andThen fun a w c => (f a w c).map g := by
  simp only [map_eq_andThen, andThen_assoc]

theorem map_andThen (e : Episode α) (f : α → β) (g : β → World → Chance → Episode γ) :
    (e.map f).andThen g = e.andThen fun a => g (f a) := by
  simp only [map_eq_andThen, andThen_assoc, done_andThen]

theorem map_map (e : Episode α) (f : α → β) (g : β → γ) :
    (e.map f).map g = e.map fun a => g (f a) := by
  simp only [map_eq_andThen, andThen_assoc, done_andThen]

theorem ok_of_andThen {e : Episode α} {next : α → World → Chance → Episode β} {b : β}
    (h : (e.andThen next).result = .ok b) :
    ∃ a, e.result = .ok a ∧ (next a e.world e.chance).result = .ok b := by
  cases he : e.result with
  | error f => simp [andThen_of_error he] at h
  | ok a => exact ⟨a, rfl, by simpa [andThen_of_ok he] using h⟩

theorem ok_of_map {e : Episode α} {f : α → β} {b : β} (h : (e.map f).result = .ok b) :
    ∃ a, e.result = .ok a ∧ f a = b := by
  rw [map_eq_andThen] at h
  obtain ⟨a, ha, hb⟩ := ok_of_andThen h
  exact ⟨a, ha, Except.ok.inj hb⟩

/-- What holds of the world and the chance after the first stretch, and is kept by the second. -/
theorem andThen_keeps {P : World → Chance → Prop} {e : Episode α}
    {next : α → World → Chance → Episode β} (he : P e.world e.chance)
    (hn : ∀ a w c, P w c → P (next a w c).world (next a w c).chance) :
    P (e.andThen next).world (e.andThen next).chance := by
  unfold andThen
  split
  · exact he
  · exact hn _ _ _ he

end Vivarium.Episode
