import Mathlib.Data.List.Basic
import Vivarium.Proofs.Account
import Vivarium.Proofs.Completion
import Vivarium.Proofs.Recording
import Vivarium.Proofs.Writable

/-!
What a recording holds after operations on it, between which its world goes on. A frame is known by the
capture that took it, and shows the world as it was then: later acts only add species behind those that
it knows.
-/
namespace Vivarium

namespace Recording

/-- What can be done with a recording and with its world. -/
inductive Operation
  | toggle
  | clear
  | capture (round : Int)
  | act (a : Act)

namespace Operation

def after (w : World) : Operation → World
  | act a => a.after w
  | _ => w

def apply (w : World) (r : Recording) : Operation → Except Overflow Recording
  | toggle => .ok r.toggle
  | clear => .ok r.clear
  | capture round => r.capture w round
  | act _ => .ok r

def isToggle : Operation → Bool
  | toggle => true
  | _ => false

def isClear : Operation → Bool
  | clear => true
  | _ => false

/-- Newcomers are of a species in the table, wherever they come. -/
def Listed (w : World) : Operation → Prop
  | act (.spawn species _ _) => species < w.species.length
  | _ => True

instance (w : World) : DecidablePred (Operation.Listed w)
  | toggle | clear | capture _ | act (.enrol _) | act (.turn ..) => .isTrue trivial
  | act (.spawn species _ _) => inferInstanceAs (Decidable (species < w.species.length))

end Operation

def worldAfter (w : World) (ops : List Operation) : World := ops.foldl Operation.after w

def operate : World → List Operation → Recording → Except Overflow Recording
  | _, [], r => .ok r
  | w, o :: ops, r => do operate (o.after w) ops (← o.apply w r)

/-- All newcomers are of species that are in the table when they come. -/
def Listed : World → List Operation → Prop
  | _, [] => True
  | w, o :: ops => o.Listed w ∧ Listed (o.after w) ops

instance decidableListed : (w : World) → (ops : List Operation) → Decidable (Listed w ops)
  | _, [] => .isTrue trivial
  | w, o :: ops =>
    have := decidableListed (o.after w) ops
    inferInstanceAs (Decidable (_ ∧ _))

/-- Whether a recording is on after operations; every toggle changes it. -/
def isOn (on : Bool) (ops : List Operation) : Bool :=
  on ^^ decide (ops.countP Operation.isToggle % 2 = 1)

/-- A capture that takes a frame: the number of the round, and the world as it is then. -/
structure Take where
  round : Int
  world : World

def Take.frame (t : Take) : Frame := ⟨t.round, t.world.occupancy, t.world.headings⟩

/-- What is left of an operation between those before and those after it: the frame that it takes if it
is a capture of a due round while the recording is on, unless the frames are cleared later. -/
def take? (on : Bool) (stride : Int) (w : World) (before : List Operation) (o : Operation)
    (later : List Operation) : Option Take :=
  match o with
  | .capture round =>
    if isOn on before ∧ stride ∣ round ∧ ¬ later.any Operation.isClear then
      some ⟨round, worldAfter w before⟩
    else none
  | _ => none

/-- The takes that are left after operations, in their order. -/
def takes (on : Bool) (stride : Int) (w : World) (ops : List Operation) : List Take :=
  (List.range ops.length).filterMap fun i =>
    ops[i]?.bind fun o => take? on stride w (ops.take i) o (ops.drop (i + 1))

variable {on : Bool} {stride : Int} {w : World} {r : Recording} {o : Operation}
  {ops before later : List Operation}

section Worlds

theorem worldAfter_take_drop (w : World) (ops : List Operation) (i : Nat) :
    worldAfter (worldAfter w (ops.take i)) (ops.drop i) = worldAfter w ops := by
  rw [worldAfter, worldAfter, ← List.foldl_append, List.take_append_drop, worldAfter]

theorem species_prefix_worldAfter (w : World) (ops : List Operation) :
    w.species <+: (worldAfter w ops).species := by
  induction ops generalizing w with
  | nil => exact List.prefix_rfl
  | cons o ops ih =>
    have hstep : w.species <+: (o.after w).species := by
      cases o with
      | act a => exact a.species_prefix_after w
      | _ => exact List.prefix_rfl
    exact hstep.trans (ih _)

theorem species_prefix_of_take (w : World) (ops : List Operation) (i : Nat) :
    (worldAfter w (ops.take i)).species <+: (worldAfter w ops).species := by
  have hrest := species_prefix_worldAfter (worldAfter w (ops.take i)) (ops.drop i)
  rwa [worldAfter_take_drop] at hrest

theorem size_worldAfter (w : World) (ops : List Operation) :
    (worldAfter w ops).grid.width = w.grid.width ∧
      (worldAfter w ops).grid.height = w.grid.height := by
  induction ops generalizing w with
  | nil => exact ⟨rfl, rfl⟩
  | cons o ops ih =>
    have hstep : (o.after w).grid.width = w.grid.width ∧
        (o.after w).grid.height = w.grid.height := by
      cases o with
      | act a => exact a.size_after w
      | _ => exact ⟨rfl, rfl⟩
    exact ⟨(ih _).1.trans hstep.1, (ih _).2.trans hstep.2⟩

theorem Operation.Listed.known (h : o.Listed w) (hw : w.Known) : (o.after w).Known := by
  cases o with
  | act a =>
    cases a with
    | enrol s => exact hw.enrol s
    | spawn species p heading => exact hw.spawn h p heading
    | turn me chance budget => exact hw.turn chance me budget
  | _ => exact hw

theorem Listed.known_take (h : Listed w ops) (hw : w.Known) (i : Nat) :
    (worldAfter w (ops.take i)).Known := by
  induction ops generalizing w i with
  | nil => simpa [worldAfter] using hw
  | cons o ops ih =>
    cases i with
    | zero => exact hw
    | succ i => exact ih h.2 (h.1.known hw) i

end Worlds

section Takes

theorem isOn_cons (on : Bool) (o : Operation) (ops : List Operation) :
    isOn on (o :: ops) = isOn (on ^^ o.isToggle) ops := by
  unfold isOn
  rw [List.countP_cons]
  cases o.isToggle with
  | false => simp
  | true =>
    have hparity : decide ((ops.countP Operation.isToggle + 1) % 2 = 1) =
        !decide (ops.countP Operation.isToggle % 2 = 1) := by
      rw [← decide_not, decide_eq_decide]
      omega
    simp [hparity]

/-- What an operation leaves depends on those before it only by the world and the switch. -/
theorem take?_cons (p : Operation) :
    take? on stride w (p :: before) o later =
      take? (on ^^ p.isToggle) stride (p.after w) before o later := by
  cases o with
  | capture round => simp only [take?, isOn_cons, worldAfter, List.foldl_cons]
  | _ => rfl

theorem takes_cons (on : Bool) (stride : Int) (w : World) (o : Operation) (ops : List Operation) :
    takes on stride w (o :: ops) =
      (take? on stride w [] o ops).toList ++
        takes (on ^^ o.isToggle) stride (o.after w) ops := by
  -- the places after the first are those of the later operations, moved by one
  have hlater : ((List.range ops.length).map Nat.succ).filterMap (fun i =>
      (o :: ops)[i]?.bind fun p =>
        take? on stride w ((o :: ops).take i) p ((o :: ops).drop (i + 1))) =
      takes (on ^^ o.isToggle) stride (o.after w) ops := by
    rw [List.filterMap_map]
    unfold takes
    congr 1
    funext i
    simp [take?_cons]
  rw [← hlater]
  unfold takes
  rw [List.length_cons, List.range_succ_eq_map, List.filterMap_cons]
  cases h : take? on stride w [] o ops with
  | none => simp [h]
  | some t => simp [h]

/-- What an operation leaves is cleared by a later clearing, and by nothing else. -/
theorem take?_later (later : List Operation) : take? on stride w before o later =
    if later.any Operation.isClear then none else take? on stride w before o [] := by
  cases o with
  | capture round =>
    by_cases hclear : later.any Operation.isClear <;> simp [take?, hclear]
  | _ => simp [take?]

end Takes

theorem apply_eq (hfits : ∀ c ∈ w.creatures, c.species ≤ greatestNumber) (r : Recording)
    (o : Operation) : o.apply w r = .ok ⟨r.enabled ^^ o.isToggle, r.stride,
      (if o.isClear then [] else r.frames) ++
        (take? r.enabled r.stride w [] o []).toList.map Take.frame⟩ := by
  cases o with
  | toggle => simp [Operation.apply, Operation.isToggle, Operation.isClear, take?, toggle]
  | clear => simp [Operation.apply, Operation.isToggle, Operation.isClear, take?, clear]
  | act a => simp [Operation.apply, Operation.isToggle, Operation.isClear, take?]
  | capture round =>
    have hon : isOn r.enabled [] = r.enabled := by simp [isOn]
    simp only [Operation.apply, capture_eq hfits, take?, hon, Int.dvd_iff_emod_eq_zero,
      Operation.isToggle, Operation.isClear, Bool.xor_false, List.any_nil, Bool.false_eq_true,
      not_false_eq_true, and_true, if_false]
    split <;> rfl

/-- The frames that a recording holds are those that it held, unless they are cleared, and behind them the
takes that are left, each of the world as it was then. -/
theorem operate_eq (r : Recording)
    (hfits : ∀ i, ∀ c ∈ (worldAfter w (ops.take i)).creatures, c.species ≤ greatestNumber) :
    operate w ops r = .ok ⟨isOn r.enabled ops, r.stride,
      (if ops.any Operation.isClear then [] else r.frames) ++
        (takes r.enabled r.stride w ops).map Take.frame⟩ := by
  induction ops generalizing w r with
  | nil => simp [operate, isOn, takes]
  | cons o ops ih =>
    have hfirst : ∀ c ∈ w.creatures, c.species ≤ greatestNumber := hfits 0
    have hnext : ∀ i, ∀ c ∈ (worldAfter (o.after w) (ops.take i)).creatures,
        c.species ≤ greatestNumber := fun i => hfits (i + 1)
    rw [operate, apply_eq hfirst]
    change operate _ _ _ = _
    rw [ih _ hnext, isOn_cons, takes_cons, take?_later ops]
    -- a clearing after this operation drops what was held and what is taken now, this one only the former
    cases hclear : ops.any Operation.isClear <;> cases hthis : o.isClear <;>
      simp [hclear, hthis]

theorem exists_of_mem_takes {t : Take} (h : t ∈ takes on stride w ops) :
    (∃ i, t.world = worldAfter w (ops.take i)) ∧ .capture t.round ∈ ops := by
  obtain ⟨i, -, ht⟩ := List.mem_filterMap.1 h
  obtain ⟨o, ho, ht⟩ := Option.bind_eq_some_iff.1 ht
  cases o with
  | capture round =>
    simp only [take?] at ht
    split at ht
    · obtain rfl := Option.some.inj ht
      exact ⟨⟨i, rfl⟩, List.mem_of_getElem? ho⟩
    · cases ht
  | _ => cases ht

/-- An archive that shows takes, each as its world was then, with the table of species of the world at the
end. The species that is seen in a cell has the place in this table that it had then. -/
structure Shows (a : Archive) (shown : List Take) (v : World) : Prop where
  rounds : Keyed.get? "round" a = some (.numbers .int32 [shown.length] (shown.map (·.round)))
  occupancy : Keyed.get? "occupancy" a = some (.numbers .int16
    [shown.length, v.grid.height, v.grid.width]
    (shown.flatMap fun t => t.world.occupancy.flatten.map cellNumber))
  headings : Keyed.get? "direction" a = some (.numbers .int8
    [shown.length, v.grid.height, v.grid.width]
    (shown.flatMap fun t => t.world.headings.flatten.map fun h => cellNumber (h.map (·.index))))
  sizes : ∀ t ∈ shown,
    t.world.grid.width = v.grid.width ∧ t.world.grid.height = v.grid.height
  names : v.species ≠ [] →
    Keyed.get? "species_names" a = some (.texts (v.species.map (arrayText ·.name)))
  colours : Keyed.get? "species_colors" a = some (.numbers .uint8 [v.species.length, 3]
    (v.species.flatMap (·.colour.components)))
  species : ∀ t ∈ shown, ∀ n, some n ∈ t.world.occupancy.flatten →
    ∃ s, t.world.species[n]? = some s ∧ v.species[n]? = some s

theorem table_of_archive {a : Archive} (h : r.archive w = .ok a)
    (hrounds : ∀ n ∈ r.rounds, -2147483648 ≤ n ∧ n ≤ 2147483647)
    (hcolours : ∀ s ∈ w.species, ∀ n ∈ s.colour.components, 0 ≤ n ∧ n ≤ 255) :
    (w.species ≠ [] →
      Keyed.get? "species_names" a = some (.texts (w.species.map (arrayText ·.name)))) ∧
    Keyed.get? "species_colors" a = some (.numbers .uint8 [w.species.length, 3]
      (w.species.flatMap (·.colour.components))) := by
  have hcomponents := List.forall_mem_flatMap.2 hcolours
  simp only [archive, bounded_eq_ok hrounds, bounded_eq_ok hcomponents] at h
  obtain rfl := Except.ok.inj h
  refine ⟨fun hne => ?_, rfl⟩
  simp [Keyed.get?, hne]

theorem exists_archive_of_save {d : Directory} {path : String}
    (h : (r.save w d path).2 = .ok ()) : ∃ a, r.archive w = .ok a := by
  cases hsaved : r.save w d path with
  | mk e result =>
    rw [hsaved] at h
    subst h
    obtain ⟨-, a, -, ha, -⟩ := save_eq_ok_iff.1 hsaved
    exact ⟨a, ha⟩

section Kept

variable (hknown : w.Known) (hlisted : Listed w ops)

include hknown hlisted

theorem species_lt_of_take (i : Nat) : ∀ c ∈ (worldAfter w (ops.take i)).creatures,
    c.species < (worldAfter w ops).species.length := by
  intro c hc
  obtain ⟨id, hid⟩ := List.mem_iff_getElem?.1 hc
  have hprefix := species_prefix_of_take w ops i
  exact (hlisted.known_take hknown i id c hid).trans_le hprefix.length_le

/-- What is seen in a take is of a species with the same place in the table at the end. -/
theorem species_of_take {t : Take} (ht : t ∈ takes on stride w ops) {n : Nat}
    (hn : some n ∈ t.world.occupancy.flatten) :
    ∃ s, t.world.species[n]? = some s ∧ (worldAfter w ops).species[n]? = some s := by
  obtain ⟨⟨i, hi⟩, -⟩ := exists_of_mem_takes ht
  have hprefix := species_prefix_of_take w ops i
  rw [hi] at hn ⊢
  rcases World.mem_occupancy hn with hnone | ⟨c, hc, hspecies⟩
  · cases hnone
  · obtain rfl := Option.some.inj hspecies
    obtain ⟨id, hid⟩ := List.mem_iff_getElem?.1 hc
    obtain ⟨s, hs⟩ := (hlisted.known_take hknown i).exists_species hid
    obtain ⟨hlt, hs'⟩ := List.getElem?_eq_some_iff.1 hs
    exact ⟨s, hs, hs' ▸ List.prefix_iff_getElem?.1 hprefix _ hlt⟩

end Kept

theorem size_of_take {t : Take} (ht : t ∈ takes on stride w ops) :
    t.world.grid.width = (worldAfter w ops).grid.width ∧
      t.world.grid.height = (worldAfter w ops).grid.height := by
  obtain ⟨⟨i, hi⟩, -⟩ := exists_of_mem_takes ht
  obtain ⟨hwidth, hheight⟩ := size_worldAfter w (ops.take i)
  obtain ⟨hwidth', hheight'⟩ := size_worldAfter w ops
  rw [hi, hwidth, hheight, hwidth', hheight']
  exact ⟨rfl, rfl⟩

/-- However a recording is switched and cleared while its world goes on, it can be saved at a path whose
file can be written, unless it has no frame, and its archive shows the takes that are left. -/
theorem archive_shows_takes (enabled : Bool) (stride : Int) {w : World} {ops : List Operation}
    (hknown : w.Known) (hlisted : Listed w ops)
    (hrounds : ∀ n, .capture n ∈ ops → -2147483648 ≤ n ∧ n ≤ 2147483647)
    (hfew : (worldAfter w ops).species.length < 32768)
    (hcolours : ∀ s ∈ (worldAfter w ops).species, ∀ n ∈ s.colour.components, 0 ≤ n ∧ n ≤ 255) :
    let shown := takes enabled (max 1 stride) w ops
    let v := worldAfter w ops
    ∃ r a, operate w ops (.new enabled stride) = .ok r ∧ r.frames = shown.map Take.frame ∧
      r.archive v = .ok a ∧ Shows a shown v ∧
      (shown ≠ [] → ∀ d path, Directory.Writable d (fileName path) →
        ∃ e, r.save v d path = (e, .ok ()) ∧
          e.file? (Path.components (fileName path)) = some (.arrays a)) := by
  intro shown v
  have hfits := species_lt_of_take hknown hlisted
  have hsmall : ∀ i, ∀ c ∈ (worldAfter w (ops.take i)).creatures, c.species ≤ greatestNumber := by
    intro i c hc
    have hlt := hfits i c hc
    simp only [greatestNumber]
    omega
  have hrun := operate_eq (.new enabled stride) hsmall
  obtain ⟨r, hr, hframes⟩ : ∃ r, operate w ops (.new enabled stride) = .ok r ∧
      r.frames = shown.map Take.frame := ⟨_, hrun, by simp [new, shown]⟩
  have hnumbers : r.rounds = shown.map (·.round) := by
    rw [Recording.rounds, hframes, List.map_map]
    rfl
  have hwithin : ∀ n ∈ r.rounds, -2147483648 ≤ n ∧ n ≤ 2147483647 := by
    intro n hn
    rw [hnumbers] at hn
    obtain ⟨t, ht, rfl⟩ := List.mem_map.1 hn
    exact hrounds _ (exists_of_mem_takes ht).2
  obtain ⟨a, ha, harchived⟩ := exists_archive hwithin hcolours
  obtain ⟨hnames, htints⟩ := table_of_archive ha hwithin hcolours
  have hlength : r.frames.length = shown.length := by rw [hframes, List.length_map]
  have hcells : r.frames.flatMap (·.speciesNumbers) =
      shown.flatMap fun t => t.world.occupancy.flatten.map cellNumber := by
    rw [hframes, List.flatMap_map]
    refine List.flatMap_congr fun t ht => ?_
    obtain ⟨⟨i, hi⟩, -⟩ := exists_of_mem_takes ht
    refine speciesNumbers_eq (fun c hc => ?_) t.round
    rw [hi] at hc
    exact (hfits i c hc).trans hfew
  refine ⟨r, a, hr, hframes, ha, ?_, fun _ d path hd => save_of_writable hd ha⟩
  exact {
    rounds := by rw [harchived.rounds, hlength, hnumbers]
    occupancy := by rw [harchived.occupancy, hlength, hcells]
    headings := by
      rw [harchived.headings, hlength, hframes, List.flatMap_map]
      rfl
    sizes := fun t ht => size_of_take ht
    names := hnames
    colours := htints
    species := fun t ht n hn => species_of_take hknown hlisted ht hn }

theorem archive_shows_takes_takeover :
    let still : Chance := ⟨[], [], ⟨#[], 0⟩⟩
    let w : World := ⟨.empty 2 1, [], []⟩
    let ops : List Operation := [.act (.enrol World.hopper), .act (.enrol World.infector),
      .act (.spawn 0 ⟨0, 0⟩ .east), .act (.spawn 1 ⟨1, 0⟩ .west), .toggle, .capture 0, .clear,
      .capture 1, .capture 2, .act (.enrol World.painter), .act (.turn 1 still none), .capture 3,
      .capture 4, .toggle, .capture 6]
    w.Known ∧ Listed w ops ∧
      ∃ r a, operate w ops (.new false 2) = .ok r ∧ r.archive (worldAfter w ops) = .ok a ∧
        Keyed.get? "round" a = some (.numbers .int32 [2] [2, 4]) ∧
        Keyed.get? "occupancy" a = some (.numbers .int16 [2, 1, 2] [0, 1, 1, 1]) ∧
        Keyed.get? "direction" a = some (.numbers .int8 [2, 1, 2] [1, 3, 1, 3]) ∧
        ∃ e, r.save (worldAfter w ops) ⟨[], []⟩ "duel" = (e, .ok ()) ∧
          e.file? ["duel.npz"] = some (.arrays a) := by
  intro still w ops
  have hknown : w.Known := fun id c hc => by cases hc
  have hlisted : Listed w ops := by decide
  have hrounds : ∀ n, .capture n ∈ ops → -2147483648 ≤ n ∧ n ≤ 2147483647 := by
    intro n hn
    simp only [ops, List.mem_cons, Operation.capture.injEq, reduceCtorEq, List.not_mem_nil,
      false_or, or_false] at hn
    omega
  have hname : fileName "duel" = "duel.npz" := by decide +kernel
  have hwritable : Directory.Writable ⟨[], []⟩ "duel.npz" := ⟨_, _, rfl, rfl⟩
  obtain ⟨r, a, hr, -, ha, hshows, hsaved⟩ :=
    archive_shows_takes false 2 hknown hlisted hrounds (by decide) (by decide)
  have hlength : (takes false (max 1 2) w ops).length = 2 := by decide
  have hsome : takes false (max 1 2) w ops ≠ [] := List.ne_nil_of_length_pos (by rw [hlength]; decide)
  have hrows := hshows.rounds
  have hcells := hshows.occupancy
  have hfaces := hshows.headings
  rw [hlength] at hrows hcells hfaces
  obtain ⟨e, he, hfile⟩ := hsaved hsome ⟨[], []⟩ "duel" (hname ▸ hwritable)
  rw [hname] at hfile
  exact ⟨hknown, hlisted, r, a, hr, ha, hrows.trans (by decide), hcells.trans (by decide),
    hfaces.trans (by decide), e, he, hfile⟩

/-- A colour beyond a byte keeps a recording from being saved; a creature of no species has no entry. -/
theorem gaudy_lost_stranger_unlisted :
    let gaudy : Species := { World.hopper with colour := ⟨300, 0, 0⟩ }
    let w : World := ⟨.empty 1 1, [], []⟩
    let ops : List Operation := [.act (.enrol gaudy), .act (.spawn 0 ⟨0, 0⟩ .north), .capture 1]
    let others : List Operation :=
      [.act (.enrol World.hopper), .act (.spawn 1 ⟨0, 0⟩ .north), .capture 1]
    (w.Known ∧ Listed w ops ∧ (takes true 1 w ops).map (·.round) = [1] ∧
      ∃ r, operate w ops (.new true) = .ok r ∧
        r.archive (worldAfter w ops) = .error ⟨300, "uint8"⟩ ∧
        ∀ d path, (r.save (worldAfter w ops) d path).2 ≠ .ok ()) ∧
    ∃ r a, operate w others (.new true) = .ok r ∧ r.archive (worldAfter w others) = .ok a ∧
      Keyed.get? "occupancy" a = some (.numbers .int16 [1, 1, 1] [1]) ∧
      Keyed.get? "species_colors" a = some (.numbers .uint8 [1, 3] [0, 0, 0]) := by
  intro gaudy w ops others
  constructor
  · have hknown : w.Known := fun id c hc => by cases hc
    have hlisted : Listed w ops := by decide
    have htaken : (takes true 1 w ops).map (·.round) = [1] := by decide
    let r : Recording := ⟨true, 1, [⟨1, [[some 0]], [[some .north]]⟩]⟩
    have hrun : operate w ops (.new true) = .ok r := rfl
    have harchive : r.archive (worldAfter w ops) = .error ⟨300, "uint8"⟩ := rfl
    refine ⟨hknown, hlisted, htaken, r, hrun, harchive, fun d path hsaved => ?_⟩
    obtain ⟨a, ha⟩ := exists_archive_of_save hsaved
    cases harchive.symm.trans ha
  · exact ⟨⟨true, 1, [⟨1, [[some 1]], [[some .north]]⟩]⟩, _, rfl, rfl, rfl, rfl⟩

end Recording
end Vivarium
