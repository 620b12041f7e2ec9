import Vivarium.Proofs.Program.Language
import Vivarium.Proofs.Turn.Stance

/-! Muted programs: instead of asking whether it is ahead of itself, a creature passes a label that
nothing refers to. Everything else, its address included, stays as it is. -/
namespace Vivarium

def Instruction.mute (name : String) : Instruction → Instruction
  | .jump .same _ => .label name
  | i => i

theorem Instruction.mute_eq_or (i : Instruction) (name : String) :
    i.mute name = i ∨ ∃ target, i = .jump .same target := by
  cases i with
  | jump condition target =>
    cases condition with
    | same => exact .inr ⟨target, rfl⟩
    | _ => exact .inl rfl
  | _ => exact .inl rfl

/-- A label of another name stands in a muted program where it stood before. -/
theorem Instruction.mute_eq_label_iff {i : Instruction} {name new : String} (h : name ≠ new) :
    i.mute new = .label name ↔ i = .label name := by
  cases i with
  | jump condition target => cases condition <;> simp [mute, h.symm]
  | _ => rfl

theorem Instruction.operand?_of_target? {i : Instruction} {name : String}
    (h : i.target? = some name) : i.operand? = some name := by
  cases i with
  | label _ => cases h
  | _ => exact h

namespace Program

/-- The program with every such question replaced, by a label with the name for its address. -/
def mute (names : Nat → String) (p : Program) : Program :=
  ⟨p.code.mapIdx fun address i => i.mute (names address)⟩

/-- None of the names stands anywhere in the program. -/
def Lacks (p : Program) (names : Nat → String) : Prop :=
  ∀ i ∈ p.code, ∀ address, i.operand? ≠ some (names address)

variable {p : Program} {names : Nat → String}

@[simp] theorem size_mute (names : Nat → String) (p : Program) : (p.mute names).size = p.size :=
  Array.size_mapIdx

@[simp] theorem wrap_mute (names : Nat → String) (p : Program) (pc : Nat) :
    (p.mute names).wrap pc = p.wrap pc := by
  simp only [wrap, size_mute]

theorem getElem?_mute (names : Nat → String) (p : Program) (address : Nat) :
    (p.mute names).code[address]? = p.code[address]?.map (·.mute (names address)) :=
  Array.getElem?_mapIdx

theorem address?_eq_some_iff_first {name : String} {address : Nat} :
    p.address? name = some address ↔ p.code[address]? = some (.label name) ∧
      ∀ earlier < address, p.code[earlier]? ≠ some (.label name) := by
  rw [address?, Array.findIdx?_eq_some_iff_getElem, Array.getElem?_eq_some_iff]
  constructor
  · rintro ⟨hlt, hhere, hfirst⟩
    refine ⟨⟨hlt, of_decide_eq_true hhere⟩, fun earlier hearlier hthere => ?_⟩
    obtain ⟨_, hlabel⟩ := Array.getElem?_eq_some_iff.1 hthere
    exact hfirst earlier hearlier (decide_eq_true hlabel)
  · rintro ⟨⟨hlt, hhere⟩, hfirst⟩
    refine ⟨hlt, decide_eq_true hhere, fun earlier hearlier hlabel => ?_⟩
    exact hfirst earlier hearlier
      (Array.getElem?_eq_some_iff.2 ⟨Nat.lt_trans hearlier hlt, of_decide_eq_true hlabel⟩)

theorem getElem?_mute_eq_label_iff {name : String} (h : ∀ address, name ≠ names address)
    (address : Nat) : (p.mute names).code[address]? = some (.label name) ↔
      p.code[address]? = some (.label name) := by
  rw [getElem?_mute]
  cases p.code[address]? with
  | none => rfl
  | some i => simpa using Instruction.mute_eq_label_iff (h address)

theorem address?_mute {name : String} (h : ∀ address, name ≠ names address) :
    (p.mute names).address? name = p.address? name := by
  refine Option.ext fun address => ?_
  simp only [address?_eq_some_iff_first, ne_eq, getElem?_mute_eq_label_iff h]

theorem Lacks.address?_mute (h : p.Lacks names) {i : Instruction} (hi : i ∈ p.code) {name : String}
    (hname : i.operand? = some name) : (p.mute names).address? name = p.address? name :=
  Program.address?_mute fun address heq => h i hi address (heq ▸ hname)

theorem WellFormed.mute (h : p.WellFormed) (hlacks : p.Lacks names)
    (hnames : Function.Injective names) : (p.mute names).WellFormed := by
  have hnew {address k : Nat} (hlabel : (p.mute names).code[address]? = some (.label (names k))) :
      address = k := by
    rw [getElem?_mute] at hlabel
    obtain ⟨i, hi, hmute⟩ := Option.map_eq_some_iff.1 hlabel
    rcases i.mute_eq_or (names address) with heq | ⟨target, rfl⟩
    · obtain rfl : i = .label (names k) := heq.symm.trans hmute
      exact absurd rfl (hlacks _ (Array.mem_of_getElem? hi) k)
    · exact hnames (Instruction.label.inj hmute)
  refine ⟨by simpa using h.nonempty, nodup_names_iff.2 fun name i j hi hj => ?_,
    fun i hi name htarget => ?_⟩
  · by_cases hname : ∃ k, name = names k
    · obtain ⟨k, rfl⟩ := hname
      rw [hnew hi, hnew hj]
    · have hold : ∀ address, name ≠ names address := fun k heq => hname ⟨k, heq⟩
      exact nodup_names_iff.1 h.nodup name i j ((getElem?_mute_eq_label_iff hold i).1 hi)
        ((getElem?_mute_eq_label_iff hold j).1 hj)
  · obtain ⟨address, haddress⟩ := Array.mem_iff_getElem?.1 hi
    rw [getElem?_mute] at haddress
    obtain ⟨i, hcode, rfl⟩ := Option.map_eq_some_iff.1 haddress
    have hmem := Array.mem_of_getElem? hcode
    rcases i.mute_eq_or (names address) with heq | ⟨target, rfl⟩
    · rw [heq] at htarget
      rw [hlacks.address?_mute hmem (Instruction.operand?_of_target? htarget)]
      exact h.defined i hmem name htarget
    · cases htarget

end Program

def Species.mute (names : Nat → String) (s : Species) : Species :=
  { s with program := s.program.mute names }

/-- The world with muted programs; the names are given by species and address. -/
def World.mute (names : Nat → Nat → String) (w : World) : World :=
  { w with species := w.species.mapIdx fun n s => s.mute (names n) }

def Change.mute (names : Nat → Nat → String) (c : Change) : Change := ⟨c.world.mute names, c.result⟩

namespace World

/-- No program has a name that is meant for it. -/
def Lacks (w : World) (names : Nat → Nat → String) : Prop :=
  ∀ (n : Nat) (s : Species), w.species[n]? = some s → s.program.Lacks (names n)

theorem Lacks.congr {names : Nat → Nat → String} {v w : World} (h : w.Lacks names)
    (hs : v.species = w.species) : v.Lacks names :=
  fun n s hn => h n s (hs ▸ hn)

variable (names : Nat → Nat → String) (w : World)

theorem getElem?_mute (n : Nat) :
    (w.mute names).species[n]? = w.species[n]?.map (·.mute (names n)) :=
  List.getElem?_mapIdx

theorem mute_addSpecies (s : Species) : ((w.mute names).addSpecies
    (s.mute (names w.species.length))).1 = (w.addSpecies s).1.mute names :=
  congrArg (World.mk w.grid · w.creatures) List.mapIdx_concat.symm

theorem mute_set (p : Pos) (o : Option Nat) :
    (w.mute names).set p o = (w.set p o).map (·.mute names) := by
  have hgrid : (w.mute names).grid = w.grid := rfl
  unfold set
  rw [hgrid]
  split <;> rfl

theorem mute_spawn (species : Nat) (p : Pos) (heading : Heading) :
    (w.mute names).spawn species p heading = (w.spawn species p heading).mute names := by
  have hgrid : (w.mute names).grid = w.grid := rfl
  by_cases hp : w.grid.Contains p
  · simp only [spawn, set, hgrid, if_pos hp, getElem?_mute]
    cases w.species[species]? <;> rfl
  · simp only [spawn, set, hgrid, if_neg hp]
    rfl

theorem mute_move (id : Nat) (target : Pos) :
    (w.mute names).move id target = (w.move id target).mute names := by
  have hcreatures : (w.mute names).creatures = w.creatures := rfl
  unfold move
  rw [hcreatures]
  cases w.creatures[id]? with
  | none => rfl
  | some c =>
    simp only [mute_set]
    cases w.set c.pos none with
    | error f => rfl
    | ok v =>
      simp only [Except.map, mute_set]
      cases v.set target (some id) <;> rfl

theorem mute_turn (id : Nat) (heading : Heading) :
    (w.mute names).turn id heading = (w.turn id heading).mute names := by
  have hcreatures : (w.mute names).creatures = w.creatures := rfl
  unfold turn
  rw [hcreatures]
  cases w.creatures[id]? <;> rfl

theorem mute_infect (id species pc : Nat) :
    (w.mute names).infect id species pc = (w.infect id species pc).mute names := by
  have hcreatures : (w.mute names).creatures = w.creatures := rfl
  unfold infect
  rw [hcreatures]
  cases w.creatures[id]? with
  | none => rfl
  | some c =>
    simp only [species_modify, getElem?_mute]
    cases w.species[species]? <;> rfl

end World
end Vivarium
