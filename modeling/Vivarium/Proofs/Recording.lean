import Vivarium.Keyed
import Vivarium.Recording
import Vivarium.Setting

/-! What a recording can take of a world, and what its archive holds. -/
namespace Vivarium

namespace Colour

theorem exists_ofNumber {s : String} {c : Colour} (h : ofText? s = some c) : ∃ n, c = ofNumber n := by
  have hhex {digits : List Char} (h : ofHex? digits = some c) : ∃ n, c = ofNumber n := by
    obtain ⟨values, -, hvalues⟩ := Option.bind_eq_some_iff.1 h
    split at hvalues
    · exact ⟨_, (Option.some.inj hvalues).symm⟩
    · cases hvalues
  simp only [ofText?, Option.orElse_eq_orElse, Option.orElse_eq_or, Option.or_eq_some_iff] at h
  generalize Text.trimChars s.toList = cs at h
  rcases h with hhexed | ⟨-, hname⟩
  · split at hhexed
    · exact hhex hhexed
    · exact hhex hhexed
    · cases hhexed
  · obtain ⟨n, -, hn⟩ := Option.map_eq_some_iff.1 hname
    exact ⟨n, hn.symm⟩

theorem component_bounds {s : String} {c : Colour} (h : ofText? s = some c) :
    ∀ n ∈ c.components, 0 ≤ n ∧ n ≤ 255 := by
  obtain ⟨n, rfl⟩ := exists_ofNumber h
  simp only [components, ofNumber, List.forall_mem_cons, List.not_mem_nil, false_implies,
    implies_true, and_true]
  omega

end Colour

theorem World.mem_occupancy {w : World} {o : Option Nat} (h : o ∈ w.occupancy.flatten) :
    o = none ∨ ∃ c ∈ w.creatures, o = some c.species := by
  obtain ⟨row, hrow, ho⟩ := List.mem_flatten.1 h
  obtain ⟨y, -, rfl⟩ := List.mem_map.1 hrow
  obtain ⟨x, -, rfl⟩ := List.mem_map.1 ho
  cases hid : w.grid.occupant? ⟨x, y⟩ with
  | none => exact .inl rfl
  | some id =>
    cases hc : w.creatures[id]? with
    | none => exact .inl (by simp [hc])
    | some c => exact .inr ⟨c, List.mem_of_getElem? hc, by simp [hc]⟩

/-- The species in the cells of a frame, row after row, in numbers of 16 bits. -/
def Frame.speciesNumbers (f : Frame) : List Int :=
  f.occupancy.flatten.map fun o => (Recording.cellNumber o).bmod 65536

def Frame.headingNumbers (f : Frame) : List Int :=
  f.headings.flatten.map fun h => Recording.cellNumber (h.map (·.index))

namespace Recording

variable {r : Recording} {w : World}

theorem occupancy_eq (hfits : ∀ c ∈ w.creatures, c.species ≤ greatestNumber) :
    occupancy w = .ok w.occupancy := by
  unfold occupancy
  split
  · next n hn =>
    obtain ⟨o, ho, hlarge⟩ := List.exists_of_findSome?_eq_some hn
    rcases World.mem_occupancy ho with rfl | ⟨c, hc, rfl⟩
    · cases hlarge
    · obtain ⟨hspecies, hlt⟩ := Option.filter_eq_some_iff.1 hlarge
      have hle := hfits c hc
      obtain rfl := Option.some.inj hspecies
      exact absurd (of_decide_eq_true hlt) (by omega)
  · rfl

theorem capture_eq (hfits : ∀ c ∈ w.creatures, c.species ≤ greatestNumber) (r : Recording)
    (round : Int) : r.capture w round = .ok { r with
      frames := r.frames ++ if r.enabled ∧ round % r.stride = 0 then
        [⟨round, w.occupancy, w.headings⟩] else [] } := by
  unfold capture
  split
  · rw [occupancy_eq hfits]
    rfl
  · rw [List.append_nil]

theorem capture_due (hon : r.enabled) (hstride : r.stride = 1)
    (hfits : ∀ c ∈ w.creatures, c.species ≤ greatestNumber) (round : Int) :
    r.capture w round =
      .ok { r with frames := r.frames ++ [⟨round, w.occupancy, w.headings⟩] } := by
  rw [capture_eq hfits, if_pos ⟨hon, by rw [hstride, Int.emod_one]⟩]

/-- The archive of a recording has its frames one after another in each of three arrays. -/
structure Archived (r : Recording) (w : World) (a : Archive) : Prop where
  rounds : Keyed.get? "round" a = some (.numbers .int32 [r.frames.length] r.rounds)
  occupancy : Keyed.get? "occupancy" a = some (.numbers .int16
    [r.frames.length, w.grid.height, w.grid.width] (r.frames.flatMap (·.speciesNumbers)))
  headings : Keyed.get? "direction" a = some (.numbers .int8
    [r.frames.length, w.grid.height, w.grid.width] (r.frames.flatMap (·.headingNumbers)))

theorem bounded_eq_ok {kind : NumberKind} {name : String} {lo hi : Int} {shape : List Nat}
    {items : List Int} (h : ∀ n ∈ items, lo ≤ n ∧ n ≤ hi) :
    bounded kind name lo hi shape items = .ok (.numbers kind shape items) := by
  have hnone : items.find? (fun n => n < lo ∨ hi < n) = none :=
    List.find?_eq_none.2 fun n hn => by
      have hbounds := h n hn
      simp only [decide_eq_true_eq]
      omega
  rw [bounded, hnone]

theorem exists_archive (hrounds : ∀ n ∈ r.rounds, -2147483648 ≤ n ∧ n ≤ 2147483647)
    (hcolours : ∀ s ∈ w.species, ∀ n ∈ s.colour.components, 0 ≤ n ∧ n ≤ 255) :
    ∃ a, r.archive w = .ok a ∧ r.Archived w a := by
  have hcomponents := List.forall_mem_flatMap.2 hcolours
  simp only [archive, bounded_eq_ok hrounds, bounded_eq_ok hcomponents]
  refine ⟨_, rfl, rfl, ?_, rfl⟩
  simp [Keyed.get?, List.map_flatMap, Frame.speciesNumbers, Function.comp_def]

/-- There is no archive with the frame of a round whose number is too great for 32 bits. -/
theorem archive_overflow (hlarge : ∃ n ∈ r.rounds, 2147483647 < n) (w : World) :
    ∃ o, r.archive w = .error o := by
  obtain ⟨n, hn, hlt⟩ := hlarge
  have hsome : (r.rounds.find? fun n => n < -2147483648 ∨ 2147483647 < n).isSome = true :=
    List.find?_isSome.2 ⟨n, hn, decide_eq_true (.inr hlt)⟩
  obtain ⟨m, hm⟩ := Option.isSome_iff_exists.1 hsome
  refine ⟨⟨m, "int32"⟩, ?_⟩
  simp only [archive, bounded, hm]
  rfl

/-- Species have their own numbers in a frame as long as there are not too many of them for 16 bits. -/
theorem speciesNumbers_eq (hfew : ∀ c ∈ w.creatures, c.species < 32768) (round : Int) :
    Frame.speciesNumbers ⟨round, w.occupancy, w.headings⟩ =
      w.occupancy.flatten.map cellNumber := by
  refine List.map_congr_left fun o ho => ?_
  rcases World.mem_occupancy ho with rfl | ⟨c, hc, rfl⟩
  · rfl
  · have hlt := hfew c hc
    simp only [cellNumber, Int.bmod_def]
    omega

example : Frame.speciesNumbers ⟨1, [[some 40000]], [[some .east]]⟩ = [-25536] := by decide

end Recording
end Vivarium
