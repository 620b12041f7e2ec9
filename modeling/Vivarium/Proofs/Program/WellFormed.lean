import Vivarium.Species

/-! Whatever is read from a source is well formed: no label is left open, none is doubled. -/
namespace Vivarium.Program

theorem duplicate?_eq_none_iff {seen labels : List (String × Nat)} :
    duplicate? seen labels = none ↔
      (labels.map Prod.fst).Nodup ∧ ∀ e ∈ labels, seen.lookup e.1 = none := by
  induction labels generalizing seen with
  | nil => simp [duplicate?]
  | cons e rest ih =>
    obtain ⟨name, address⟩ := e
    cases hseen : seen.lookup name with
    | some first =>
      simp only [duplicate?, hseen, reduceCtorEq, false_iff, not_and]
      intro _ hall
      simpa [hseen] using hall (name, address) List.mem_cons_self
    | none =>
      simp only [duplicate?, hseen, ih, List.lookup_cons, List.map_cons, List.nodup_cons,
        List.forall_mem_cons, List.mem_map]
      constructor
      · rintro ⟨hnodup, hall⟩
        refine ⟨⟨?_, hnodup⟩, trivial, fun e he => ?_⟩
        · rintro ⟨e, he, rfl⟩
          simpa using hall e he
        · have := hall e he
          split at this
          · cases this
          · exact this
      · rintro ⟨⟨hnot, hnodup⟩, -, hall⟩
        refine ⟨hnodup, fun e he => ?_⟩
        have hne : (e.1 == name) = false := by
          simp only [beq_eq_false_iff_ne]
          exact fun h => hnot ⟨e, he, h⟩
        simpa [hne] using hall e he

theorem undefined?_eq_none_iff {p : Program} :
    p.undefined? = none ↔
      ∀ i ∈ p.code, ∀ name, i.target? = some name → (p.address? name).isSome := by
  simp only [undefined?, List.findSome?_eq_none_iff, Prod.forall, List.mk_mem_zipIdx_iff_getElem?]
  constructor
  · intro h i hi name ht
    obtain ⟨k, hk⟩ := List.mem_iff_getElem?.1 (Array.mem_toList_iff.2 hi)
    have hik := h i k hk
    simp only [ht] at hik
    split at hik
    · assumption
    · cases hik
  · intro h i k hk
    have hi := Array.mem_toList_iff.1 (List.mem_of_getElem? hk)
    cases ht : i.target? with
    | none => rfl
    | some name => simp [h i hi name ht]

/-- The check lets through the well-formed programs, and those unchanged. -/
theorem check_eq_ok_iff {p q : Program} (hp : 0 < p.size) :
    check p = .ok q ↔ p = q ∧ p.WellFormed := by
  unfold check
  cases hd : duplicate? [] p.labels with
  | some d =>
    have hno : ¬ p.WellFormed := fun h => by
      have := duplicate?_eq_none_iff.2 ⟨h.nodup, fun _ _ => List.lookup_nil⟩
      simp [hd] at this
    simp [hno]
  | none =>
    have hnodup := (duplicate?_eq_none_iff.1 hd).1
    cases hu : p.undefined? with
    | some u =>
      have hno : ¬ p.WellFormed := fun h => by
        have := undefined?_eq_none_iff.2 h.defined
        simp [hu] at this
      simp [hno]
    | none =>
      have hwf : p.WellFormed := ⟨hp, hnodup, undefined?_eq_none_iff.1 hu⟩
      simp [hwf]

theorem parse_eq_ok_iff_ofLines {source name : String} {p : Program} :
    parse source = .ok (name, p) ↔ ∃ rest, Text.lines source = name :: rest ∧
      Instruction.ofLines 2 rest = .ok p.code.toList ∧ p.WellFormed := by
  constructor
  · intro h
    unfold parse at h
    split at h
    · cases h
    · next first rest hlines =>
      split at h
      · cases h
      · cases h
      · next i is hread =>
        cases hc : check ⟨(i :: is).toArray⟩ with
        | error e => simp [hc, Except.map] at h
        | ok q =>
          simp only [hc, Except.map, Except.ok.injEq, Prod.mk.injEq] at h
          obtain ⟨rfl, rfl⟩ := h
          obtain ⟨rfl, hwf⟩ := (check_eq_ok_iff (by simp [size])).1 hc
          exact ⟨rest, hlines, hread, hwf⟩
  · rintro ⟨rest, hlines, hread, hwf⟩
    have hcheck : check p = .ok p := (check_eq_ok_iff hwf.nonempty).2 ⟨rfl, hwf⟩
    obtain ⟨⟨code⟩⟩ := p
    cases code with
    | nil => exact absurd hwf.nonempty (Nat.lt_irrefl 0)
    | cons i is => simp [parse, hlines, hread, hcheck, Except.map]

theorem parse_wellFormed {source name : String} {p : Program}
    (h : parse source = .ok (name, p)) : p.WellFormed := by
  obtain ⟨rest, -, -, hwf⟩ := parse_eq_ok_iff_ofLines.1 h
  exact hwf

end Vivarium.Program

namespace Vivarium.Species

theorem ofSource_wellFormed {source : String} {colour : Colour} {s : Species}
    (h : ofSource source colour = .ok s) : s.program.WellFormed := by
  unfold ofSource at h
  cases hp : Program.parse source with
  | error e => simp [hp] at h
  | ok parsed =>
    obtain ⟨name, p⟩ := parsed
    simp only [hp, Except.ok.injEq] at h
    subst h
    exact Program.parse_wellFormed hp

end Vivarium.Species
