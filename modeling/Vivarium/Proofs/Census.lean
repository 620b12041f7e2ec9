import Mathlib.Algebra.Ring.Nat
import Mathlib.Data.List.NodupEquivFin
import Vivarium.Census
import Vivarium.Proofs.Keyed
import Vivarium.Proofs.World.Known
import Vivarium.Proofs.World.Sound

/-!
What the census tells. A species that has its name to itself keeps it as its label, even if it is
the very name that another species gets with its place; of two species with one label the census
forgets the one that comes first.
-/
namespace Vivarium

namespace Census

/-- No digit is a number sign, so what follows the last one is the place. -/
theorem takeWhile_suffixed (name : String) (place : Nat) :
    s!"{name}#{place}".toList.reverse.takeWhile (· ≠ '#') = (Nat.toDigits 10 place).reverse := by
  have hdigits : ∀ c ∈ (Nat.toDigits 10 place).reverse, decide (c ≠ '#') = true := by
    intro c hc
    have hdigit := Nat.isDigit_of_mem_toDigits (by decide) (by decide) (List.mem_reverse.1 hc)
    refine decide_eq_true ?_
    rintro rfl
    cases hdigit
  have hchars : s!"{name}#{place}".toList = name.toList ++ '#' :: Nat.toDigits 10 place := by
    simp [String.toList_append, toString, Nat.toList_repr]
  rw [hchars, List.reverse_append, List.reverse_cons, List.append_assoc,
    List.takeWhile_append_of_pos hdigits]
  simp

theorem place_inj {m n : String} {i j : Nat} (h : s!"{m}#{i}" = s!"{n}#{j}") : i = j := by
  have hdigits : Nat.toDigits 10 i = Nat.toDigits 10 j := by
    rw [← List.reverse_inj, ← takeWhile_suffixed m i, ← takeWhile_suffixed n j, h]
  have hread := congrArg (Nat.ofDigitChars 10 · 0) hdigits
  simpa only [Nat.ofDigitChars_toDigits (by decide : 1 < 10) (by decide)] using hread

theorem getElem?_labels (names : List String) (i : Nat) : (labels names)[i]? =
    names[i]?.map fun name => if names.count name = 1 then name else s!"{name}#{i}" := by
  simp only [labels, List.getElem?_map, List.getElem?_zipIdx, Option.map_map, Nat.zero_add]
  rfl

theorem place_unique {names : List String} {name : String} {i j : Nat} (h : names.count name = 1)
    (hi : names[i]? = some name) (hj : names[j]? = some name) : i = j := by
  have hnot (k l : Nat) (hk : names[k]? = some name) (hl : names[l]? = some name) : ¬ k < l := by
    intro hlt
    obtain ⟨hk, hkname⟩ := List.getElem?_eq_some_iff.1 hk
    obtain ⟨hl, hlname⟩ := List.getElem?_eq_some_iff.1 hl
    have htwice := List.duplicate_iff_two_le_count.1 (List.duplicate_iff_exists_distinct_get.2
      ⟨⟨k, hk⟩, ⟨l, hl⟩, hlt, hkname.symm, hlname.symm⟩)
    omega
  exact Nat.le_antisymm (Nat.not_lt.1 (hnot j i hj hi)) (Nat.not_lt.1 (hnot i j hi hj))

/-- The species in place `i` shares its name; with its place, this name is the one that the species
in place `j` has to itself. -/
def Clash (names : List String) (i j : Nat) : Prop :=
  ∃ name ∈ names[i]?, names.count name ≠ 1 ∧
    names[j]? = some s!"{name}#{i}" ∧ names.count s!"{name}#{i}" = 1

instance (names : List String) (i j : Nat) : Decidable (Clash names i j) :=
  inferInstanceAs (Decidable (∃ name ∈ names[i]?, _))

variable {names : List String} {i j : Nat}

theorem Clash.ne (h : Clash names i j) : i ≠ j := by
  rintro rfl
  obtain ⟨name, hi, hshared, hj, hown⟩ := h
  have hname : name = s!"{name}#{i}" := Option.some.inj (hi.symm.trans hj)
  exact hshared (hname ▸ hown)

theorem Clash.lt_left (h : Clash names i j) : i < names.length := by
  obtain ⟨name, hi, -⟩ := h
  exact (List.getElem?_eq_some_iff.1 hi).1

theorem Clash.lt_right (h : Clash names i j) : j < names.length := by
  obtain ⟨name, -, -, hj, -⟩ := h
  exact (List.getElem?_eq_some_iff.1 hj).1

theorem Clash.label (h : Clash names i j) : (labels names)[i]? = (labels names)[j]? := by
  obtain ⟨name, hi, hshared, hj, hown⟩ := h
  rw [getElem?_labels, getElem?_labels, hi, hj, Option.map_some, Option.map_some, if_neg hshared,
    if_pos hown]

/-- Two species have one label just when they clash. -/
theorem label_eq_iff (hi : i < names.length) : (labels names)[i]? = (labels names)[j]? ↔
    i = j ∨ Clash names i j ∨ Clash names j i := by
  constructor
  · intro h
    obtain ⟨m, hm⟩ : ∃ m, names[i]? = some m := ⟨_, List.getElem?_eq_getElem hi⟩
    rw [getElem?_labels, getElem?_labels, hm, Option.map_some] at h
    obtain ⟨n, hn, hlabel⟩ := Option.map_eq_some_iff.1 h.symm
    by_cases hmown : names.count m = 1 <;> by_cases hnown : names.count n = 1 <;>
      simp only [hmown, hnown, if_true, if_false] at hlabel
    · subst hlabel
      exact .inl (place_unique hmown hm hn)
    · subst hlabel
      exact .inr (.inr ⟨n, hn, hnown, hm, hmown⟩)
    · subst hlabel
      exact .inr (.inl ⟨m, hm, hmown, hn, hnown⟩)
    · exact .inl (place_inj hlabel).symm
  · rintro (rfl | h | h)
    · rfl
    · exact h.label
    · exact h.label.symm

theorem length_labels (names : List String) : (labels names).length = names.length := by
  simp [labels]

theorem nodup_labels_iff : (labels names).Nodup ↔ ∀ i j, ¬ Clash names i j := by
  rw [List.nodup_iff_getElem?_ne_getElem?, length_labels]
  constructor
  · intro h i j hclash
    rcases Nat.lt_or_gt_of_ne hclash.ne with hlt | hlt
    · exact h i j hlt hclash.lt_right hclash.label
    · exact h j i hlt hclash.lt_left hclash.label.symm
  · intro h i j hlt hj heq
    rcases (label_eq_iff (Nat.lt_trans hlt hj)).1 heq with rfl | hclash | hclash
    · exact Nat.lt_irrefl i hlt
    · exact h i j hclash
    · exact h j i hclash

/-- A later species has the same label, so that the census tells of that one. -/
def Replaced (names : List String) (i : Nat) : Prop :=
  ∃ j < names.length, i < j ∧ (Clash names i j ∨ Clash names j i)

instance (names : List String) : DecidablePred (Replaced names) := fun _ =>
  inferInstanceAs (Decidable (∃ j < names.length, _))

end Census

namespace World

variable {w : World}

theorem known_of_reachable (h : w.Reachable Act.Placed) : w.Known :=
  h.invariant (fun width height _ _ id c hc => by simp at hc) fun v a hv ha => hv.act ha

theorem Sound.known (h : w.Sound) : w.Known := by
  intro id c hc
  obtain ⟨-, s, hs, -⟩ := h.fits id c hc
  exact (List.getElem?_eq_some_iff.1 hs).1

theorem sum_population (w : World) (n : Nat) :
    ((List.range n).map w.population).sum = w.creatures.countP (·.species < n) := by
  induction n with
  | zero => simp
  | succ n ih =>
    have hsplit : w.creatures.countP (·.species < n + 1) =
        w.creatures.countP (·.species < n) + w.population n := by
      unfold population
      induction w.creatures with
      | nil => rfl
      | cons c cs ih =>
        simp only [List.countP_cons, decide_eq_true_eq, ih]
        split_ifs <;> omega
    rw [List.range_succ, List.map_append, List.sum_append, ih, hsplit]
    simp

def names (w : World) : List String := w.species.map (·.name)

/-- What the census is told of a species. -/
def entry (w : World) (i : Nat) : String × Nat := (w.labels.getD i "", w.population i)

theorem length_labels (w : World) : w.labels.length = w.species.length := by
  rw [labels, Census.length_labels, List.length_map]

theorem getElem?_labels {i : Nat} (hi : i < w.species.length) :
    w.labels[i]? = some (w.entry i).1 := by
  rw [← w.length_labels] at hi
  simp [entry, hi]

theorem label_eq_iff {i j : Nat} (hi : i < w.species.length) (hj : j < w.species.length) :
    (w.entry i).1 = (w.entry j).1 ↔
      i = j ∨ Census.Clash w.names i j ∨ Census.Clash w.names j i := by
  have hname : i < w.names.length := by simpa [names] using hi
  have hiff : w.labels[i]? = w.labels[j]? ↔ _ := Census.label_eq_iff hname
  rwa [getElem?_labels hi, getElem?_labels hj, Option.some_inj] at hiff

theorem zip_eq_map_entry (w : World) :
    w.labels.zip ((List.range w.species.length).map w.population) =
      (List.range w.species.length).map w.entry := by
  have hlabels : w.labels = (List.range w.species.length).map (w.labels.getD · "") := by
    refine List.ext_getElem (by simp [length_labels]) fun i hi _ => ?_
    simp [hi]
  conv_lhs => rw [hlabels]
  exact List.zip_map' ..

theorem census_eq (h : w.Known) : w.census =
    .ok (Keyed.ofList (w.labels.zip ((List.range w.species.length).map w.population))) := by
  refine if_pos (List.all_eq_true.2 fun c hc => decide_eq_true ?_)
  obtain ⟨id, hid⟩ := List.mem_iff_getElem?.1 hc
  exact h id c hid

/-- The census tells of those species that no later one replaces. -/
theorem entries_perm (w : World) :
    (Keyed.ofList (w.labels.zip ((List.range w.species.length).map w.population))).Perm
      (((List.range w.species.length).filter fun i => ¬ Census.Replaced w.names i).map
        w.entry) := by
  rw [zip_eq_map_entry]
  refine (Keyed.ofList_perm_lasts _).trans (.of_eq ?_)
  rw [List.range_eq_range', Keyed.lasts_map_range']
  refine congrArg (List.map w.entry) (List.filter_congr fun i hi => ?_)
  have hi : i < w.species.length := by simpa using hi
  have hlater (j : Nat) : (j < 0 + w.species.length → i < j → (w.entry j).1 ≠ (w.entry i).1) ↔
      ¬ (j < w.names.length ∧ i < j ∧
        (Census.Clash w.names i j ∨ Census.Clash w.names j i)) := by
    rw [names, List.length_map, Nat.zero_add, not_and, not_and]
    refine forall₂_congr fun hj hlt => not_congr ?_
    rw [eq_comm, label_eq_iff hi hj]
    exact or_iff_right (Nat.ne_of_lt hlt)
  exact decide_eq_decide.2 ((forall_congr' hlater).trans not_exists.symm)

/-- The labels are distinct unless two species clash. Of two that do, the census tells of the later
one, so that it misses as many species as are replaced, and the creatures of these. -/
theorem census_tells {w : World} (h : w.Reachable Act.Placed) :
    let all := List.range w.species.length
    (w.labels.Nodup ↔ ∀ i j, ¬ Census.Clash w.names i j) ∧
    ∃ entries, w.census = .ok entries ∧ (Keyed.keys entries).Nodup ∧
      (∀ label n, (label, n) ∈ entries ↔
        ∃ i, w.labels[i]? = some label ∧ w.population i = n ∧ ¬ Census.Replaced w.names i) ∧
      entries.length + all.countP (Census.Replaced w.names) = w.species.length ∧
      (entries.map (·.2)).sum +
        ((all.filter (Census.Replaced w.names)).map w.population).sum = w.creatures.length ∧
      (w.labels.Nodup → entries = w.labels.zip (all.map w.population) ∧
        (entries.map (·.2)).sum = w.creatures.length) := by
  intro all
  have hknown := known_of_reachable h
  have hall : (all.map w.population).sum = w.creatures.length := by
    rw [sum_population, List.countP_eq_length]
    intro c hc
    obtain ⟨id, hid⟩ := List.mem_iff_getElem?.1 hc
    exact decide_eq_true (hknown id c hid)
  have hperm := w.entries_perm
  refine ⟨Census.nodup_labels_iff, _, census_eq hknown, Keyed.nodup_ofList _, fun label n => ?_,
    ?_, ?_, fun hnodup => ?_⟩
  · rw [hperm.mem_iff, List.mem_map]
    constructor
    · rintro ⟨i, hi, hentry⟩
      obtain ⟨hrange, hkept⟩ := List.mem_filter.1 hi
      refine ⟨i, ?_, congrArg Prod.snd hentry, of_decide_eq_true hkept⟩
      rw [getElem?_labels (List.mem_range.1 hrange), hentry]
    · rintro ⟨i, hlabel, rfl, hkept⟩
      have hi : i < w.species.length :=
        w.length_labels ▸ (List.getElem?_eq_some_iff.1 hlabel).1
      rw [getElem?_labels hi] at hlabel
      exact ⟨i, List.mem_filter.2 ⟨List.mem_range.2 hi, decide_eq_true hkept⟩,
        Prod.ext (Option.some.inj hlabel) rfl⟩
  · have hsplit := List.length_eq_countP_add_countP (Census.Replaced w.names ·) (l := all)
    rw [List.length_range] at hsplit
    rw [hperm.length_eq, List.length_map, ← List.countP_eq_length_filter, Nat.add_comm]
    simpa [all] using hsplit.symm
  · have hsplit := ((List.filter_append_perm (Census.Replaced w.names ·) all).map
      w.population).sum_nat
    have hkept := (hperm.map Prod.snd).sum_nat
    rw [hkept, ← hall, ← hsplit, List.map_append, List.sum_append, List.map_map, Nat.add_comm]
    simp [all, Function.comp_def, entry]
  · have hlength : (all.map w.population).length = w.labels.length := by
      rw [List.length_map, List.length_range, length_labels]
    have hkeys : Keyed.keys (w.labels.zip (all.map w.population)) = w.labels :=
      List.map_fst_zip hlength.ge
    have hdistinct : (Keyed.keys (w.labels.zip (all.map w.population))).Nodup := by rwa [hkeys]
    have hself := Keyed.ofList_eq_self hdistinct
    refine ⟨hself, ?_⟩
    rw [hself, List.map_snd_zip hlength.le, hall]

theorem census_tells_ants :
    let ant : Species := ⟨"Ant", ⟨255, 0, 0⟩, ⟨#[.hop]⟩⟩
    let w := (Act.spawn 1 ⟨2, 1⟩ .south).after <| (Act.spawn 0 ⟨1, 0⟩ .east).after <|
      (Act.spawn 0 ⟨0, 0⟩ .north).after <| (Act.enrol ant).after <|
      (Act.enrol ⟨"Bee", ⟨0, 255, 0⟩, ⟨#[.left]⟩⟩).after <| (Act.enrol ant).after
        ⟨.empty 3 2, [], []⟩
    w.Reachable Act.Placed ∧ w.census = .ok [("Ant#0", 2), ("Bee", 1), ("Ant#2", 0)] ∧
      w.creatures.length = 3 := by
  intro ant w
  have hw : w.Reachable Act.Placed :=
    ⟨3, 2, ⟨.empty 3 2, [], []⟩, _, rfl, .act (.act (.act (.act (.act (.act .start ⟨⟩) ⟨⟩) ⟨⟩)
      ⟨by decide, by decide⟩) ⟨by decide, by decide⟩) ⟨by decide, by decide⟩⟩
  have htold : w.labels.zip ((List.range w.species.length).map w.population) =
      [("Ant#0", 2), ("Bee", 1), ("Ant#2", 0)] := by decide +kernel
  obtain ⟨-, entries, hcensus, -, -, -, -, hdistinct⟩ := census_tells hw
  obtain ⟨hentries, hsum⟩ := hdistinct (by decide +kernel)
  rw [hentries.trans htold] at hcensus hsum
  exact ⟨hw, hcensus, hsum.symm⟩

/-- One species is named as another is labelled: the census tells of two where there are three. -/
theorem census_loses_namesake :
    let w := (Act.spawn 2 ⟨2, 0⟩ .east).after <| (Act.spawn 1 ⟨1, 0⟩ .east).after <|
      (Act.spawn 0 ⟨0, 0⟩ .east).after <| (Act.enrol ⟨"A#0", ⟨0, 0, 0⟩, ⟨#[.right]⟩⟩).after <|
      (Act.enrol ⟨"A", ⟨0, 0, 0⟩, ⟨#[.left]⟩⟩).after <|
      (Act.enrol ⟨"A", ⟨0, 0, 0⟩, ⟨#[.hop]⟩⟩).after ⟨.empty 3 1, [], []⟩
    w.Reachable Act.Lawful ∧ ¬ w.labels.Nodup ∧ w.species.length = 3 ∧ w.creatures.length = 3 ∧
      w.census = .ok [("A#0", 1), ("A#1", 1)] := by
  intro w
  have hfirst : Species.ofSource "A\nhop" ⟨0, 0, 0⟩ = .ok ⟨"A", ⟨0, 0, 0⟩, ⟨#[.hop]⟩⟩ := by rfl
  have hsecond : Species.ofSource "A\nleft" ⟨0, 0, 0⟩ = .ok ⟨"A", ⟨0, 0, 0⟩, ⟨#[.left]⟩⟩ := by rfl
  have hthird : Species.ofSource "A#0\nright" ⟨0, 0, 0⟩ =
      .ok ⟨"A#0", ⟨0, 0, 0⟩, ⟨#[.right]⟩⟩ := by rfl
  refine ⟨⟨3, 1, ⟨.empty 3 1, [], []⟩, _, rfl, .act (.act (.act (.act (.act (.act .start
    ⟨_, _, hfirst⟩) ⟨_, _, hsecond⟩) ⟨_, _, hthird⟩) ⟨by decide, by decide⟩)
    ⟨by decide, by decide⟩) ⟨by decide, by decide⟩⟩, ?_⟩
  decide +kernel

end World
end Vivarium
