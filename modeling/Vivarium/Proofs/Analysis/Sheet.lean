import Mathlib.Data.String.Basic
import Vivarium.Analysis.Sheet
import Vivarium.Proofs.Ascending
import Vivarium.Proofs.Number.Sum

/-!
Sheets of what was counted once. Where each round and species has a single count, and each round a
single account of its events, there is nothing to average.
-/
namespace Vivarium.Analysis

namespace Average

theorem of?_of_ne_nil {amounts : List Binary64} (hne : amounts ≠ []) (s : Summation) :
    of? s amounts = number? ⟨amounts, s⟩ :=
  if_neg (by simpa using hne)

theorem number?_of_ne_undefined {a : Average} (h : a.value ≠ .undefined) : a.number? = some a :=
  if_neg h

/-- Amounts that are summed plainly always have an average. -/
theorem number?_plain {amounts : List Binary64} (h : ∀ x ∈ amounts, x.IsAmount) :
    number? ⟨amounts, .plain⟩ = some ⟨amounts, .plain⟩ :=
  number?_of_ne_undefined ((Binary64.isAmount_sum h).divNat _).ne_undefined

def lone (n : Nat) : Average := ⟨[.ofRat (n : Rat)], .plain⟩

@[simp] theorem value_lone (n : Nat) : (lone n).value = .ofRat (n : Rat) :=
  Binary64.divNat_one_ofRat_natCast n

theorem of?_lone (n : Nat) : of? .plain [.ofRat (n : Rat)] = some (lone n) := by
  have hvalue : (lone n).value ≠ .undefined := by
    rw [value_lone]
    exact Binary64.ofRat_natCast_ne_undefined n
  exact (of?_of_ne_nil (List.cons_ne_nil _ _) .plain).trans (number?_of_ne_undefined hvalue)

end Average

namespace Sheet

theorem keys_of_key_eq {cells : List Cell} (hpresent : ∀ c ∈ cells, c.isPresent = true)
    (hkey : ∀ c ∈ cells, c.key = c) : keys cells = Ascending.ofList Cell.before cells := by
  have hfilter : cells.filter Cell.isPresent = cells := List.filter_eq_self.2 hpresent
  have hmap : cells.map Cell.key = cells := (List.map_congr_left hkey).trans (List.map_id' _)
  unfold keys
  dsimp only
  rw [hfilter, hmap]
  refine (List.map_congr_left fun k hk => ?_).trans (List.map_id' _)
  rw [Ascending.mem_ofList] at hk
  cases hfind : cells.find? (·.key = k) with
  | none => rfl
  | some c =>
    have hck := List.find?_some hfind
    rw [decide_eq_true_eq, hkey c (List.mem_of_find?_eq_some hfind)] at hck
    exact hck

section Keys

variable {α : Type} [LinearOrder α] [DecidableEq α] {f : α → Cell} {xs ys : List α}

/-- The keys of a column of one kind are its members in their order. -/
theorem keys_map (hf : Function.Injective f) (hpresent : ∀ x, (f x).isPresent = true)
    (hkey : ∀ x, (f x).key = f x) (hbefore : ∀ x y, (f x).before (f y) = decide (x < y))
    (hys : ys.Pairwise (· < ·)) (h : ∀ x, x ∈ xs ↔ x ∈ ys) : keys (xs.map f) = ys.map f := by
  rw [keys_of_key_eq (by simpa using fun x _ => hpresent x) (by simpa using fun x _ => hkey x),
    Ascending.ofList_map hf]
  simp only [hbefore]
  rw [Ascending.ofList_eq hys h]

end Keys

theorem keys_whole {xs ys : List Int} (hys : ys.Pairwise (· < ·)) (h : ∀ n, n ∈ xs ↔ n ∈ ys) :
    keys (xs.map Cell.whole) = ys.map Cell.whole :=
  keys_map (fun _ _ => Cell.whole.inj) (fun _ => rfl) (fun _ => rfl) (fun _ _ => rfl) hys h

theorem keys_text {xs ys : List String} (hys : ys.Pairwise (· < ·)) (h : ∀ s, s ∈ xs ↔ s ∈ ys) :
    keys (xs.map Cell.text) = ys.map Cell.text :=
  keys_map (fun _ _ => Cell.text.inj) (fun _ => rfl) (fun _ => rfl) (fun _ _ => rfl) hys h

theorem filter_key {α β : Type} [DecidableEq α] {xs : List β} {key : β → α}
    (hnodup : (xs.map key).Nodup) {x : β} (hx : x ∈ xs) : xs.filter (key · = key x) = [x] := by
  obtain ⟨as, bs, rfl⟩ := List.append_of_mem hx
  rw [List.map_append, List.map_cons, List.nodup_middle, List.nodup_cons, List.mem_append] at hnodup
  obtain ⟨has, hbs⟩ := not_or.1 hnodup.1
  have hothers {ys : List β} (hys : key x ∉ ys.map key) : ys.filter (key · = key x) = [] :=
    List.filter_eq_nil_iff.2 fun y hy =>
      mt of_decide_eq_true fun heq => hys (heq ▸ List.mem_map_of_mem hy)
  rw [List.filter_append, List.filter_cons_of_pos (by simp), hothers has, hothers hbs,
    List.nil_append]

theorem averageAt_lone {α β : Type} [DecidableEq α] {xs : List β} {key : β → α} {cell : β → Cell}
    (hnodup : (xs.map key).Nodup) {x : β} (hx : x ∈ xs) {n : Nat}
    (hcell : (cell x).amount? = some (.ofRat (n : Rat))) :
    averageAt .plain (key x) (xs.map fun y => (key y, cell y)) = some (.lone n) := by
  rw [averageAt, List.filter_map]
  simp only [Function.comp_def, filter_key hnodup hx, List.map_cons, List.map_nil,
    List.filterMap_cons, List.filterMap_nil, hcell, Average.of?_lone]

theorem firstRows_map {β : Type} (xs : List β) (session round : β → Cell) (events : β → List Cell) :
    firstRows (xs.map session) (xs.map round) (xs.map events) =
      (Keyed.firsts (xs.map fun x =>
        (((session x).key, (round x).key), round x, events x))).map Prod.snd := by
  unfold firstRows
  dsimp only
  rw [List.map_map, List.map_map, List.zip_map', List.zip_map', List.zip_map']
  rfl

theorem summationOf_map {β : Type} {xs : List β} {cell : β → Cell}
    (hcell : ∀ x ∈ xs, (cell x).amount?.isSome = true) : summationOf (xs.map cell) = .plain := by
  refine if_neg (ne_true_of_eq_false (List.any_eq_false.2 fun c hc => ?_))
  obtain ⟨x, hx, rfl⟩ := List.mem_map.1 hc
  simpa [Option.isSome_iff_ne_none] using hcell x hx

theorem zip_keys {β : Type} (xs : List β) (round species cell : β → Cell) :
    (((xs.map round).map Cell.key).zip ((xs.map species).map Cell.key)).zip (xs.map cell) =
      xs.map fun x => (((round x).key, (species x).key), cell x) := by
  rw [List.map_map, List.map_map, List.zip_map', List.zip_map']
  rfl

section Counts

variable {β γ : Type} {xs : List β} {round : β → Int} {species : β → String} {cell : β → Cell}
  {gs : List γ} {number : γ → Int} {labels : List String} {count : γ → String → Nat}

/-- Where each species has one count in each round, these are what is told. -/
theorem ofCounts_eq (hnumbers : (gs.map number).Pairwise (· < ·)) (hlabels : labels.Pairwise (· < ·))
    (hbegun : gs ≠ []) (hlabelled : labels ≠ [])
    (hmem : ∀ x ∈ xs, round x ∈ gs.map number ∧ species x ∈ labels ∧
      (cell x).amount?.isSome = true)
    (hall : ∀ g ∈ gs, ∀ l ∈ labels, ∃ x ∈ xs, round x = number g ∧ species x = l ∧
      (cell x).amount? = some (.ofRat (count g l : Rat)))
    (hnodup : (xs.map fun x => (round x, species x)).Nodup) :
    ofCounts summationOf (xs.map fun x => .whole (round x)) (xs.map fun x => .text (species x))
      (xs.map cell) =
      { rounds := gs.map fun g => .whole (number g)
        columns := labels
        values := gs.map fun g => labels.map fun l => some (.lone (count g l)) } := by
  let key (x : β) : Cell × Cell := (.whole (round x), .text (species x))
  have hentries := zip_keys xs (fun x => .whole (round x)) (fun x => .text (species x)) cell
  change _ = xs.map fun x => (key x, cell x) at hentries
  have hkeys : (xs.map key).Nodup := by
    have hinj : Function.Injective fun p : Int × String => (Cell.whole p.1, Cell.text p.2) := by
      rintro ⟨m, l⟩ ⟨m', l'⟩ h
      simpa using h
    have hmap := hnodup.map hinj
    rw [List.map_map] at hmap
    exact hmap
  let average (r s : Cell) := averageAt .plain (r.key, s.key) (xs.map fun x => (key x, cell x))
  have haverage {g : γ} (hg : g ∈ gs) {l : String} (hl : l ∈ labels) :
      average (.whole (number g)) (.text l) = some (.lone (count g l)) := by
    obtain ⟨x, hx, hround, rfl, hcell⟩ := hall g hg l hl
    rw [← hround]
    exact averageAt_lone hkeys hx hcell
  obtain ⟨g₀, hg₀⟩ := List.exists_mem_of_ne_nil gs hbegun
  obtain ⟨l₀, hl₀⟩ := List.exists_mem_of_ne_nil labels hlabelled
  have hrounds : keys (xs.map fun x => Cell.whole (round x)) =
      gs.map fun g => Cell.whole (number g) := by
    have hsame (m : Int) : m ∈ xs.map round ↔ m ∈ gs.map number := by
      refine ⟨List.forall_mem_map.2 (fun x hx => (hmem x hx).1) m,
        List.forall_mem_map.2 (fun g hg => ?_) m⟩
      obtain ⟨x, hx, hround, -⟩ := hall g hg l₀ hl₀
      exact hround ▸ List.mem_map_of_mem hx
    have hwhole := keys_whole hnumbers hsame
    rw [List.map_map, List.map_map] at hwhole
    exact hwhole
  have hspecies : keys (xs.map fun x => Cell.text (species x)) = labels.map .text := by
    have hsame (l : String) : l ∈ xs.map species ↔ l ∈ labels := by
      refine ⟨List.forall_mem_map.2 (fun x hx => (hmem x hx).2.1) l, fun hl => ?_⟩
      obtain ⟨x, hx, -, rfl, -⟩ := hall g₀ hg₀ l hl
      exact List.mem_map_of_mem hx
    have htext := keys_text hlabels hsame
    rw [List.map_map] at htext
    exact htext
  have hkept : (gs.map fun g => Cell.whole (number g)).filter (fun r =>
      (labels.map Cell.text).any fun s => (average r s).isSome) =
        gs.map fun g => Cell.whole (number g) := by
    refine List.filter_eq_self.2 (List.forall_mem_map.2 fun g hg => ?_)
    exact List.any_eq_true.2 ⟨_, List.mem_map_of_mem hl₀, by rw [haverage hg hl₀]; rfl⟩
  have hcolumns : (labels.map Cell.text).filter (fun s =>
      (gs.map fun g => Cell.whole (number g)).any fun r => (average r s).isSome) =
        labels.map .text := by
    refine List.filter_eq_self.2 (List.forall_mem_map.2 fun l hl => ?_)
    exact List.any_eq_true.2 ⟨_, List.mem_map_of_mem hg₀, by rw [haverage hg₀ hl]; rfl⟩
  have hlabel : (labels.map Cell.text).map Cell.label = labels :=
    List.map_map.trans (List.map_id _)
  have hvalues : (gs.map fun g => Cell.whole (number g)).map
      (fun r => (labels.map Cell.text).map (average r)) =
        gs.map fun g => labels.map fun l => some (.lone (count g l)) := by
    rw [List.map_map]
    refine List.map_congr_left fun g hg => ?_
    rw [Function.comp_apply, List.map_map]
    exact List.map_congr_left fun l hl => haverage hg hl
  unfold ofCounts
  dsimp only
  rw [hentries, summationOf_map fun x hx => (hmem x hx).2.2, hrounds, hspecies, hkept, hcolumns,
    hlabel, hvalues]

end Counts

section Events

variable {γ : Type} {xs : List γ}

theorem ofEvents_map (rule : List Cell → Summation) {round : γ → Cell} {events : γ → List Cell} :
    ofEvents rule (xs.map fun x => (round x, events x)) =
      { rounds := keys (xs.map round)
        columns := eventColumns
        values := (keys (xs.map round)).map fun r => (List.range eventColumns.length).map fun i =>
          averageAt (rule (xs.map fun x => Table.cellAt (events x) i)) r.key
            (xs.map fun x => ((round x).key, Table.cellAt (events x) i)) } := by
  unfold ofEvents
  simp only [List.map_map, Function.comp_def, List.zip_map']

variable {round : γ → Int} {events : γ → List Cell} {amount : γ → Nat → Nat}

/-- Where each round has one account of its events, these are what is told. -/
theorem ofEvents_eq (hrounds : (xs.map round).Pairwise (· < ·))
    (hcell : ∀ x ∈ xs, ∀ i < eventColumns.length,
      (Table.cellAt (events x) i).amount? = some (.ofRat (amount x i : Rat))) :
    ofEvents summationOf (xs.map fun x => (.whole (round x), events x)) =
      { rounds := xs.map fun x => .whole (round x)
        columns := eventColumns
        values := xs.map fun x =>
          (List.range eventColumns.length).map fun i => some (.lone (amount x i)) } := by
  let key (x : γ) : Cell := .whole (round x)
  have hkeys : (xs.map key).Nodup := by
    have hmap := hrounds.nodup.map fun _ _ => Cell.whole.inj
    rw [List.map_map] at hmap
    exact hmap
  have hallRounds : keys (xs.map key) = xs.map key := by
    have hwhole := keys_whole hrounds fun _ => Iff.rfl
    rw [List.map_map] at hwhole
    exact hwhole
  have hvalues : (xs.map key).map (fun r => (List.range eventColumns.length).map fun i =>
      averageAt (summationOf (xs.map fun x => Table.cellAt (events x) i)) r.key
        (xs.map fun x => (key x, Table.cellAt (events x) i))) =
      xs.map fun x => (List.range eventColumns.length).map fun i => some (.lone (amount x i)) := by
    rw [List.map_map]
    refine List.map_congr_left fun x hx => List.map_congr_left fun i hi => ?_
    have hcells := fun y hy => hcell y hy i (List.mem_range.1 hi)
    rw [summationOf_map fun y hy => by rw [hcells y hy]; rfl]
    exact averageAt_lone hkeys hx (hcells x hx)
  rw [ofEvents_map, hallRounds]
  exact congrArg (Sheet.mk _ (xs.map key) eventColumns) hvalues

end Events

end Sheet
end Vivarium.Analysis
