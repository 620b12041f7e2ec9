import Vivarium.Proofs.Analysis.Columns
import Vivarium.Proofs.Analysis.Sheet
import Vivarium.Proofs.Number.Order
import Vivarium.Proofs.Number.Sum

/-!
What the columns of a sheet are headed by: the distinct cells of the species, in the order of their
kind. They are the same however often the species are gone through.
-/
namespace Vivarium

/-- A list that goes through another one again and again. -/
def Repeats {α : Type} (ys xs : List α) : Prop := ∃ n, ys = (List.replicate (n + 1) xs).flatten

namespace Repeats

variable {α β : Type} {xs ys : List α}

theorem flatMap {γ : Type} {zs : List γ} (hne : zs ≠ []) {f : γ → List α}
    (h : ∀ z ∈ zs, f z = xs) : Repeats (zs.flatMap f) xs := by
  refine ⟨zs.length - 1, ?_⟩
  rw [Nat.sub_add_cancel (List.length_pos_iff.2 hne), List.flatMap_def, List.map_congr_left h,
    List.map_const']

variable (h : Repeats ys xs)

include h

theorem map (f : α → β) : Repeats (ys.map f) (xs.map f) := by
  obtain ⟨n, rfl⟩ := h
  exact ⟨n, by rw [List.map_flatten, List.map_replicate]⟩

theorem filter (p : α → Bool) : Repeats (ys.filter p) (xs.filter p) := by
  obtain ⟨n, rfl⟩ := h
  exact ⟨n, by rw [List.filter_flatten, List.map_replicate]⟩

theorem mem_iff {x : α} : x ∈ ys ↔ x ∈ xs := by
  obtain ⟨n, rfl⟩ := h
  simp

theorem find?_eq (p : α → Bool) : ys.find? p = xs.find? p := by
  obtain ⟨n, rfl⟩ := h
  induction n with
  | zero => simp
  | succ n ih =>
    rw [List.replicate_succ, List.flatten_cons, List.find?_append, ih, Option.or_self]

theorem all_eq (p : α → Bool) : ys.all p = xs.all p := by
  rw [Bool.eq_iff_iff, List.all_eq_true, List.all_eq_true]
  exact forall_congr' fun x => by rw [h.mem_iff]

theorem any_eq (p : α → Bool) : ys.any p = xs.any p := by
  rw [Bool.eq_iff_iff, List.any_eq_true, List.any_eq_true]
  exact exists_congr fun x => by rw [h.mem_iff]

theorem length_filter_lt_iff (p : α → Bool) :
    (ys.filter p).length < ys.length ↔ (xs.filter p).length < xs.length := by
  rw [List.length_filter_lt_length_iff_exists, List.length_filter_lt_length_iff_exists]
  exact exists_congr fun x => by rw [h.mem_iff]

end Repeats

namespace Analysis

theorem Cell.isPresent_of_amount? {c : Cell} {x : Binary64} (h : c.amount? = some x) :
    c.isPresent = true := by
  cases c with
  | missing => cases h
  | _ => rfl

namespace Kind

section Repeats

variable {ss ts : List String} (h : Repeats ts ss)

include h

theorem ofOthers_repeats : ofOthers ts = ofOthers ss := by
  simp only [ofOthers, h.all_eq]

theorem ofGreat_repeats : ofGreat ts = ofGreat ss := by simp only [ofGreat, h.all_eq]

theorem ofUnsigned_repeats (gaps : Bool) : ofUnsigned ts gaps = ofUnsigned ss gaps := by
  have hothers := h.filter (!isNegative ·)
  have hnegative := h.length_filter_lt_iff (!isNegative ·)
  simp only [ofUnsigned, (hothers.map (fit 0 unsignedEnd)).find?_eq, hothers.any_eq, hnegative,
    ofGreat_repeats h, ofOthers_repeats h]

/-- The kind of a column depends on which texts come and in which order they first do. -/
theorem ofTexts_repeats : ofTexts ts = ofTexts ss := by
  have hpresent := h.filter (!isMissing ·)
  have hgaps := h.length_filter_lt_iff (!isMissing ·)
  simp only [ofTexts, (hpresent.map (fit (-signedEnd) signedEnd)).find?_eq, hgaps,
    ofUnsigned_repeats hpresent, ofOthers_repeats hpresent]

end Repeats

section Text

variable {texts : List String} {s : String} (hs : s ∈ texts) (hplain : IsPlain s)

include hs hplain

theorem ofOthers_of_plain : ofOthers texts = .text := by
  have hdecimal : texts.all decimal.readsAs = false :=
    List.all_eq_false.2 ⟨s, hs, by simp [readsAs_decimal hplain.present, hplain.noNumber]⟩
  have htruth : texts.all truth.readsAs = false :=
    List.all_eq_false.2 ⟨s, hs, by simp [readsAs_truth hplain.present, hplain.noTruth]⟩
  simp [ofOthers, hdecimal, htruth]

theorem find?_fit_ne_none (lo hi : Int) : (texts.map (fit lo hi)).find? (· ≠ .inside) ≠ none := by
  intro hnone
  have hinside := List.find?_eq_none.1 hnone _ (List.mem_map_of_mem hs)
  simp [fit, hplain.noWhole] at hinside

variable (hgreat : Numeral.great? s = none)

include hgreat

theorem ofGreat_of_plain : ofGreat texts = .text := by
  have hcell : great.cell s = .missing := by simp [cell, hplain.present, hgreat]
  have hall : texts.all great.readsAs = false :=
    List.all_eq_false.2 ⟨s, hs, by simp [readsAs, hcell, Cell.isPresent]⟩
  simp [ofGreat, hall]

theorem isText_ofUnsigned (gaps : Bool) : (ofUnsigned texts gaps).isText = true := by
  unfold ofUnsigned
  dsimp only
  split
  · rw [ofGreat_of_plain hs hplain hgreat]
    rfl
  · rw [ofOthers_of_plain hs hplain]
    rfl
  · next hnone =>
    split
    · split
      · rfl
      · next hall =>
        -- with no minus sign anywhere the plain text is among those looked at
        simp only [Bool.or_eq_true, decide_eq_true_eq, not_or,
          List.length_filter_lt_length_iff_exists] at hall
        have hothers : texts.filter (!isNegative ·) = texts :=
          List.filter_eq_self.2 fun t ht => not_not.1 fun hneg => hall.1 ⟨t, ht, hneg⟩
        exact absurd (hothers ▸ hnone) (find?_fit_ne_none hs hplain _ _)
    · rw [ofGreat_of_plain hs hplain hgreat]
      rfl

/-- One text that is no number and no truth value makes the column one of texts. -/
theorem isText_ofTexts : (ofTexts texts).isText = true := by
  have hmem : s ∈ texts.filter (!isMissing ·) := List.mem_filter.2 ⟨hs, by simp [hplain.present]⟩
  unfold ofTexts
  dsimp only
  split
  · next hnone => exact absurd hnone (find?_fit_ne_none hmem hplain _ _)
  · exact isText_ofUnsigned hmem hplain hgreat _
  · rw [ofOthers_of_plain hmem hplain]
    rfl

end Text

theorem cell_of_isText {kind : Kind} (h : kind.isText = true) {s : String}
    (hs : kind.readsAs s = true) : kind.cell s = .text s := by
  unfold readsAs cell at hs
  unfold cell
  split_ifs at hs ⊢
  · rfl
  · cases hs
  · cases kind <;> first | rfl | cases h

theorem readsAs_of_isText {kind : Kind} (h : kind.isText = true) (s : String) :
    kind.readsAs s = decide (kind = .verbatim ∨ isMissing s = false) := by
  unfold readsAs cell
  split_ifs with hverbatim hmissing
  · simp [hverbatim, Cell.isPresent]
  · simp [hverbatim, hmissing, Cell.isPresent]
  · cases kind with
    | text => simp [hmissing, Cell.isPresent]
    | verbatim => exact absurd rfl hverbatim
    | _ => cases h

theorem exists_of_isPresent {α : Type} {o : Option α} {f : α → Cell}
    (h : (o.elim .missing f).isPresent = true) : ∃ a, o = some a ∧ o.elim .missing f = f a := by
  cases o with
  | none => cases h
  | some a => exact ⟨a, rfl, rfl⟩

/-- Every text is read as something, and no two as the same. -/
structure TellsApart (kind : Kind) (texts : List String) : Prop where
  read : ∀ s ∈ texts, kind.readsAs s = true
  nodup : (texts.map fun s => (kind.cell s).key).Nodup

theorem cell_cases {kind : Kind} {s : String} (hs : kind.readsAs s = true) :
    match kind with
    | .whole | .great => ∃ n, kind.cell s = .whole n
    | .widened | .decimal | .indicator => ∃ x, x ≠ .undefined ∧ kind.cell s = .decimal x
    | .truth => ∃ b, kind.cell s = .truth b
    | .text | .verbatim => kind.cell s = .text s := by
  by_cases htext : kind.isText = true
  · have hcell := cell_of_isText htext hs
    cases kind <;> first | exact hcell | cases htext
  · unfold readsAs cell at hs
    unfold cell
    split_ifs at hs ⊢ with hverbatim
    · exact absurd (hverbatim ▸ rfl) htext
    · cases hs
    · cases kind with
      | whole | great | truth =>
        obtain ⟨a, -, ha⟩ := exists_of_isPresent hs
        exact ⟨a, ha⟩
      | widened =>
        obtain ⟨n, -, hn⟩ := exists_of_isPresent hs
        exact ⟨_, Binary64.ofRat_ne_undefined _, hn⟩
      | decimal =>
        obtain ⟨x, hread, hx⟩ := exists_of_isPresent hs
        exact ⟨x, Numeral.ne_undefined_of_binary64? hread, hx⟩
      | indicator =>
        obtain ⟨b, -, hb⟩ := exists_of_isPresent hs
        exact ⟨_, by simp, hb⟩
      | text | verbatim => exact absurd rfl htext

/-- Whatever a kind of column holds is compared in one order. -/
theorem exists_order (kind : Kind) : ∃ (α : Type) (_ : LinearOrder α) (f : α → Cell),
    Function.Injective f ∧ (∀ a b, (f a).before (f b) = decide (a < b)) ∧
    ∀ s, kind.readsAs s = true → ∃ a, f a = (kind.cell s).key := by
  cases kind with
  | whole | great =>
    refine ⟨Int, inferInstance, .whole, fun _ _ => Cell.whole.inj, fun _ _ => rfl, fun s hs => ?_⟩
    obtain ⟨n, hn⟩ := cell_cases hs
    exact ⟨n, by rw [hn]; rfl⟩
  | widened | decimal | indicator =>
    refine ⟨WithBot (WithTop Rat), inferInstance, fun a => .decimal (.ofPlace a),
      fun a b h => Binary64.ofPlace_injective (Cell.decimal.inj h), Binary64.lt_ofPlace,
      fun s hs => ?_⟩
    obtain ⟨x, hx, hcell⟩ := cell_cases hs
    obtain ⟨a, ha⟩ := Binary64.exists_place hx
    exact ⟨a, hcell ▸ congrArg Cell.decimal ha⟩
  | truth =>
    refine ⟨Bool, inferInstance, .truth, fun _ _ => Cell.truth.inj, by decide, fun s hs => ?_⟩
    obtain ⟨b, hb⟩ := cell_cases hs
    exact ⟨b, by rw [hb]; rfl⟩
  | text | verbatim =>
    refine ⟨String, inferInstance, .text, fun _ _ => Cell.text.inj, fun _ _ => rfl, fun s hs => ?_⟩
    have hcell := cell_cases hs
    exact ⟨s, by rw [hcell]; rfl⟩

theorem isLinear_keys (kind : Kind) (texts : List String) : Ascending.IsLinear Cell.before
    (((texts.map kind.cell).filter Cell.isPresent).map Cell.key) := by
  obtain ⟨α, order, f, hf, hbefore, hrange⟩ := kind.exists_order
  refine ⟨α, order, f, hf, hbefore, ?_⟩
  simp only [List.mem_map, List.mem_filter]
  rintro - ⟨-, ⟨⟨s, -, rfl⟩, hs⟩, rfl⟩
  exact hrange s hs

end Kind

namespace Sheet

theorem keys_filter (cells : List Cell) : keys (cells.filter Cell.isPresent) = keys cells := by
  simp only [keys, List.filter_filter, Bool.and_self]

/-- Of the cells that are compared by a key the first one stands for all. -/
theorem exists_first {cells : List Cell} {k : Cell}
    (hk : k ∈ (cells.filter Cell.isPresent).map Cell.key) :
    ∃ c, (cells.filter Cell.isPresent).find? (·.key = k) = some c ∧ c ∈ cells ∧
      c.isPresent = true ∧ c.key = k := by
  obtain ⟨c, hc, rfl⟩ := List.mem_map.1 hk
  have hsome : ((cells.filter Cell.isPresent).find? (·.key = c.key)).isSome = true :=
    List.find?_isSome.2 ⟨c, hc, decide_eq_true rfl⟩
  obtain ⟨first, hfirst⟩ := Option.isSome_iff_exists.1 hsome
  obtain ⟨hmem, hpresent⟩ := List.mem_filter.1 (List.mem_of_find?_eq_some hfirst)
  have hkey := List.find?_some hfirst
  exact ⟨first, hfirst, hmem, hpresent, of_decide_eq_true hkey⟩

theorem map_key_keys (cells : List Cell) : (keys cells).map Cell.key =
    Ascending.ofList Cell.before ((cells.filter Cell.isPresent).map Cell.key) := by
  rw [keys, List.map_map]
  refine (List.map_congr_left fun k hk => ?_).trans (List.map_id' _)
  obtain ⟨c, hfind, -, -, hkey⟩ := exists_first ((Ascending.mem_ofList _ _ _).1 hk)
  rw [Function.comp_apply, hfind]
  exact hkey

theorem mem_of_mem_keys {cells : List Cell} {c : Cell} (h : c ∈ keys cells) :
    c ∈ cells ∧ c.isPresent = true := by
  obtain ⟨k, hk, rfl⟩ := List.mem_map.1 h
  obtain ⟨c, hfind, hmem, hpresent, -⟩ := exists_first ((Ascending.mem_ofList _ _ _).1 hk)
  rw [hfind]
  exact ⟨hmem, hpresent⟩

theorem exists_mem_keys {cells : List Cell} {c : Cell} (hc : c ∈ cells)
    (hpresent : c.isPresent = true) : ∃ k ∈ keys cells, k.key = c.key := by
  have hkey : c.key ∈ (keys cells).map Cell.key := by
    rw [map_key_keys, Ascending.mem_ofList]
    exact List.mem_map_of_mem (List.mem_filter.2 ⟨hc, hpresent⟩)
  exact List.mem_map.1 hkey

/-- A species in each of several rounds heads one column only. -/
theorem keys_repeats {kind : Kind} {ss ts : List String} (h : Repeats ts ss) :
    keys (ts.map kind.cell) = keys (ss.map kind.cell) := by
  have hpresent := (h.map kind.cell).filter Cell.isPresent
  have hkeys := (kind.isLinear_keys ts).ofList_eq fun c => (hpresent.map Cell.key).mem_iff
  simp only [keys, hkeys, hpresent.find?_eq]

theorem nodup_keys (kind : Kind) (texts : List String) :
    ((keys (texts.map kind.cell)).map Cell.key).Nodup := by
  rw [map_key_keys]
  exact (kind.isLinear_keys texts).nodup_ofList

theorem keys_of_isText {kind : Kind} (h : kind.isText = true) (texts : List String) :
    keys (texts.map kind.cell) =
      (Ascending.ofList (fun s t => s < t) (texts.filter kind.readsAs)).map .text := by
  have hfilter : (texts.map kind.cell).filter Cell.isPresent =
      (texts.filter kind.readsAs).map .text := by
    rw [List.filter_map]
    exact List.map_congr_left fun s hs => Kind.cell_of_isText h (List.mem_filter.1 hs).2
  rw [← keys_filter, hfilter]
  exact keys_text (Ascending.pairwise_ofList _) fun s => (Ascending.mem_ofList _ _ _).symm

section Apart

variable {kind : Kind} {texts : List String}

theorem map_key_cells : (texts.map kind.cell).map Cell.key = texts.map fun s => (kind.cell s).key :=
  List.map_map

theorem subperm_keys : ((keys (texts.map kind.cell)).map Cell.key).Subperm
    (texts.map fun s => (kind.cell s).key) := by
  refine List.subperm_of_subset (nodup_keys kind texts) ?_
  rw [← map_key_cells]
  exact List.map_subset _ fun c hc => (mem_of_mem_keys hc).1

theorem keys_perm (h : kind.TellsApart texts) :
    (keys (texts.map kind.cell)).Perm (texts.map kind.cell) := by
  have hnodup : ((texts.map kind.cell).map Cell.key).Nodup := map_key_cells ▸ h.nodup
  refine (List.perm_ext_iff_of_nodup (.of_map _ (nodup_keys kind texts)) (.of_map _ hnodup)).2 fun c =>
    ⟨fun hc => (mem_of_mem_keys hc).1, fun hc => ?_⟩
  obtain ⟨s, hs, rfl⟩ := List.mem_map.1 hc
  obtain ⟨k, hk, hkey⟩ := exists_mem_keys hc (h.read s hs)
  exact List.inj_on_of_nodup_map hnodup (mem_of_mem_keys hk).1 hc hkey ▸ hk

theorem length_keys_iff : (keys (texts.map kind.cell)).length = texts.length ↔
    kind.TellsApart texts := by
  refine ⟨fun hlength => ?_, fun h => (keys_perm h).length_eq.trans (List.length_map _)⟩
  have hperm : ((keys (texts.map kind.cell)).map Cell.key).Perm
      (texts.map fun s => (kind.cell s).key) :=
    subperm_keys.perm_of_length_le (by rw [List.length_map, List.length_map, hlength])
  refine ⟨fun s hs => ?_, hperm.nodup_iff.1 (nodup_keys kind texts)⟩
  obtain ⟨c, hc, hkey⟩ := List.mem_map.1 (hperm.mem_iff.2 (List.mem_map_of_mem hs))
  have hpresent := (mem_of_mem_keys hc).2
  unfold Kind.readsAs
  cases hs : kind.cell s with
  | missing =>
    rw [hs] at hkey
    cases c <;> first | exact hpresent | cases hkey
  | _ => rfl

end Apart

section Columns

variable {β : Type} {xs : List β} {round species cell : β → Cell}

/-- Every species that is counted in some round has a column. -/
theorem columns_ofCounts (hround : ∀ x ∈ xs, (round x).isPresent = true)
    (hcell : ∀ x ∈ xs, ∃ a, (cell x).amount? = some a ∧ a.IsAmount) :
    (ofCounts summationOf (xs.map round) (xs.map species) (xs.map cell)).columns =
      (keys (xs.map species)).map Cell.label := by
  have hplain : summationOf (xs.map cell) = .plain := summationOf_map fun x hx => by
    obtain ⟨a, ha, -⟩ := hcell x hx
    rw [ha]
    rfl
  let entries := xs.map fun y => (((round y).key, (species y).key), cell y)
  have hamounts (k : Cell × Cell) :
      ∀ b ∈ (entries.filter (·.1 = k)).filterMap (·.2.amount?), b.IsAmount := by
    intro b hb
    obtain ⟨entry, hentry, hb⟩ := List.mem_filterMap.1 hb
    obtain ⟨y, hy, rfl⟩ := List.mem_map.1 (List.mem_filter.1 hentry).1
    obtain ⟨a, ha, hamount⟩ := hcell y hy
    exact Option.some.inj (ha.symm.trans hb) ▸ hamount
  have haverage {x : β} (hx : x ∈ xs) :
      (averageAt .plain ((round x).key, (species x).key) entries).isSome = true := by
    obtain ⟨a, ha, -⟩ := hcell x hx
    have hmem : a ∈ (entries.filter (·.1 = ((round x).key, (species x).key))).filterMap
        (·.2.amount?) :=
      List.mem_filterMap.2
        ⟨_, List.mem_filter.2 ⟨List.mem_map_of_mem hx, decide_eq_true rfl⟩, ha⟩
    rw [averageAt, Average.of?_of_ne_nil (List.ne_nil_of_mem hmem),
      Average.number?_plain (hamounts _), Option.isSome_some]
  unfold ofCounts
  dsimp only
  rw [zip_keys, hplain, List.filter_eq_self.2 fun s hs => ?_]
  obtain ⟨x, hx, rfl⟩ := List.mem_map.1 (mem_of_mem_keys hs).1
  obtain ⟨r, hr, hkey⟩ := exists_mem_keys (List.mem_map_of_mem hx) (hround x hx)
  exact List.any_eq_true.2 ⟨r, hr, hkey ▸ haverage hx⟩

end Columns

end Sheet
end Analysis
end Vivarium
