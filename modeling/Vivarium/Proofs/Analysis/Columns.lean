import Vivarium.Analysis.Table
import Vivarium.Proofs.Number.Numeral

/-!
What becomes of a column. Texts that are no number, truth value or gap stand for themselves; digits are
read as the numbers they write, in whatever kind of column they come.
-/
namespace Vivarium

theorem Numeral.isSome_binary64?_of_whole? {s : String} {n : Int} (h : whole? s = some n) :
    (binary64? s).isSome := by
  unfold whole? signedDigits? at h
  unfold binary64? ofText?
  dsimp only at h ⊢
  generalize splitSign (trim s.toList) = signed at h ⊢
  obtain ⟨negative, ds⟩ := signed
  obtain ⟨m, hm, -⟩ := Option.map_eq_some_iff.1 h
  obtain ⟨hne, hall, -⟩ := natDigits?_eq_some hm
  have htake : ds.takeWhile Char.isDigit = ds := List.takeWhile_eq_self_iff.2 hall
  have hdrop : ds.dropWhile Char.isDigit = [] := List.dropWhile_eq_nil_iff.2 hall
  simp [htake, hdrop, hne, exponent?]

namespace Analysis

theorem isMissing_eq_false {s : String} (h : IsDigits s) : isMissing s = false := by
  have hnone : ∀ t ∈ missingTexts, ¬ IsDigits t := by decide +kernel
  exact decide_eq_false fun hs => hnone s hs h

namespace Kind

section Cells

variable {s : String} (h : isMissing s = false)

include h

theorem cell_whole : whole.cell s = (Numeral.whole? s).elim .missing .whole := by
  simp [cell, h]

theorem cell_widened : widened.cell s =
    (Numeral.whole? s <|> Numeral.great? s).elim .missing fun n => .decimal (.ofRat n) := by
  simp [cell, h]

theorem cell_decimal : decimal.cell s = (Numeral.binary64? s).elim .missing .decimal := by
  simp [cell, h]

theorem cell_text : text.cell s = .text s := by simp [cell, h]

theorem readsAs_decimal : decimal.readsAs s = (Numeral.binary64? s).isSome := by
  rw [readsAs, cell_decimal h]
  cases Numeral.binary64? s <;> simp [Cell.isPresent]

theorem readsAs_truth : truth.readsAs s = (truth? s).isSome := by
  have hcell : truth.cell s = (truth? s).elim .missing .truth := by simp [cell, h]
  rw [readsAs, hcell]
  cases truth? s <;> simp [Cell.isPresent]

end Cells

section Present

variable {texts : List String} (hpresent : ∀ s ∈ texts, isMissing s = false)

include hpresent

theorem ofTexts_of_present : ofTexts texts =
    match (texts.map (fit (-signedEnd) signedEnd)).find? (· ≠ .inside) with
    | none => .whole
    | some .outside => ofUnsigned texts false
    | some _ => ofOthers texts := by
  have hfilter : texts.filter (!isMissing ·) = texts :=
    List.filter_eq_self.2 fun s hs => by simp [hpresent s hs]
  unfold ofTexts
  simp only [hfilter, Nat.lt_irrefl, decide_false]
  rfl

theorem ofOthers_of_present (htruth : ∀ s ∈ texts, truth? s = none) (hne : texts ≠ []) :
    ofOthers texts = if ∀ s ∈ texts, (Numeral.binary64? s).isSome then .decimal else .text := by
  have hdecimal : texts.all decimal.readsAs = true ↔
      ∀ s ∈ texts, (Numeral.binary64? s).isSome = true := by
    rw [List.all_eq_true]
    exact forall₂_congr fun s hs => by rw [readsAs_decimal (hpresent s hs)]
  have htruths : texts.all truth.readsAs = false := by
    obtain ⟨s, hs⟩ := List.exists_mem_of_ne_nil texts hne
    refine List.all_eq_false.2 ⟨s, hs, ?_⟩
    simp [readsAs_truth (hpresent s hs), htruth s hs]
  unfold ofOthers
  rw [htruths, if_neg Bool.false_ne_true]
  exact if_congr hdecimal rfl rfl

/-- The kind of a column without gaps and truth values, where no whole number is too great. -/
theorem ofTexts_eq (htruth : ∀ s ∈ texts, truth? s = none)
    (hsmall : ∀ s ∈ texts, ∀ n, Numeral.whole? s = some n → -signedEnd ≤ n ∧ n < signedEnd) :
    ofTexts texts =
      if ∀ s ∈ texts, (Numeral.whole? s).isSome then .whole
      else if ∀ s ∈ texts, (Numeral.binary64? s).isSome then .decimal
      else .text := by
  have hfit {s : String} (hs : s ∈ texts) : fit (-signedEnd) signedEnd s =
      if (Numeral.whole? s).isSome then .inside else .noWhole := by
    unfold fit
    cases hn : Numeral.whole? s with
    | none => rfl
    | some n => simp [hsmall s hs n hn]
  rw [ofTexts_of_present hpresent]
  cases hfind : (texts.map (fit (-signedEnd) signedEnd)).find? (· ≠ .inside) with
  | none =>
    refine (if_pos fun s hs => ?_).symm
    have hinside := List.find?_eq_none.1 hfind _ (List.mem_map_of_mem hs)
    rw [hfit hs] at hinside
    by_contra hnone
    simp [hnone] at hinside
  | some f =>
    obtain ⟨s, hs, rfl⟩ := List.mem_map.1 (List.mem_of_find?_eq_some hfind)
    have hnone : ¬ (Numeral.whole? s).isSome := fun hsome => by
      simpa [hfit hs, hsome] using List.find?_some hfind
    rw [hfit hs, if_neg hnone, if_neg fun hall => hnone (hall s hs)]
    exact ofOthers_of_present hpresent htruth (List.ne_nil_of_mem hs)

end Present

section Digits

variable {texts : List String} (hdigits : ∀ s ∈ texts, IsDigits s)

theorem fit_digits {s : String} (h : IsDigits s) {lo hi : Int} (hlo : lo ≤ 0) :
    fit lo hi s = if (Numeral.natOf s.toList : Int) < hi then .inside else .outside := by
  have hlast : s.toList.getLast?.any Numeral.isSpace = false := by
    cases hc : s.toList.getLast? with
    | none => rfl
    | some c => exact Numeral.isSpace_of_isDigit (h.isDigit c (List.mem_of_getLast? hc))
  unfold fit
  rw [h.whole?, hlast]
  dsimp only
  split_ifs <;> first | rfl | omega

theorem isNegative_digits {s : String} (h : IsDigits s) : isNegative s = false := by
  have hdrop : s.toList.dropWhile Numeral.isSpace = s.toList := by
    cases hs : s.toList with
    | nil => rfl
    | cons c cs =>
      have hc := Numeral.isSpace_of_isDigit (h.isDigit c (hs ▸ List.mem_cons_self))
      rw [List.dropWhile_cons_of_neg (by simp [hc])]
  rw [isNegative, hdrop]
  refine decide_eq_false fun hminus => ?_
  exact (Numeral.ne_sign_of_isDigit (h.isDigit _ (List.mem_of_head? hminus))).1 rfl

include hdigits

theorem find?_fit_digits {lo hi : Int} (hlo : lo ≤ 0) :
    (texts.map (fit lo hi)).find? (· ≠ .inside) =
      if ∀ s ∈ texts, (Numeral.natOf s.toList : Int) < hi then none else some .outside := by
  split_ifs with hall
  · simp only [List.find?_eq_none, List.forall_mem_map]
    intro s hs
    simp [fit_digits (hdigits s hs) hlo, hall s hs]
  · cases hfind : (texts.map (fit lo hi)).find? (· ≠ .inside) with
    | none =>
      refine absurd (fun s hs => ?_) hall
      by_contra hgreat
      have hinside := List.find?_eq_none.1 hfind _ (List.mem_map_of_mem hs)
      simp [fit_digits (hdigits s hs) hlo, hgreat] at hinside
    | some f =>
      obtain ⟨s, hs, rfl⟩ := List.mem_map.1 (List.mem_of_find?_eq_some hfind)
      have hne := List.find?_some hfind
      rw [fit_digits (hdigits s hs) hlo] at hne ⊢
      split_ifs at hne ⊢ with hsmall
      · simp at hne
      · rfl

theorem ofUnsigned_digits (hgreat : ∃ s ∈ texts, signedEnd ≤ Numeral.natOf s.toList) :
    ofUnsigned texts false =
      if ∀ s ∈ texts, (Numeral.natOf s.toList : Int) < unsignedEnd then .whole
      else ofGreat texts := by
  have hothers : texts.filter (!isNegative ·) = texts :=
    List.filter_eq_self.2 fun s hs => by simp [isNegative_digits (hdigits s hs)]
  have hany : (texts.any fun s => (Numeral.whole? s).any (signedEnd ≤ ·)) = true := by
    obtain ⟨s, hs, hle⟩ := hgreat
    exact List.any_eq_true.2 ⟨s, hs, by simp [(hdigits s hs).whole?, hle]⟩
  unfold ofUnsigned
  simp only [hothers, find?_fit_digits hdigits (Int.le_refl 0), hany, Nat.lt_irrefl, decide_false,
    Bool.or_false, if_true, Bool.false_eq_true, if_false]
  split_ifs <;> rfl

/-- A column of digits holds whole numbers; if 64 bits do not hold all of them, they may be great ones
or be left as texts. -/
theorem ofTexts_digits :
    ofTexts texts = .whole ∨ (∃ s ∈ texts, unsignedEnd ≤ Numeral.natOf s.toList) ∧
      (ofTexts texts = .great ∨ ofTexts texts = .text) := by
  rw [ofTexts_of_present fun s hs => isMissing_eq_false (hdigits s hs),
    find?_fit_digits hdigits (by decide)]
  split_ifs with hsigned
  · exact .inl rfl
  · simp only [not_forall, Int.not_lt] at hsigned
    obtain ⟨s, hs, hle⟩ := hsigned
    dsimp only
    rw [ofUnsigned_digits hdigits ⟨s, hs, hle⟩]
    split_ifs with hunsigned
    · exact .inl rfl
    · simp only [not_forall, Int.not_lt] at hunsigned
      obtain ⟨t, ht, hle⟩ := hunsigned
      refine .inr ⟨⟨t, ht, hle⟩, ?_⟩
      unfold ofGreat
      split_ifs <;> simp

end Digits

end Kind

section Numeric

variable {texts : List String} (hdigits : ∀ s ∈ texts, IsDigits s) {name : String}
  (hname : name ∈ Table.numericNames)

include hdigits hname

theorem Table.kindOf_digits : Table.kindOf name texts = .whole ∨
    (∃ s ∈ texts, Kind.unsignedEnd ≤ Numeral.natOf s.toList) ∧
      (Table.kindOf name texts = .widened ∨ Table.kindOf name texts = .decimal) := by
  have hgaps : texts.any isMissing = false := by
    refine List.any_eq_false.2 fun s hs => ?_
    simp [isMissing_eq_false (hdigits s hs)]
  rw [Table.kindOf, if_pos hname, hgaps]
  rcases Kind.ofTexts_digits hdigits with hwhole | ⟨hgreat, hkind | hkind⟩
  · exact .inl (by rw [hwhole]; rfl)
  · exact .inr ⟨hgreat, .inl (by rw [hkind]; rfl)⟩
  · exact .inr ⟨hgreat, .inr (by rw [hkind]; rfl)⟩

theorem Table.amount?_digits {s : String} (hs : s ∈ texts) :
    ((Table.kindOf name texts).cell s).amount? =
      some (.ofRat (Numeral.natOf s.toList : Nat)) := by
  have h := hdigits s hs
  have hpresent := isMissing_eq_false h
  rcases Table.kindOf_digits hdigits hname with hkind | ⟨-, hkind | hkind⟩ <;> rw [hkind]
  · rw [Kind.cell_whole hpresent, h.whole?]
    rfl
  · rw [Kind.cell_widened hpresent, h.whole?]
    rfl
  · rw [Kind.cell_decimal hpresent, h.binary64?]
    rfl

theorem Table.cell_digits (hsmall : ∀ s ∈ texts, (Numeral.natOf s.toList : Int) < Kind.unsignedEnd)
    {s : String} (hs : s ∈ texts) :
    (Table.kindOf name texts).cell s = .whole (Numeral.natOf s.toList) := by
  rcases Table.kindOf_digits hdigits hname with hkind | ⟨⟨t, ht, hgreat⟩, -⟩
  · rw [hkind, Kind.cell_whole (isMissing_eq_false (hdigits s hs)), (hdigits s hs).whole?]
    rfl
  · exact absurd (hsmall t ht) (Int.not_lt.2 hgreat)

end Numeric

/-- A text that stands for itself in a table: without a null character, no gap, no number and no truth
value. -/
structure IsPlain (s : String) : Prop where
  noNull : '\x00' ∉ s.toList
  present : isMissing s = false
  noNumber : Numeral.binary64? s = none
  noTruth : truth? s = none

instance : DecidablePred IsPlain := fun s =>
  decidable_of_iff ('\x00' ∉ s.toList ∧ isMissing s = false ∧ Numeral.binary64? s = none ∧
    truth? s = none) ⟨fun ⟨a, b, c, d⟩ => ⟨a, b, c, d⟩, fun ⟨a, b, c, d⟩ => ⟨a, b, c, d⟩⟩

theorem IsPlain.noWhole {s : String} (h : IsPlain s) : Numeral.whole? s = none := by
  by_contra hsome
  obtain ⟨n, hn⟩ := Option.ne_none_iff_exists'.1 hsome
  simpa [h.noNumber] using Numeral.isSome_binary64?_of_whole? hn

theorem Table.cell_plain {texts : List String} (hplain : ∀ s ∈ texts, IsPlain s) {name : String}
    (hname : name ∉ Table.numericNames) {s : String} (hs : s ∈ texts) :
    (Table.kindOf name texts).cell s = .text s := by
  have hwhole {t : String} (ht : t ∈ texts) : Numeral.whole? t = none := (hplain t ht).noWhole
  have hkind : Table.kindOf name texts = .text := by
    rw [Table.kindOf, if_neg hname, Kind.ofTexts_eq (fun t ht => (hplain t ht).present)
      (fun t ht => (hplain t ht).noTruth) (fun t ht n hn => by cases (hwhole ht).symm.trans hn),
      if_neg fun hall => by simpa [hwhole hs] using hall s hs,
      if_neg fun hall => by simpa [(hplain s hs).noNumber] using hall s hs]
  rw [hkind, Kind.cell_text (hplain s hs).present]

end Analysis
end Vivarium
