import Vivarium.Text.Basic

/-! How the words of a text and the trimmed text go together: both begin where the text does, once
its leading white space is skipped. -/
namespace Vivarium.Text

section Chars

variable {c : Char} {cs : List Char}

theorem wordChars_cons_of_blank (hc : isBlank c = true) : wordChars (c :: cs) = wordChars cs := by
  simp [wordChars, List.splitOnP_cons_eq_if_modifyHead, hc]

theorem wordChars_cons_of_not_blank (hc : isBlank c = false) :
    ∃ w ws, wordChars (c :: cs) = (c :: w) :: ws := by
  obtain ⟨w, ws, hws⟩ := List.exists_cons_of_ne_nil (List.splitOnP_ne_nil isBlank cs)
  refine ⟨w, ws.filter (!·.isEmpty), ?_⟩
  simp [wordChars, List.splitOnP_cons_eq_if_modifyHead, hc, hws]

theorem head?_wordChars (cs : List Char) :
    (wordChars cs).head?.bind List.head? = (cs.dropWhile isBlank).head? := by
  induction cs with
  | nil => rfl
  | cons c cs ih =>
    cases hc : isBlank c with
    | true => rw [wordChars_cons_of_blank hc, List.dropWhile_cons_of_pos hc, ih]
    | false =>
      obtain ⟨w, ws, hws⟩ := @wordChars_cons_of_not_blank c cs hc
      simp [hws, hc]

theorem head?_trimChars (cs : List Char) :
    (trimChars cs).head? = (cs.dropWhile isBlank).head? := by
  cases hd : cs.dropWhile isBlank with
  | nil => simp [trimChars, hd]
  | cons c rest =>
    have hc : isBlank c = false := by
      have := List.head?_dropWhile_not isBlank cs
      simpa [hd] using this
    -- trimming the end stops at this character at the latest
    have hkeep : (rest.reverse ++ [c]).dropWhile isBlank =
        rest.reverse.dropWhile isBlank ++ [c] := by
      rw [List.dropWhile_append]
      split
      · next h =>
        rw [List.isEmpty_iff.1 h]
        exact List.dropWhile_cons_of_neg (by simp [hc])
      · rfl
    simp [trimChars, hd, hkeep]

theorem isBlank_of_mem_splitOnP {w : List Char} (hw : w ∈ cs.splitOnP isBlank) :
    ∀ c ∈ w, isBlank c = false := by
  induction cs generalizing w with
  | nil => simp_all
  | cons c cs ih =>
    rw [List.splitOnP_cons_eq_if_modifyHead] at hw
    cases hc : isBlank c with
    | true =>
      rw [if_pos hc] at hw
      rcases List.mem_cons.1 hw with rfl | hw
      · simp
      · exact ih hw
    | false =>
      obtain ⟨v, vs, hvs⟩ := List.exists_cons_of_ne_nil (List.splitOnP_ne_nil isBlank cs)
      rw [if_neg (by simp [hc]), hvs, List.modifyHead_cons] at hw
      rcases List.mem_cons.1 hw with rfl | hw
      · simpa [hc] using ih (hvs ▸ List.mem_cons_self)
      · exact ih (hvs ▸ List.mem_cons_of_mem v hw)

/-- What stands before a blank is a word, unless it is nothing. -/
theorem wordChars_append_cons {w : List Char} (hw : ∀ c ∈ w, isBlank c = false) (hne : w ≠ [])
    (hc : isBlank c = true) : wordChars (w ++ c :: cs) = w :: wordChars cs := by
  rw [wordChars, List.splitOnP_append_cons_of_forall_mem hw c hc cs,
    List.filter_cons_of_pos (by simpa using hne)]
  rfl

theorem wordChars_eq_singleton {w : List Char} (hw : ∀ c ∈ w, isBlank c = false) (hne : w ≠ []) :
    wordChars w = [w] := by
  rw [wordChars, List.splitOnP_eq_singleton hw, List.filter_cons_of_pos (by simpa using hne)]
  rfl

theorem mem_of_mem_trimChars {c : Char} {cs : List Char} (h : c ∈ trimChars cs) : c ∈ cs := by
  rw [trimChars, List.mem_reverse] at h
  have hend := (List.dropWhile_sublist isBlank).mem h
  exact (List.dropWhile_sublist isBlank).mem (List.mem_reverse.1 hend)

end Chars

theorem mem_of_mem_trim {c : Char} {s : String} (h : c ∈ (trim s).toList) : c ∈ s.toList := by
  rw [trim, String.toList_ofList] at h
  exact mem_of_mem_trimChars h

/-- There is something of a word, and none of it is white space. -/
structure IsWord (s : String) : Prop where
  ne_empty : s ≠ ""
  solid : ∀ c ∈ s.toList, isBlank c = false

theorem isWord_of_mem_words {s w : String} (h : w ∈ words s) : IsWord w := by
  obtain ⟨cs, hcs, rfl⟩ := List.mem_map.1 h
  obtain ⟨hpart, hne⟩ := List.mem_filter.1 hcs
  exact ⟨by simpa using hne, by simpa using isBlank_of_mem_splitOnP hpart⟩

/-- The words of a text put together from words are those. -/
theorem words_intercalate {ws : List String} (hws : ∀ w ∈ ws, IsWord w) :
    words (" ".intercalate ws) = ws := by
  induction ws with
  | nil => rfl
  | cons w ws ih =>
    obtain ⟨hw, hws⟩ := List.forall_mem_cons.1 hws
    have hne : w.toList ≠ [] := by simpa using hw.ne_empty
    cases ws with
    | nil => simp [words, wordChars_eq_singleton hw.solid hne]
    | cons v vs =>
      have hblank : isBlank ' ' = true := by decide
      have htext : (" ".intercalate (w :: v :: vs)).toList =
          w.toList ++ ' ' :: (" ".intercalate (v :: vs)).toList := by
        rw [String.intercalate_cons_cons, String.toList_append, String.toList_append,
          show " ".toList = [' '] from rfl, List.append_assoc, List.singleton_append]
      rw [words, htext, wordChars_append_cons hw.solid hne hblank, List.map_cons,
        String.ofList_toList]
      exact congrArg (w :: ·) (ih hws)

theorem head?_trim (s : String) :
    (trim s).toList.head? = (words s).head?.bind (·.toList.head?) := by
  have hchars := (head?_trimChars s.toList).trans (head?_wordChars s.toList).symm
  simpa [trim, words, Option.bind_map, Function.comp_def] using hchars

theorem trim_eq_empty_iff {s : String} : trim s = "" ↔ words s = [] := by
  rw [← String.toList_eq_nil_iff, ← List.head?_eq_none_iff, head?_trim]
  cases hw : words s with
  | nil => simp
  | cons w ws =>
    have hne : w ≠ "" := (isWord_of_mem_words (hw ▸ List.mem_cons_self)).ne_empty
    simpa using hne

end Vivarium.Text
