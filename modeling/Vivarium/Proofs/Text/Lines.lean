import Vivarium.Proofs.Text.Words
import Vivarium.Text.Basic

/-! Texts that are put together from lines: cut at its breaks, such a text falls into these. -/
namespace Vivarium.Text

/-- A text that stays in one line. -/
def IsLine (s : String) : Prop := ∀ c ∈ s.toList, isBreak c = false

instance : DecidablePred IsLine := fun s => List.decidableBAll _ s.toList

@[simp] theorem isLine_append {s t : String} : IsLine (s ++ t) ↔ IsLine s ∧ IsLine t := by
  simp only [IsLine, String.toList_append, List.forall_mem_append]

theorem IsLine.trim {s : String} (h : IsLine s) : IsLine (trim s) :=
  fun c hc => h c (mem_of_mem_trim hc)

theorem IsLine.intercalate {sep : String} {ls : List String} (hsep : IsLine sep)
    (hls : ∀ l ∈ ls, IsLine l) : IsLine (sep.intercalate ls) := by
  induction ls with
  | nil => simp [IsLine]
  | cons l ls ih =>
    obtain ⟨hl, hls⟩ := List.forall_mem_cons.1 hls
    cases ls with
    | nil => simpa using hl
    | cons m ls =>
      rw [String.intercalate_cons_cons]
      exact isLine_append.2 ⟨isLine_append.2 ⟨hl, hsep⟩, ih hls⟩

theorem IsWord.isLine {w : String} (h : IsWord w) : IsLine w := by
  intro c hc
  have hsolid := h.solid c hc
  simp only [isBlank, isBreak, Bool.or_eq_false_iff, Bool.and_eq_false_iff,
    decide_eq_false_iff_not, beq_eq_false_iff_ne] at hsolid ⊢
  omega

@[simp] theorem isLine_toString (n : Nat) : IsLine (toString n) := by
  intro c hc
  rw [Nat.toString_eq_repr, Nat.toList_repr] at hc
  have hdigit : c.isDigit = true := Nat.isDigit_of_mem_toDigits (by decide) (by decide) hc
  simp only [Char.isDigit, Bool.and_eq_true, decide_eq_true_eq, ge_iff_le, UInt32.le_iff_toNat_le,
    Char.reduceVal, UInt32.reduceToNat] at hdigit
  simp only [isBreak, Char.toNat, Bool.or_eq_false_iff, Bool.and_eq_false_iff,
    decide_eq_false_iff_not, beq_eq_false_iff_ne]
  omega

@[simp] theorem isLine_toString_int (n : Int) : IsLine (toString n) := by
  cases n with
  | ofNat n => exact isLine_toString n
  | negSucc n => exact isLine_append.2 ⟨by decide, isLine_toString (n + 1)⟩

theorem IsLine.padLeft {s : String} (hs : IsLine s) (width : Nat) : IsLine (padLeft width s) := by
  refine isLine_append.2 ⟨fun c hc => ?_, hs⟩
  obtain rfl := List.eq_of_mem_replicate (String.toList_ofList ▸ hc)
  decide

section Chars

variable {l cs : List Char}

theorem isBreak_of_mem_lineChars (hl : l ∈ lineChars cs) : ∀ c ∈ l, isBreak c = false := by
  fun_induction lineChars cs generalizing l with
  | case1 => simp at hl
  | case2 cs ih =>
    rcases List.mem_cons.1 hl with rfl | hl
    · simp
    · exact ih hl
  | case3 c cs _ hc ih =>
    rcases List.mem_cons.1 hl with rfl | hl
    · simp
    · exact ih hl
  | case4 c cs _ hc hrest ih =>
    obtain rfl := List.mem_singleton.1 hl
    simpa using hc
  | case5 c cs _ hc m ms hrest ih =>
    rcases List.mem_cons.1 hl with rfl | hl
    · simpa [hc] using ih (hrest ▸ List.mem_cons_self)
    · exact ih (hrest ▸ List.mem_cons_of_mem m hl)

theorem lineChars_cons {c : Char} (hc : isBreak c = false) : lineChars (c :: cs) =
    match lineChars cs with
    | [] => [[c]]
    | l :: ls => (c :: l) :: ls := by
  have hlone : ∀ rest, c = '\r' → cs = '\n' :: rest → False := by
    rintro _ rfl
    exact absurd hc (by decide)
  exact (lineChars.eq_3 c cs hlone).trans (if_neg (by simp [hc]))

theorem lineChars_append_cons (hl : ∀ c ∈ l, isBreak c = false) (cs : List Char) :
    lineChars (l ++ '\n' :: cs) = l :: lineChars cs := by
  induction l with
  | nil => simp [lineChars, show isBreak '\n' = true by decide]
  | cons c l ih =>
    obtain ⟨hc, hl⟩ := List.forall_mem_cons.1 hl
    rw [List.cons_append, lineChars_cons hc, ih hl]

theorem lineChars_eq_singleton (hl : ∀ c ∈ l, isBreak c = false) (hne : l ≠ []) :
    lineChars l = [l] := by
  induction l with
  | nil => exact absurd rfl hne
  | cons c l ih =>
    obtain ⟨hc, hl⟩ := List.forall_mem_cons.1 hl
    rw [lineChars_cons hc]
    cases l with
    | nil => rfl
    | cons d l => rw [ih hl (List.cons_ne_nil d l)]

end Chars

theorem lines_eq_nil_iff {s : String} : lines s = [] ↔ s = "" := by
  rw [lines, List.map_eq_nil_iff, ← String.toList_eq_nil_iff]
  fun_cases lineChars s.toList <;> simp_all

/-- Folding every newline style into one moves no break. -/
theorem lineChars_foldNewlineChars (cs : List Char) :
    lineChars (foldNewlineChars cs) = lineChars cs := by
  fun_induction foldNewlineChars cs with
  | case1 => rfl
  | case2 cs ih =>
    rw [lineChars.eq_2, ← ih]
    rfl
  | case3 c cs hlone ih =>
    rw [lineChars.eq_3 c cs hlone, ← ih]
    split
    · next hc =>
      subst hc
      rfl
    · next hc => exact lineChars.eq_3 c _ fun _ h => absurd h hc

theorem lines_foldNewlines (s : String) : lines (foldNewlines s) = lines s := by
  rw [lines, foldNewlines, String.toList_ofList, lineChars_foldNewlineChars, lines]

theorem isLine_of_mem_lines {s line : String} (h : line ∈ lines s) : IsLine line := by
  obtain ⟨l, hl, rfl⟩ := List.mem_map.1 h
  simpa [IsLine] using isBreak_of_mem_lineChars hl

/-- The lines of a text put together from lines are those. An empty one at the end is lost, as there
is nothing after the last break. -/
theorem lines_intercalate {ls : List String} (hls : ∀ l ∈ ls, IsLine l)
    (hlast : ls.getLast? ≠ some "") : lines ("\n".intercalate ls) = ls := by
  induction ls with
  | nil => rfl
  | cons l ls ih =>
    obtain ⟨hl, hls⟩ := List.forall_mem_cons.1 hls
    cases ls with
    | nil =>
      have hne : l.toList ≠ [] := by simpa using hlast
      simp [lines, lineChars_eq_singleton hl hne]
    | cons m ls =>
      have hrest := ih hls (by simpa [List.getLast?_cons_cons] using hlast)
      have htext : ("\n".intercalate (l :: m :: ls)).toList =
          l.toList ++ '\n' :: ("\n".intercalate (m :: ls)).toList := by
        rw [String.intercalate_cons_cons, String.toList_append, String.toList_append,
          show "\n".toList = ['\n'] from rfl, List.append_assoc, List.singleton_append]
      rw [lines, htext, lineChars_append_cons hl, List.map_cons, String.ofList_toList]
      exact congrArg (l :: ·) hrest

end Vivarium.Text
