import Vivarium.Proofs.Text.Lines
import Vivarium.Text.Quoted

/-! A text in quotes stays in one line, whatever it holds: what would break the line is escaped. -/
namespace Vivarium.Text

theorem exists_digitChar_of_mem_toDigits {n : Nat} {c : Char} (h : c ∈ Nat.toDigits 16 n) :
    ∃ d < 16, c = Nat.digitChar d := by
  induction n using Nat.strongRecOn with
  | ind n ih =>
    rcases Nat.lt_or_ge n 16 with hlt | hge
    · rw [Nat.toDigits_of_lt_base hlt, List.mem_singleton] at h
      exact ⟨n, hlt, h⟩
    · rw [Nat.toDigits_of_base_le (by decide) hge, List.mem_append, List.mem_singleton] at h
      rcases h with h | rfl
      · exact ih (n / 16) (Nat.div_lt_self (by omega) (by decide)) h
      · exact ⟨n % 16, Nat.mod_lt n (by decide), rfl⟩

@[simp] theorem isLine_hex (width n : Nat) : IsLine (hex width n) := by
  have hdigits : ∀ d < 16, isBreak (Nat.digitChar d) = false := by decide
  intro c hc
  rw [hex, String.toList_ofList, List.mem_append, List.mem_replicate] at hc
  rcases hc with ⟨-, rfl⟩ | hc
  · decide
  · obtain ⟨d, hd, rfl⟩ := exists_digitChar_of_mem_toDigits hc
    exact hdigits d hd

/-- The end of a line leaves no mark on it. -/
theorem isUnseen_of_isBreak {c : Char} (h : isBreak c = true) : isUnseen c = true := by
  have hrun (run : Nat × Nat) (hrun : run ∈ unseenRuns) (hlow : run.1 ≤ c.toNat)
      (hhigh : c.toNat ≤ run.2) : isUnseen c = true :=
    List.any_eq_true.2 ⟨run, hrun, by simp [hlow, hhigh]⟩
  have hascii : (0x0, 0x1F) ∈ unseenRuns := by decide +kernel
  have hnext : (0x7F, 0xA0) ∈ unseenRuns := by decide +kernel
  have hseparators : (0x2028, 0x202F) ∈ unseenRuns := by decide +kernel
  simp only [isBreak, Bool.or_eq_true, Bool.and_eq_true, decide_eq_true_eq, beq_iff_eq] at h
  rcases h with (((h | h) | h) | h) | h
  · exact hrun _ hascii (by omega) (by omega)
  · exact hrun _ hascii (by omega) (by omega)
  · exact hrun _ hnext (by omega) (by omega)
  · exact hrun _ hseparators (by omega) (by omega)
  · exact hrun _ hseparators (by omega) (by omega)

theorem isLine_escape {quote : Char} (hquote : isBreak quote = false) (c : Char) :
    IsLine (escape quote c) := by
  fun_cases escape quote c with
  | case1 hc =>
    have hbreak : isBreak c = false := by
      rcases hc with rfl | rfl
      · exact hquote
      · decide
    have hslash : isBreak '\\' = false := by decide
    simp [IsLine, hbreak, hslash]
  | case2 => decide
  | case3 => decide
  | case4 => decide
  | case5 => exact isLine_append.2 ⟨by decide, isLine_hex 2 _⟩
  | case6 => exact isLine_append.2 ⟨by decide, isLine_hex 4 _⟩
  | case7 => exact isLine_append.2 ⟨by decide, isLine_hex 8 _⟩
  | case8 _ _ _ _ hseen =>
    have hbreak : isBreak c = false := by
      rw [← Bool.not_eq_true]
      exact fun h => hseen (isUnseen_of_isBreak h)
    simpa [IsLine] using hbreak

@[simp] theorem isLine_quoted (s : String) : IsLine (quoted s) := by
  have hquote : isBreak (quoteFor s) = false := by
    unfold quoteFor
    split <;> decide
  have hmark : IsLine (.ofList [quoteFor s]) := by simpa [IsLine] using hquote
  have hinner : IsLine (String.join (s.toList.map (escape (quoteFor s)))) := by
    intro c hc
    rw [String.toList_join, List.mem_flatMap] at hc
    obtain ⟨part, hpart, hc⟩ := hc
    obtain ⟨d, -, rfl⟩ := List.mem_map.1 hpart
    exact isLine_escape hquote d c hc
  exact isLine_append.2 ⟨isLine_append.2 ⟨hmark, hinner⟩, hmark⟩

end Vivarium.Text
