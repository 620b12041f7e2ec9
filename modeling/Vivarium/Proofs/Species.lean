import Mathlib.Data.List.Basic
import Vivarium.Proofs.Text.Lines
import Vivarium.Species

/-! A species is the same whether its source is handed over as a text or found in a file, in whatever
newline style the file was written. -/
namespace Vivarium

namespace Program

theorem parse_congr {s t : String} (h : Text.lines s = Text.lines t) : parse s = parse t := by
  simp only [parse, h]

theorem parse_foldNewlines (s : String) : parse (Text.foldNewlines s) = parse s :=
  parse_congr (Text.lines_foldNewlines s)

end Program

namespace Species

variable {d : Directory} {path text : String}

theorem readText_of_read (h : d.read path = .ok text.toUTF8) :
    d.readText path = .ok (Text.foldNewlines text) := by
  simp only [Directory.readText, h, Text.decode_toUTF8]

theorem ofSource_foldNewlines (text : String) (colour : Colour) :
    ofSource (Text.foldNewlines text) colour = ofSource text colour := by
  simp only [ofSource, Program.parse_foldNewlines]

theorem ofSource_eq_error_iff {colour : Colour} {e : SpeciesError} :
    ofSource text colour = .error e ↔ ∃ f, Program.parse text = .error f ∧ e = .malformed f := by
  unfold ofSource
  cases Program.parse text <;> simp [eq_comm]

/-- A file that can be read and holds a text gives what the text gives: the same species, or the same
error of syntax, with its line or its addresses. -/
theorem load_eq_ofSource (h : d.read path = .ok text.toUTF8) (colour : Colour) :
    load d path colour = ofSource text colour ∧
      ∀ e, load d path colour = .error e ↔ ∃ f, Program.parse text = .error f ∧ e = .malformed f := by
  have hload : load d path colour = ofSource text colour := by
    simp only [load, readText_of_read h, ofSource_foldNewlines]
  exact ⟨hload, fun e => by rw [hload, ofSource_eq_error_iff]⟩

/-- Six kinds of line end, two of which are made of the same characters as a third. -/
theorem load_eq_ofSource_newlines :
    let text := "Mixer\r\n\rgo:\x0bhop\u2028\n\rjmp go\u0085"
    let d : Directory := ⟨[(["mixer.txt"], .bytes text.toUTF8)], []⟩
    d.read "mixer.txt" = .ok text.toUTF8 ∧ Text.foldNewlines text ≠ text ∧
      load d "mixer.txt" ⟨1, 2, 3⟩ = ofSource text ⟨1, 2, 3⟩ ∧
      load d "mixer.txt" ⟨1, 2, 3⟩ = .error (.malformed (.line 7 (.unknownInstruction "jmp"))) := by
  intro text d
  have hread : d.read "mixer.txt" = .ok text.toUTF8 := rfl
  have hparse : Program.parse text = .error (.line 7 (.unknownInstruction "jmp")) := by
    decide +kernel
  obtain ⟨hload, herror⟩ := load_eq_ofSource hread ⟨1, 2, 3⟩
  exact ⟨hread, by decide +kernel, hload, (herror _).2 ⟨_, hparse, rfl⟩⟩

end Species
end Vivarium
