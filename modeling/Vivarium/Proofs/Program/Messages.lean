import Vivarium.Proofs.Program.Faults
import Vivarium.Proofs.Program.Listing

/-! What is said of a source that is not read takes one line: it shows words, lines and the name of the
source, none of which holds a break. -/
namespace Vivarium

open Text (IsLine isLine_append)

namespace Instruction

variable {line : String} {i : Instruction}

theorem isLine_of_mem_words (hi : Text.words line = i.words) {w : String} (hw : w ∈ i.words) :
    IsLine w :=
  (Text.isWord_of_mem_words (hi ▸ hw)).isLine

theorem isLine_name {name : String} (hi : Text.words line = (label name).words) : IsLine name :=
  (isLine_append.1 (isLine_of_mem_words hi List.mem_cons_self)).1

theorem target_mem_words {target : String} (h : i.target? = some target) : target ∈ i.words := by
  cases i with
  | infect entry =>
    obtain rfl : entry = some target := h
    simp [words]
  | jump condition name =>
    obtain rfl := Option.some.inj h
    cases condition <;> simp [words]
  | _ => cases h

section Faults

variable {head : String} {rest : List String} {fault : LineFault}

/-- What is said of a line whose operation has not the words beside it that it takes. -/
theorem fault_of_ofOperands {op : Opcode} (h : ofOperands head op rest = .error fault) :
    fault = .bareLabel ∨ fault = .needsLabel head ∨ fault = .takesNoLabel head := by
  cases op with
  | label =>
    obtain rfl := Except.error.inj h
    exact .inl rfl
  | jump condition =>
    rcases rest with _ | ⟨target, _ | ⟨word, rest⟩⟩
    · obtain rfl := Except.error.inj h
      exact .inr (.inl rfl)
    · cases h
    · obtain rfl := Except.error.inj h
      exact .inr (.inl rfl)
  | infect => rcases rest with _ | ⟨entry, _ | ⟨word, rest⟩⟩ <;> cases h
  | hop | left | right =>
    cases rest with
    | nil => cases h
    | cons word rest =>
      obtain rfl := Except.error.inj h
      exact .inr (.inr rfl)

theorem isLine_ofWords (hline : IsLine line) (hhead : IsLine head)
    (h : ofWords line head rest = .error fault) : IsLine fault.message := by
  unfold ofWords at h
  cases hname : labelName? head with
  | some name =>
    simp only [hname] at h
    split at h
    · obtain rfl := Except.error.inj h
      decide
    · split at h
      · obtain rfl := Except.error.inj h
        exact isLine_append.2 ⟨isLine_append.2 ⟨by decide, hhead⟩, by decide⟩
      · cases h
  | none =>
    simp only [hname] at h
    split at h
    · obtain rfl := Except.error.inj h
      exact isLine_append.2 ⟨isLine_append.2 ⟨by decide, hline⟩, by decide⟩
    · cases hop : Opcode.ofToken? head with
      | none =>
        simp only [hop, Except.error.injEq] at h
        subst h
        exact isLine_append.2 ⟨isLine_append.2 ⟨by decide, hhead⟩, by decide⟩
      | some op =>
        simp only [hop] at h
        rcases fault_of_ofOperands h with rfl | rfl | rfl
        · decide
        · exact isLine_append.2 ⟨isLine_append.2 ⟨by decide, hhead⟩, by decide⟩
        · exact isLine_append.2 ⟨isLine_append.2 ⟨by decide, hhead⟩, by decide⟩

theorem isLine_ofLine (hline : IsLine line) (h : ofLine line = .error fault) :
    IsLine fault.message := by
  unfold ofLine at h
  cases hwords : Text.words line with
  | nil => simp [hwords] at h
  | cons head rest =>
    have hhead : IsLine head := (Text.isWord_of_mem_words (hwords ▸ List.mem_cons_self)).isLine
    simp only [hwords] at h
    split at h
    · cases h
    · cases hread : ofWords (Text.trim line) head rest with
      | error found =>
        simp only [hread, Except.map, Except.error.injEq] at h
        exact h ▸ isLine_ofWords hline.trim hhead hread
      | ok i => simp [hread, Except.map] at h

end Faults

end Instruction

namespace Program

theorem isLine_check {code : List Instruction} {e : SyntaxError}
    (hcode : ∀ i ∈ code, ∃ line, Text.words line = i.words) (h : check ⟨code.toArray⟩ = .error e) :
    IsLine e.message := by
  rcases check_eq_error h with ⟨name, first, second, rfl, hagain⟩ |
    ⟨address, i, target, rfl, -, hastray⟩
  · obtain ⟨line, hline⟩ := hcode _ (List.mem_of_getElem? hagain.at_first)
    have hname : IsLine name := Instruction.isLine_name hline
    simp only [SyntaxError.message, isLine_append]
    exact ⟨⟨⟨⟨⟨⟨by decide, hname⟩, by decide⟩, Text.isLine_toString first⟩, by decide⟩,
      Text.isLine_toString second⟩, by decide⟩
  · obtain ⟨line, hline⟩ := hcode i (List.mem_of_getElem? hastray.here)
    have htext : IsLine i.text := Instruction.isLine_text hline
    have htarget : IsLine target :=
      Instruction.isLine_of_mem_words hline (Instruction.target_mem_words hastray.names)
    simp only [SyntaxError.message, isLine_append]
    exact ⟨⟨⟨⟨⟨⟨by decide, Text.isLine_toString address⟩, by decide⟩, htext⟩, by decide⟩, htarget⟩,
      by decide⟩

theorem isLine_of_parse_eq_error {source : String} {e : SyntaxError} (h : parse source = .error e) :
    IsLine e.message := by
  cases hlines : Text.lines source with
  | nil =>
    simp only [parse, hlines, Except.error.injEq] at h
    exact h ▸ by decide
  | cons name rest =>
    have hall : ∀ line ∈ name :: rest, IsLine line := fun line hline =>
      Text.isLine_of_mem_lines (hlines ▸ hline)
    cases hread : Instruction.ofLines 2 rest with
    | error f =>
      obtain rfl := Except.error.inj ((parse_of_ofLines_eq_error hlines hread).symm.trans h)
      obtain ⟨k, line, fault, hk, hfault, -, rfl⟩ := Instruction.ofLines_eq_error_iff.1 hread
      have hmessage : IsLine fault.message :=
        Instruction.isLine_ofLine (hall line (List.mem_cons_of_mem _ (List.mem_of_getElem? hk))) hfault
      simp only [SyntaxError.message, isLine_append]
      exact ⟨⟨⟨by decide, Text.isLine_toString _⟩, by decide⟩, hmessage⟩
    | ok code =>
      obtain ⟨hcode, -⟩ := Instruction.ofLines_eq_ok_iff.1 hread
      have hwritten : ∀ i ∈ code, ∃ line, Text.words line = i.words := by
        intro i hi
        have hwords := List.mem_map_of_mem (f := Instruction.words) hi
        rw [← hcode] at hwords
        obtain ⟨line, -, hline⟩ := List.mem_map.1 hwords
        exact ⟨line, hline⟩
      cases code with
      | nil =>
        simp only [parse, hlines, hread, Except.error.injEq] at h
        subst h
        have hname : IsLine name := hall name List.mem_cons_self
        exact isLine_append.2 ⟨isLine_append.2 ⟨by decide, hname⟩, by decide⟩
      | cons i is =>
        cases hcheck : check ⟨(i :: is).toArray⟩ with
        | ok p => simp [parse, hlines, hread, hcheck, Except.map] at h
        | error f =>
          simp only [parse, hlines, hread, hcheck, Except.map, Except.error.injEq] at h
          exact h ▸ isLine_check hwritten hcheck

end Program

end Vivarium
