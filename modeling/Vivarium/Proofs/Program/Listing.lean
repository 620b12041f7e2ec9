import Vivarium.Proofs.Program.Language
import Vivarium.Proofs.Text.Lines

/-! Listings: a program is read back from its listing, once the addresses are taken off. -/
namespace Vivarium

namespace Instruction

theorem text_eq (i : Instruction) : i.text = " ".intercalate i.words := by
  cases i with
  | infect entry => cases entry <;> rfl
  | jump condition target => cases condition <;> rfl
  | _ => rfl

theorem words_ne_nil (i : Instruction) : i.words ≠ [] := by
  cases i with
  | infect entry => cases entry <;> simp [words]
  | jump condition target => cases condition <;> simp [words]
  | _ => simp [words]

section Written

variable {i : Instruction} {line : String} (hi : Text.words line = i.words)

include hi

theorem words_text : Text.words i.text = i.words := by
  rw [text_eq]
  exact Text.words_intercalate fun w hw => Text.isWord_of_mem_words (hi ▸ hw)

theorem counts_text (hc : Counts line) : Counts i.text := by
  obtain ⟨head, rest, hwords⟩ := List.exists_cons_of_ne_nil i.words_ne_nil
  rw [counts_iff ((words_text hi).trans hwords)]
  exact (counts_iff (hi.trans hwords)).1 hc

theorem isLine_text : Text.IsLine i.text := by
  rw [text_eq]
  exact Text.IsLine.intercalate (by decide) fun w hw =>
    (Text.isWord_of_mem_words (hi ▸ hw)).isLine

end Written

end Instruction

namespace Program

/-- A line of a listing: the address, filled up to three places, two blanks, and the instruction. -/
def numbered (address : Nat) (text : String) : String :=
  Text.padLeft 3 (toString address) ++ "  " ++ text

/-- A line of a listing without its address and the two blanks after it. -/
def unnumbered (line : String) : String :=
  .ofList (((line.toList.dropWhile (· = ' ')).dropWhile Char.isDigit).drop 2)

/-- The source with a name for its first line, and after it a listing without its addresses. -/
def ofListing (name listing : String) : String :=
  "\n".intercalate (name :: (Text.lines listing).map unnumbered)

/-- The address ends at the first of the two blanks, whatever the instruction begins with. -/
theorem unnumbered_numbered (address : Nat) (text : String) :
    unnumbered (numbered address text) = text := by
  have hdigits : ∀ c ∈ Nat.toDigits 10 address, c.isDigit = true := fun c hc =>
    Nat.isDigit_of_mem_toDigits (by decide) (by decide) hc
  have hfill : (numbered address text).toList.dropWhile (· = ' ') =
      Nat.toDigits 10 address ++ ' ' :: ' ' :: text.toList := by
    obtain ⟨d, ds, hds⟩ :=
      List.exists_cons_of_ne_nil (Nat.toDigits_ne_nil (n := address) (b := 10))
    have hd : d ≠ ' ' := by
      rintro rfl
      exact absurd (hdigits ' ' (hds ▸ List.mem_cons_self)) (by decide)
    simp only [numbered, Text.padLeft, String.toList_append, String.toList_ofList,
      Nat.toString_eq_repr, Nat.toList_repr, List.append_assoc, hds]
    rw [List.dropWhile_append_of_pos (by simp)]
    simp [hd]
  rw [unnumbered, hfill, List.dropWhile_append_of_pos hdigits,
    List.dropWhile_cons_of_neg (by decide)]
  simp

theorem isLine_numbered (address : Nat) {text : String} (h : Text.IsLine text) :
    Text.IsLine (numbered address text) := by
  have haddress := (Text.isLine_toString address).padLeft 3
  exact Text.isLine_append.2 ⟨Text.isLine_append.2 ⟨haddress, by decide⟩, h⟩

theorem numbered_ne_empty (address : Nat) (text : String) : numbered address text ≠ "" := by
  simp [numbered]

section Written

variable {source name : String} {p : Program} (h : Writes source name p.code.toList)

include h

theorem Writes.exists_line {i : Instruction} (hi : i ∈ p.code.toList) :
    ∃ line, Instruction.Counts line ∧ Text.words line = i.words := by
  obtain ⟨rest, -, hwritten⟩ := h.lines
  have hwords : i.words ∈ (rest.filter Instruction.Counts).map Text.words :=
    hwritten ▸ List.mem_map_of_mem hi
  obtain ⟨line, hline, hwords⟩ := List.mem_map.1 hwords
  exact ⟨line, by simpa using (List.mem_filter.1 hline).2, hwords⟩

theorem Writes.isLine_text {i : Instruction} (hi : i ∈ p.code.toList) : Text.IsLine i.text := by
  obtain ⟨line, -, hwords⟩ := h.exists_line hi
  exact Instruction.isLine_text hwords

theorem Writes.unnumbered_listing :
    (Text.lines p.listing).map unnumbered = p.code.toList.map Instruction.text := by
  have hlisting : p.listing = "\n".intercalate
      (p.code.toList.zipIdx.map fun e => numbered e.2 e.1.text) := rfl
  have hlines : Text.lines p.listing =
      p.code.toList.zipIdx.map fun e => numbered e.2 e.1.text := by
    rw [hlisting]
    apply Text.lines_intercalate
    · rintro line hline
      obtain ⟨⟨i, address⟩, hi, rfl⟩ := List.mem_map.1 hline
      exact isLine_numbered address (h.isLine_text (List.fst_mem_of_mem_zipIdx hi))
    · intro hlast
      obtain ⟨⟨i, address⟩, -, hempty⟩ := List.mem_map.1 (List.mem_of_getLast? hlast)
      exact numbered_ne_empty address i.text hempty
  have hcode := congrArg (List.map Instruction.text) (List.zipIdx_map_fst 0 p.code.toList)
  rw [hlines, ← hcode, List.map_map, List.map_map]
  exact List.map_congr_left fun _ _ => unnumbered_numbered _ _

/-- A listing without its addresses, under any title, is a source of the same program. -/
theorem Writes.ofListing {title : String} (htitle : Text.IsLine title) :
    Writes (ofListing title p.listing) title p.code.toList := by
  have htext (i : Instruction) (hi : i ∈ p.code.toList) :
      Instruction.Counts i.text ∧ Text.words i.text = i.words := by
    obtain ⟨line, hcounts, hwords⟩ := h.exists_line hi
    exact ⟨Instruction.counts_text hwords hcounts, Instruction.words_text hwords⟩
  refine ⟨⟨p.code.toList.map Instruction.text, ?_, ?_⟩, h.nonempty, h.named, h.once, h.defined⟩
  · rw [Program.ofListing, h.unnumbered_listing]
    apply Text.lines_intercalate
    · refine List.forall_mem_cons.2 ⟨htitle, fun line hline => ?_⟩
      obtain ⟨i, hi, rfl⟩ := List.mem_map.1 hline
      exact h.isLine_text hi
    · -- the last line is that of an instruction, so it is not lost
      have hlast := List.getLast?_eq_some_getLast h.nonempty
      have hwords := (htext _ (List.getLast_mem h.nonempty)).2
      rw [List.getLast?_cons, List.getLast?_map, hlast]
      intro hempty
      have htrim := Option.some.inj hempty
      rw [Option.map_some, Option.getD_some] at htrim
      rw [htrim] at hwords
      exact Instruction.words_ne_nil _ hwords.symm
  · rw [List.filter_eq_self.2, List.map_map]
    · exact List.map_congr_left fun i hi => (htext i hi).2
    · intro line hline
      obtain ⟨i, hi, rfl⟩ := List.mem_map.1 hline
      simpa using (htext i hi).1

end Written

theorem isLine_of_parse {source name : String} {p : Program} (h : parse source = .ok (name, p)) :
    Text.IsLine name := by
  obtain ⟨rest, hlines, -⟩ := (parse_eq_ok_iff.1 h).lines
  exact Text.isLine_of_mem_lines (hlines ▸ List.mem_cons_self)

/-- A program that has been read is read back, name and all, from its listing without the addresses;
so no other program that is read has the same listing. -/
theorem parse_ofListing {source name : String} {p : Program} (h : parse source = .ok (name, p)) :
    parse (ofListing name p.listing) = .ok (name, p) ∧
      ∀ (other title : String) (q : Program), parse other = .ok (title, q) →
        q.listing = p.listing → q = p := by
  have hname := isLine_of_parse h
  have hback := parse_eq_ok_iff.2 ((parse_eq_ok_iff.1 h).ofListing hname)
  refine ⟨hback, fun other title q hq hlisting => ?_⟩
  have hback' := parse_eq_ok_iff.2 ((parse_eq_ok_iff.1 hq).ofListing hname)
  rw [hlisting, hback] at hback'
  exact ((Prod.mk.inj (Except.ok.inj hback')).2).symm

/-- A name that looks like a comment, and labels that look like operations or end in a colon. -/
theorem parse_ofListing_colons :
    let source := "# Colons\n\n  hop::\n# to and fro\r\n\tgo:\n ifwall\u3000hop:\u2028infect go"
    let p : Program := ⟨#[.label "hop:", .label "go", .jump .wall "hop:", .infect (some "go")]⟩
    parse source = .ok ("# Colons", p) ∧
      p.listing = "  0  hop::\n  1  go:\n  2  ifwall hop:\n  3  infect go" ∧
      ofListing "# Colons" p.listing = "# Colons\nhop::\ngo:\nifwall hop:\ninfect go" ∧
      parse (ofListing "# Colons" p.listing) = .ok ("# Colons", p) := by
  intro source p
  have hparse : parse source = .ok ("# Colons", p) := by decide +kernel
  exact ⟨hparse, by decide +kernel, by decide +kernel, (parse_ofListing hparse).1⟩

end Program

end Vivarium
