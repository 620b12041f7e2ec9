import Vivarium.Proofs.Program.Language
import Vivarium.Proofs.Text.Lines

/-!
What is said of a source that is not read: the first line that is at fault on its own, and only if there
is none, what is wrong with the program as a whole.
-/
namespace Vivarium

namespace Instruction

/-- A line that counts but holds no instruction: neither a label with a name, nor an operation with as
many words beside it as it takes. -/
def Malformed (line : String) : Prop :=
  Counts line ∧ ∀ i : Instruction, i ≠ .label "" → Text.words line ≠ i.words

/-- What is wrong with a line does not depend on the other lines. -/
theorem malformed_iff {line : String} : Malformed line ↔ ∃ fault, ofLine line = .error fault := by
  by_cases hc : Counts line
  · obtain ⟨head, rest, hw, hline⟩ := ofLine_of_counts hc
    have hnone : Malformed line ↔ ∀ i, ofWords (Text.trim line) head rest ≠ .ok i := by
      simp only [Malformed, hc, true_and, hw, ne_eq, ofWords_eq_ok_iff, not_and']
    rw [hnone, hline]
    cases ofWords (Text.trim line) head rest with
    | error fault => simp [Except.map]
    | ok i => simp [Except.map]
  · rw [ofLine_of_not_counts hc]
    simp [Malformed, hc]

instance : DecidablePred Malformed := fun line =>
  match h : ofLine line with
  | .error fault => isTrue (malformed_iff.2 ⟨fault, h⟩)
  | .ok _ => isFalse fun hbad => by
    obtain ⟨fault, hfault⟩ := malformed_iff.1 hbad
    cases h.symm.trans hfault

theorem ofLines_cons_of_error {number : Nat} {line : String} {lines : List String} {fault : LineFault}
    (h : ofLine line = .error fault) : ofLines number (line :: lines) = .error (.line number fault) := by
  rw [ofLines, h]

theorem ofLines_cons_eq_error_iff {number : Nat} {line : String} {lines : List String}
    {found : Option Instruction} {e : SyntaxError} (h : ofLine line = .ok found) :
    ofLines number (line :: lines) = .error e ↔ ofLines (number + 1) lines = .error e := by
  rw [ofLines, h]
  cases found with
  | none => rfl
  | some i => cases ofLines (number + 1) lines <;> simp [Except.map]

/-- The lines are read up to the first that is malformed, and the error is that of this line. -/
theorem ofLines_eq_error_iff {number : Nat} {lines : List String} {e : SyntaxError} :
    ofLines number lines = .error e ↔ ∃ k line fault, lines[k]? = some line ∧
      ofLine line = .error fault ∧ (∀ l ∈ lines.take k, ¬ Malformed l) ∧
        e = .line (number + k) fault := by
  induction lines generalizing number with
  | nil => simp [ofLines]
  | cons line lines ih =>
    cases hline : ofLine line with
    | error fault =>
      rw [ofLines_cons_of_error hline, Except.error.injEq]
      constructor
      · rintro rfl
        exact ⟨0, line, fault, rfl, hline, by simp, rfl⟩
      · rintro ⟨k, l, fault', hk, hl, hbefore, rfl⟩
        cases k with
        | zero =>
          obtain rfl := Option.some.inj hk
          rw [Except.error.inj (hline.symm.trans hl), Nat.add_zero]
        | succ k => exact absurd (malformed_iff.2 ⟨fault, hline⟩) (hbefore line List.mem_cons_self)
    | ok found =>
      have hgood : ¬ Malformed line := fun h => by
        obtain ⟨fault, hfault⟩ := malformed_iff.1 h
        cases hline.symm.trans hfault
      rw [ofLines_cons_eq_error_iff hline, ih]
      constructor
      · rintro ⟨k, l, fault, hk, hl, hbefore, rfl⟩
        exact ⟨k + 1, l, fault, hk, hl, List.forall_mem_cons.2 ⟨hgood, hbefore⟩,
          by rw [Nat.add_right_comm, Nat.add_assoc]⟩
      · rintro ⟨k, l, fault, hk, hl, hbefore, rfl⟩
        cases k with
        | zero =>
          obtain rfl := Option.some.inj hk
          cases hline.symm.trans hl
        | succ k =>
          exact ⟨k, l, fault, hk, hl, (List.forall_mem_cons.1 hbefore).2,
            by rw [Nat.add_right_comm, Nat.add_assoc]⟩

end Instruction

namespace Program

/-- The label that is found to be defined again is the first one; what comes before it in the table is
defined once. -/
theorem eq_append_of_duplicate? {seen labels : List (String × Nat)} {name : String}
    {first second : Nat} (h : duplicate? seen labels = some (name, first, second)) :
    ∃ before after, labels = before ++ (name, second) :: after ∧ (before.map Prod.fst).Nodup ∧
      (∀ e ∈ before, seen.lookup e.1 = none) ∧
        (seen.lookup name = some first ∨ (name, first) ∈ before) := by
  induction labels generalizing seen with
  | nil => cases h
  | cons e rest ih =>
    obtain ⟨n, address⟩ := e
    rw [duplicate?] at h
    cases hseen : seen.lookup n with
    | some a =>
      simp only [hseen, Option.some.injEq, Prod.mk.injEq] at h
      obtain ⟨rfl, rfl, rfl⟩ := h
      exact ⟨[], rest, rfl, .nil, by simp, .inl hseen⟩
    | none =>
      simp only [hseen] at h
      obtain ⟨before, after, rfl, hnodup, hnew, hfirst⟩ := ih h
      have hother (e : String × Nat) (he : e ∈ before) : e.1 ≠ n ∧ seen.lookup e.1 = none := by
        have hnone := hnew e he
        rw [List.lookup_cons] at hnone
        by_cases hn : e.1 = n
        · simp [hn] at hnone
        · have hne : (e.1 == n) = false := by simpa using hn
          exact ⟨hn, by simpa only [hne] using hnone⟩
      refine ⟨(n, address) :: before, after, rfl, ?_, ?_, ?_⟩
      · refine List.nodup_cons.2 ⟨fun hmem => ?_, hnodup⟩
        obtain ⟨e, he, hn⟩ := List.mem_map.1 hmem
        exact (hother e he).1 hn
      · exact List.forall_mem_cons.2 ⟨hseen, fun e he => (hother e he).2⟩
      · rw [List.lookup_cons] at hfirst
        by_cases hn : name = n
        · subst hn
          simp only [beq_self_eq_true, Option.some.injEq] at hfirst
          rcases hfirst with rfl | hmem
          · exact .inr List.mem_cons_self
          · exact .inr (List.mem_cons_of_mem _ hmem)
        · have hne : (name == n) = false := by simpa using hn
          simp only [hne] at hfirst
          exact hfirst.imp_right (List.mem_cons_of_mem _)

theorem pairwise_labels (p : Program) : p.labels.Pairwise fun e f => e.2 < f.2 := by
  have hzip : p.code.toList.zipIdx.Pairwise fun e f => e.2 < f.2 := by
    have h : (p.code.toList.zipIdx.map Prod.snd).Pairwise (· < ·) := by
      rw [List.zipIdx_map_snd]
      exact List.pairwise_lt_range'
    exact List.pairwise_map.1 h
  refine List.Pairwise.filterMap _ (fun e f hlt x hx y hy => ?_) hzip
  obtain ⟨i, k⟩ := e
  obtain ⟨j, l⟩ := f
  cases i <;> cases hx
  cases j <;> cases hy
  exact hlt

/-- At `second` a label is defined again, after `first`, and before it no label is defined twice. -/
structure DefinesAgain (code : List Instruction) (name : String) (first second : Nat) : Prop where
  lt : first < second
  at_first : code[first]? = some (.label name)
  at_second : code[second]? = some (.label name)
  once : ∀ (n : String) (i j : Nat), i < second → j < second →
    code[i]? = some (.label n) → code[j]? = some (.label n) → i = j

theorem definesAgain_of_duplicate? {p : Program} {name : String} {first second : Nat}
    (h : duplicate? [] p.labels = some (name, first, second)) :
    DefinesAgain p.code.toList name first second := by
  obtain ⟨before, after, hlabels, hnodup, -, hfirst⟩ := eq_append_of_duplicate? h
  have hbefore : (name, first) ∈ before := hfirst.resolve_left (by simp)
  have hsorted := p.pairwise_labels
  rw [hlabels, List.pairwise_append] at hsorted
  obtain ⟨-, hafter, hcross⟩ := hsorted
  have hmem {n : String} {k : Nat} : (n, k) ∈ p.labels ↔ p.code.toList[k]? = some (.label n) := by
    rw [mem_labels, Array.getElem?_toList]
  refine ⟨hcross _ hbefore _ List.mem_cons_self, hmem.1 ?_, hmem.1 ?_, fun n i j hi hj hi' hj' => ?_⟩
  · exact hlabels ▸ List.mem_append_left _ hbefore
  · exact hlabels ▸ List.mem_append_right _ List.mem_cons_self
  · -- both stand in the table before the label that is defined again
    have hin {k : Nat} (hk : k < second) (hcode : p.code.toList[k]? = some (.label n)) :
        (n, k) ∈ before := by
      have htable := hmem.2 hcode
      rw [hlabels, List.mem_append, List.mem_cons] at htable
      rcases htable with hin | heq | hin
      · exact hin
      · exact absurd (Prod.mk.inj heq).2 (Nat.ne_of_lt hk)
      · exact absurd ((List.pairwise_cons.1 hafter).1 _ hin) (Nat.not_lt.2 (Nat.le_of_lt hk))
    have hsame := List.inj_on_of_nodup_map hnodup (hin hi hi') (hin hj hj') rfl
    exact congrArg Prod.snd hsame

/-- The instruction at `address` names a label that is defined nowhere, and none before it does. -/
structure GoesAstray (code : List Instruction) (address : Nat) (i : Instruction) (target : String) :
    Prop where
  here : code[address]? = some i
  names : i.target? = some target
  undefined : .label target ∉ code
  defined : ∀ j ∈ code.take address, ∀ name, j.target? = some name → .label name ∈ code

theorem goesAstray_of_undefined? {p : Program} {address : Nat} {i : Instruction} {target : String}
    (h : p.undefined? = some (address, i, target)) :
    GoesAstray p.code.toList address i target := by
  obtain ⟨before, ⟨j, k⟩, after, hzip, hhere, hbefore⟩ := List.findSome?_eq_some_iff.1 h
  have hcode := congrArg (List.map Prod.fst) hzip
  rw [List.zipIdx_map_fst, List.map_append, List.map_cons] at hcode
  have hk : k = before.length := by
    have hat : p.code.toList.zipIdx[before.length]? = some (j, k) := by simp [hzip]
    rw [List.getElem?_zipIdx] at hat
    obtain ⟨a, -, ha⟩ := Option.map_eq_some_iff.1 hat
    simpa using (Prod.mk.inj ha).2.symm
  cases ht : j.target? with
  | none => simp [ht] at hhere
  | some name =>
    simp only [ht] at hhere
    split at hhere
    · cases hhere
    · next hnone =>
      simp only [Option.some.injEq, Prod.mk.injEq] at hhere
      obtain ⟨rfl, rfl, rfl⟩ := hhere
      refine ⟨by simp [hcode, hk], ht, ?_, ?_⟩
      · simpa [isSome_address?_iff] using hnone
      · intro l hl n hn
        have htake : p.code.toList.take k = before.map Prod.fst := by simp [hcode, hk]
        obtain ⟨⟨l', a⟩, he, rfl⟩ := List.mem_map.1 (htake ▸ hl)
        have hnone := hbefore _ he
        simp only [hn] at hnone
        split at hnone
        · next hsome => simpa [isSome_address?_iff] using hsome
        · cases hnone

theorem check_eq_error {p : Program} {e : SyntaxError} (h : check p = .error e) :
    (∃ name first second, e = .duplicateLabel name first second ∧
      DefinesAgain p.code.toList name first second) ∨
    ∃ address i target, e = .undefinedLabel address i target ∧ (p.labels.map Prod.fst).Nodup ∧
      GoesAstray p.code.toList address i target := by
  unfold check at h
  cases hd : duplicate? [] p.labels with
  | some d =>
    simp only [hd, Except.error.injEq] at h
    exact .inl ⟨_, _, _, h.symm, definesAgain_of_duplicate? hd⟩
  | none =>
    cases hu : p.undefined? with
    | none => simp [hd, hu] at h
    | some u =>
      simp only [hd, hu, Except.error.injEq] at h
      exact .inr ⟨_, _, _, h.symm, (duplicate?_eq_none_iff.1 hd).1, goesAstray_of_undefined? hu⟩

theorem parse_of_ofLines_eq_error {source name : String} {rest : List String} {e : SyntaxError}
    (hlines : Text.lines source = name :: rest) (h : Instruction.ofLines 2 rest = .error e) :
    parse source = .error e := by
  simp [parse, hlines, h]

/-- The line of a number is the first one below the name that is malformed. -/
structure FirstMalformed (source : String) (number : Nat) (line : String) : Prop where
  below : 1 < number
  here : (Text.lines source)[number - 1]? = some line
  malformed : Instruction.Malformed line
  first : ∀ l ∈ ((Text.lines source).take (number - 1)).tail, ¬ Instruction.Malformed l

/-- What is wrong with a source in which no line is malformed, and how it is told. -/
inductive WholeFault (source : String) : SyntaxError → String → Prop
  | emptySource (h : source = "") : WholeFault source .emptySource "empty species source"
  | noInstructions {name : String} {rest : List String} (h : Text.lines source = name :: rest)
    (hnone : ∀ line ∈ rest, ¬ Instruction.Counts line) :
    WholeFault source (.noInstructions name) s!"species '{name}' has no instructions"
  | duplicateLabel {name label : String} {rest : List String} {code : List Instruction}
    {first second : Nat} (h : Text.lines source = name :: rest)
    (hcode : (rest.filter Instruction.Counts).map Text.words = code.map Instruction.words)
    (hagain : DefinesAgain code label first second) :
    WholeFault source (.duplicateLabel label first second)
      s!"label '{label}' defined twice (addresses {first} and {second})"
  | undefinedLabel {name target : String} {rest : List String} {code : List Instruction}
    {address : Nat} {i : Instruction} (h : Text.lines source = name :: rest)
    (hcode : (rest.filter Instruction.Counts).map Text.words = code.map Instruction.words)
    (honce : ∀ (n : String) (j k : Nat),
      code[j]? = some (.label n) → code[k]? = some (.label n) → j = k)
    (hastray : GoesAstray code address i target) :
    WholeFault source (.undefinedLabel address i target)
      s!"address {address}: '{i.text}' jumps to undefined label '{target}'"

theorem wholeFault_of_parse {source : String} {e : SyntaxError}
    (hgood : ∀ line ∈ (Text.lines source).tail, ¬ Instruction.Malformed line)
    (h : parse source = .error e) : WholeFault source e e.message := by
  cases hlines : Text.lines source with
  | nil =>
    simp only [parse, hlines, Except.error.injEq] at h
    subst h
    exact .emptySource (Text.lines_eq_nil_iff.1 hlines)
  | cons name rest =>
    rw [hlines, List.tail_cons] at hgood
    cases hread : Instruction.ofLines 2 rest with
    | error f =>
      obtain ⟨k, line, fault, hk, hline, -, -⟩ := Instruction.ofLines_eq_error_iff.1 hread
      exact absurd (Instruction.malformed_iff.2 ⟨fault, hline⟩) (hgood line (List.mem_of_getElem? hk))
    | ok code =>
      obtain ⟨hcode, -⟩ := Instruction.ofLines_eq_ok_iff.1 hread
      cases code with
      | nil =>
        simp only [parse, hlines, hread, Except.error.injEq] at h
        subst h
        refine .noInstructions hlines ?_
        simpa [List.filter_eq_nil_iff] using hcode
      | cons i is =>
        have hcheck : check ⟨(i :: is).toArray⟩ = .error e := by
          simp only [parse, hlines, hread] at h
          cases hc : check ⟨(i :: is).toArray⟩ with
          | error f => simpa [hc, Except.map] using h
          | ok p => simp [hc, Except.map] at h
        rcases check_eq_error hcheck with ⟨label, first, second, rfl, hagain⟩ |
          ⟨address, j, target, rfl, hnodup, hastray⟩
        · exact .duplicateLabel hlines hcode hagain
        · exact .undefinedLabel hlines hcode (by simpa using nodup_names_iff.1 hnodup) hastray

/-- The error of a source with malformed lines is that of the first of them, counted from 1 with every
line that is passed over, whatever else is wrong. Any error of another source is one of the program as a
whole. -/
theorem parse_points_at_first_fault (source : String) :
    ((∃ line ∈ (Text.lines source).tail, Instruction.Malformed line) →
      ∃ number line fault, FirstMalformed source number line ∧
        Instruction.ofLine line = .error fault ∧ parse source = .error (.line number fault) ∧
          (SyntaxError.line number fault).message = s!"line {number}: {fault.message}") ∧
    ((∀ line ∈ (Text.lines source).tail, ¬ Instruction.Malformed line) →
      ∀ e, parse source = .error e → WholeFault source e e.message) := by
  refine ⟨fun ⟨bad, hmem, hbad⟩ => ?_, fun hgood e h => wholeFault_of_parse hgood h⟩
  cases hlines : Text.lines source with
  | nil => simp [hlines] at hmem
  | cons name rest =>
    rw [hlines, List.tail_cons] at hmem
    cases hread : Instruction.ofLines 2 rest with
    | ok code =>
      obtain ⟨hcode, hnamed⟩ := Instruction.ofLines_eq_ok_iff.1 hread
      -- each line that counts is written as an instruction
      have hwords : Text.words bad ∈ code.map Instruction.words :=
        hcode ▸ List.mem_map_of_mem (List.mem_filter.2 ⟨hmem, by simpa using hbad.1⟩)
      obtain ⟨i, hi, hw⟩ := List.mem_map.1 hwords
      exact absurd hw.symm (hbad.2 i fun heq => hnamed (heq ▸ hi))
    | error e =>
      obtain ⟨k, line, fault, hk, hline, hbefore, rfl⟩ := Instruction.ofLines_eq_error_iff.1 hread
      refine ⟨2 + k, line, fault, ⟨by omega, ?_, Instruction.malformed_iff.2 ⟨fault, hline⟩, ?_⟩,
        hline, parse_of_ofLines_eq_error hlines hread, rfl⟩
      · rw [hlines, show 2 + k - 1 = k + 1 by omega, List.getElem?_cons_succ, hk]
      · rw [hlines, show 2 + k - 1 = k + 1 by omega, List.take_succ_cons, List.tail_cons]
        exact hbefore

/-- The first source has doubled labels, too, but its seventh line takes no label. -/
theorem parse_points_at_first_fault_chaos :
    let chaos := "Chaos\n# a\n\na:\r\n\ta:\ngo b\u2028 hop up\nfly"
    let twice := "Twice\n\na:\ngo b\n # a\na:\n"
    (∃ line ∈ (Text.lines chaos).tail, Instruction.Malformed line) ∧
    FirstMalformed chaos 7 " hop up" ∧
    (∃ e, parse chaos = .error e ∧ e.message = "line 7: 'hop' takes no label") ∧
    (∀ line ∈ (Text.lines twice).tail, ¬ Instruction.Malformed line) ∧
    ∃ e, parse twice = .error e ∧ e.message = "label 'a' defined twice (addresses 0 and 2)" ∧
      WholeFault twice e e.message := by
  intro chaos twice
  have hbad : ∃ line ∈ (Text.lines chaos).tail, Instruction.Malformed line := by decide +kernel
  have hgood : ∀ line ∈ (Text.lines twice).tail, ¬ Instruction.Malformed line := by decide +kernel
  have hchaos : parse chaos = .error (.line 7 (.takesNoLabel "hop")) := by decide +kernel
  have htwice : parse twice = .error (.duplicateLabel "a" 0 2) := by decide +kernel
  obtain ⟨number, line, fault, hfirst, -, hparse, htext⟩ := (parse_points_at_first_fault chaos).1 hbad
  obtain ⟨rfl, rfl⟩ := SyntaxError.line.inj (Except.error.inj (hchaos.symm.trans hparse))
  have hline : some line = some " hop up" := hfirst.here.symm.trans (by decide +kernel)
  obtain rfl := Option.some.inj hline
  exact ⟨hbad, hfirst, ⟨_, hchaos, by decide +kernel⟩, hgood, _, htwice, by decide +kernel,
    (parse_points_at_first_fault twice).2 hgood _ htwice⟩

end Program
end Vivarium
