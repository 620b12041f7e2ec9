import Mathlib.Data.List.Nodup
import Vivarium.Proofs.Program.WellFormed
import Vivarium.Proofs.Text.Words

/-! The language of species sources: which texts are read, and what they are read as. -/
namespace Vivarium

theorem labelName?_eq_some {word name : String} :
    labelName? word = some name ↔ word = name ++ ":" := by
  unfold labelName?
  constructor
  · intro h
    split at h
    · next cs hcs =>
      obtain rfl := Option.some.inj h
      have hword : word.toList = cs.reverse ++ [':'] := by
        rw [← List.reverse_reverse word.toList, hcs, List.reverse_cons]
      rw [← String.toList_inj, hword]
      simp
    · cases h
  · rintro rfl
    simp

theorem Opcode.ofToken?_eq_some {token : String} {op : Opcode} :
    ofToken? token = some op ↔ token = op.token := by
  constructor
  · intro h
    have htoken := List.find?_some h
    exact (of_decide_eq_true htoken).symm
  · rintro rfl
    exact ofToken?_token op

namespace Instruction

def words : Instruction → List String
  | .hop => ["hop"]
  | .left => ["left"]
  | .right => ["right"]
  | .infect none => ["infect"]
  | .infect (some entry) => ["infect", entry]
  | .jump .empty target => ["ifempty", target]
  | .jump .wall target => ["ifwall", target]
  | .jump .same target => ["ifsame", target]
  | .jump .enemy target => ["ifenemy", target]
  | .jump .random target => ["ifrandom", target]
  | .jump .always target => ["go", target]
  | .label name => [name ++ ":"]

/-- A line that holds an instruction: it is neither blank nor a comment. -/
def Counts (line : String) : Prop :=
  Text.trim line ≠ "" ∧ (Text.trim line).toList.head? ≠ some '#'

instance : DecidablePred Counts := fun _ => inferInstanceAs (Decidable (_ ∧ _))

theorem words_of_ofOperands {op : Opcode} {rest : List String} {i : Instruction}
    (hrest : rest.length ≤ 1) (h : ofOperands op.token op rest = .ok i) :
    op.token :: rest = i.words ∧ i ≠ .label "" := by
  have hcases : rest = [] ∨ ∃ x, rest = [x] := by
    cases rest with
    | nil => exact .inl rfl
    | cons x rest => exact .inr ⟨x, by simpa using hrest⟩
  rcases hcases with rfl | ⟨x, rfl⟩
  · cases op <;> cases h <;> exact ⟨rfl, by simp⟩
  · cases op with
    | jump condition => cases condition <;> cases h <;> exact ⟨rfl, by simp⟩
    | _ => cases h <;> exact ⟨rfl, by simp⟩

theorem ofWords_eq_ok_iff {line head : String} {rest : List String} {i : Instruction} :
    ofWords line head rest = .ok i ↔ head :: rest = i.words ∧ i ≠ .label "" := by
  constructor
  · intro h
    unfold ofWords at h
    cases hl : labelName? head with
    | some name =>
      simp only [hl] at h
      split at h
      · cases h
      · next hname =>
        split at h
        · cases h
        · next hrest =>
          cases h
          rw [labelName?_eq_some.1 hl, Decidable.not_not.1 hrest]
          exact ⟨rfl, by simpa using hname⟩
    | none =>
      simp only [hl] at h
      split at h
      · cases h
      · next hlength =>
        cases hop : Opcode.ofToken? head with
        | none => simp [hop] at h
        | some op =>
          obtain rfl := Opcode.ofToken?_eq_some.1 hop
          simp only [hop] at h
          exact words_of_ofOperands (by omega) h
  · rintro ⟨hwords, hlabel⟩
    cases i with
    | label name =>
      obtain ⟨rfl, rfl⟩ := List.cons.inj hwords
      have hname : name ≠ "" := fun h => hlabel (h ▸ rfl)
      simp [ofWords, labelName?_eq_some.2 rfl, hname]
    | infect entry =>
      cases entry <;> obtain ⟨rfl, rfl⟩ := List.cons.inj hwords <;> rfl
    | jump condition target =>
      cases condition <;> obtain ⟨rfl, rfl⟩ := List.cons.inj hwords <;> rfl
    | _ =>
      obtain ⟨rfl, rfl⟩ := List.cons.inj hwords
      rfl

theorem counts_iff {line head : String} {rest : List String} (hw : Text.words line = head :: rest) :
    Counts line ↔ head.toList.head? ≠ some '#' := by
  have htrim : Text.trim line ≠ "" := fun h => by simp [Text.trim_eq_empty_iff.1 h] at hw
  have hhead : (Text.trim line).toList.head? = head.toList.head? := by simp [Text.head?_trim, hw]
  simp [Counts, htrim, hhead]

theorem ofLine_of_not_counts {line : String} (h : ¬ Counts line) : ofLine line = .ok none := by
  unfold ofLine
  cases hw : Text.words line with
  | nil => rfl
  | cons head rest =>
    have hcomment : head.toList.head? = some '#' := by simpa [counts_iff hw] using h
    simp [hcomment]

theorem ofLine_of_counts {line : String} (h : Counts line) :
    ∃ head rest, Text.words line = head :: rest ∧
      ofLine line = (ofWords (Text.trim line) head rest).map some := by
  unfold ofLine
  cases hw : Text.words line with
  | nil => exact absurd (Text.trim_eq_empty_iff.2 hw) h.1
  | cons head rest => exact ⟨head, rest, rfl, by simp [(counts_iff hw).1 h]⟩

theorem ofLines_cons_of_counts {number : Nat} {line : String} {lines : List String}
    (h : Counts line) {code : List Instruction} :
    ofLines number (line :: lines) = .ok code ↔
      ∃ i is, code = i :: is ∧ (Text.words line = i.words ∧ i ≠ .label "") ∧
        ofLines (number + 1) lines = .ok is := by
  obtain ⟨head, rest, hw, hline⟩ := ofLine_of_counts h
  simp only [ofLines, hline, hw, ← @ofWords_eq_ok_iff (Text.trim line)]
  cases ofWords (Text.trim line) head rest with
  | error fault => simp [Except.map]
  | ok i =>
    cases ofLines (number + 1) lines with
    | error e => simp [Except.map]
    | ok is => simp [Except.map, eq_comm]

theorem ofLines_eq_ok_iff {number : Nat} {lines : List String} {code : List Instruction} :
    ofLines number lines = .ok code ↔
      (lines.filter Counts).map Text.words = code.map words ∧ .label "" ∉ code := by
  induction lines generalizing number code with
  | nil => cases code <;> simp [ofLines]
  | cons line lines ih =>
    by_cases hc : Counts line
    · rw [ofLines_cons_of_counts hc, List.filter_cons_of_pos (by simpa using hc)]
      cases code with
      | nil => simp
      | cons i is => simp [ih, and_assoc, and_left_comm, eq_comm]
    · rw [ofLines, ofLine_of_not_counts hc, List.filter_cons_of_neg (by simpa using hc)]
      exact ih

end Instruction

namespace Program

theorem mem_labels {p : Program} {name : String} {address : Nat} :
    (name, address) ∈ p.labels ↔ p.code[address]? = some (.label name) := by
  simp only [labels, List.mem_filterMap, Prod.exists, List.mk_mem_zipIdx_iff_getElem?,
    Array.getElem?_toList]
  constructor
  · rintro ⟨i, k, hi, hentry⟩
    cases i with
    | label n =>
      obtain ⟨rfl, rfl⟩ := Prod.mk.inj (Option.some.inj hentry)
      exact hi
    | _ => cases hentry
  · exact fun h => ⟨.label name, address, h, rfl⟩

theorem nodup_labels (p : Program) : p.labels.Nodup := by
  have hzip : p.code.toList.zipIdx.Nodup := .of_map Prod.snd (by simp [List.nodup_range'])
  refine hzip.filterMap fun x y entry hx hy => ?_
  obtain ⟨i, k⟩ := x
  obtain ⟨j, l⟩ := y
  cases i <;> cases hx
  cases j <;> cases hy
  rfl

theorem nodup_names_iff {p : Program} :
    (p.labels.map Prod.fst).Nodup ↔ ∀ (name : String) (i j : Nat),
      p.code[i]? = some (.label name) → p.code[j]? = some (.label name) → i = j := by
  constructor
  · intro h name i j hi hj
    have hentry := List.inj_on_of_nodup_map h (mem_labels.2 hi) (mem_labels.2 hj) rfl
    exact congrArg Prod.snd hentry
  · intro h
    refine p.nodup_labels.map_on fun x hx y hy hname => ?_
    obtain ⟨name, i⟩ := x
    obtain ⟨_, j⟩ := y
    obtain rfl : name = _ := hname
    rw [h name i j (mem_labels.1 hx) (mem_labels.1 hy)]

theorem isSome_address?_iff {p : Program} {name : String} :
    (p.address? name).isSome ↔ .label name ∈ p.code := by
  simp [address?, Array.findIdx?_isSome, Array.mem_iff_getElem]

theorem WellFormed.address?_eq_some_iff {p : Program} (h : p.WellFormed) {name : String}
    {address : Nat} : p.address? name = some address ↔ p.code[address]? = some (.label name) := by
  rw [address?, Array.findIdx?_eq_some_iff_getElem, Array.getElem?_eq_some_iff]
  refine exists_congr fun hlt => ?_
  simp only [decide_eq_true_eq, and_iff_left_iff_imp]
  intro hhere earlier hearlier hthere
  have hsame := nodup_names_iff.1 h.nodup name earlier address
    (Array.getElem?_eq_some_iff.2 ⟨_, hthere⟩) (Array.getElem?_eq_some_iff.2 ⟨hlt, hhere⟩)
  omega

/-- A source with the species name `name` in which the instructions `code` are written. -/
structure Writes (source name : String) (code : List Instruction) : Prop where
  /-- The name is the first line, and each line after it that counts holds an instruction. -/
  lines : ∃ rest, Text.lines source = name :: rest ∧
    (rest.filter Instruction.Counts).map Text.words = code.map Instruction.words
  nonempty : code ≠ []
  /-- No label is without a name. -/
  named : .label "" ∉ code
  /-- No two labels have one name. -/
  once : ∀ (name : String) (i j : Nat),
    code[i]? = some (.label name) → code[j]? = some (.label name) → i = j
  /-- Every operand is the name of a label. -/
  defined : ∀ i ∈ code, ∀ name, i.target? = some name → .label name ∈ code

theorem parse_eq_ok_iff {source name : String} {p : Program} :
    parse source = .ok (name, p) ↔ Writes source name p.code.toList := by
  have hnonempty : 0 < p.size ↔ p.code.toList ≠ [] := by
    simp [size, Array.size_pos_iff]
  rw [parse_eq_ok_iff_ofLines]
  constructor
  · rintro ⟨rest, hlines, hread, hwf⟩
    obtain ⟨hwritten, hnamed⟩ := Instruction.ofLines_eq_ok_iff.1 hread
    refine ⟨⟨rest, hlines, hwritten⟩, hnonempty.1 hwf.nonempty, hnamed, ?_, ?_⟩
    · simpa using nodup_names_iff.1 hwf.nodup
    · simpa [isSome_address?_iff] using hwf.defined
  · intro h
    obtain ⟨rest, hlines, hwritten⟩ := h.lines
    refine ⟨rest, hlines, Instruction.ofLines_eq_ok_iff.2 ⟨hwritten, h.named⟩,
      hnonempty.2 h.nonempty, nodup_names_iff.2 ?_, ?_⟩
    · simpa using h.once
    · simpa [isSome_address?_iff] using h.defined

/-- Exactly the sources in which a program is written are read, and what is written is read: the
first line as the name, and the instructions in order. A label is found at its address and nowhere
else. -/
theorem parse_reads_what_is_written (source : String) :
    (∀ name p, parse source = .ok (name, p) ↔ Writes source name p.code.toList) ∧
    (∀ name p, parse source = .ok (name, p) → (p.labels.map Prod.fst).Nodup ∧
      ∀ (label : String) (address : Nat),
        ((label, address) ∈ p.labels ↔ p.code[address]? = some (.label label)) ∧
        (p.address? label = some address ↔ p.code[address]? = some (.label label))) ∧
    ((∃ e, parse source = .error e) ↔ ¬ ∃ name code, Writes source name code) := by
  refine ⟨fun _ _ => parse_eq_ok_iff, fun name p h => ?_, ?_⟩
  · have hwf := parse_wellFormed h
    exact ⟨hwf.nodup, fun label address => ⟨mem_labels, hwf.address?_eq_some_iff⟩⟩
  · constructor
    · rintro ⟨e, he⟩ ⟨name, code, hwritten⟩
      have hok : parse source = .ok (name, ⟨code.toArray⟩) := parse_eq_ok_iff.2 hwritten
      cases he.symm.trans hok
    · intro hno
      cases hr : parse source with
      | error e => exact ⟨e, rfl⟩
      | ok parsed => exact absurd ⟨_, _, parse_eq_ok_iff.1 hr⟩ hno

/-- A label may be called what an operation is called. -/
theorem parse_reads_what_is_written_hugger :
    let source := "Hugger #1\n  # no way\nhop:\n\tifwall hop \ninfect  hop"
    let p : Program := ⟨#[.label "hop", .jump .wall "hop", .infect (some "hop")]⟩
    parse source = .ok ("Hugger #1", p) ∧ Writes source "Hugger #1" p.code.toList ∧
      p.address? "hop" = some 0 := by
  intro source p
  have hparse : parse source = .ok ("Hugger #1", p) := by decide +kernel
  obtain ⟨hread, htable, -⟩ := parse_reads_what_is_written source
  exact ⟨hparse, (hread _ _).1 hparse, ((htable _ _ hparse).2 "hop" 0).2.2 rfl⟩

end Program
end Vivarium
