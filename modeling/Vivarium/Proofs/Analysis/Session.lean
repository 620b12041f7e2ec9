import Mathlib.Data.Nat.Digits.Defs
import Vivarium.Proofs.Analysis.Ledger
import Vivarium.Proofs.Text.Quoted
import Vivarium.Session

/-!
Sessions in a ledger. Their names are hexadecimal digits, so that a name may read as a number; if all
names in a ledger do, their column is one of numbers.
-/
namespace Vivarium

namespace Session

def isHexDigit (c : Char) : Bool := c.isDigit || ('a' ≤ c && c ≤ 'f')

/-- What a session may be named: eight hexadecimal digits. -/
structure IsName (s : String) : Prop where
  length_toList : s.toList.length = 8
  isHexDigit : ∀ c ∈ s.toList, isHexDigit c = true

instance : DecidablePred IsName := fun s =>
  decidable_of_iff (s.toList.length = 8 ∧ s.toList.all isHexDigit = true)
    ⟨fun h => ⟨h.1, List.all_eq_true.1 h.2⟩, fun h => ⟨h.1, List.all_eq_true.2 h.2⟩⟩

theorem isHexDigit_of_mem_toDigits {n : Nat} {c : Char} (h : c ∈ Nat.toDigits 16 n) :
    isHexDigit c = true := by
  have hdigit : ∀ d < 16, isHexDigit (Nat.digitChar d) = true := by decide
  obtain ⟨d, hd, rfl⟩ := Text.exists_digitChar_of_mem_toDigits h
  exact hdigit d hd

theorem isName_name (random : Nat) : IsName (name random) := by
  have hlength : (Nat.toDigits 16 (random % UInt32.size)).length ≤ 8 :=
    Nat.toDigits_length _ _ _ (by decide) (Nat.mod_lt _ (by decide))
  constructor
  · simp only [name, Text.hex, String.toList_ofList, List.length_append, List.length_replicate]
    omega
  · intro c hc
    simp only [name, Text.hex, String.toList_ofList, List.mem_append, List.mem_replicate] at hc
    rcases hc with ⟨-, rfl⟩ | hc
    · rfl
    · exact isHexDigit_of_mem_toDigits hc

end Session

open Analysis

namespace Session.IsName

variable {s : String} (h : IsName s)

include h

theorem isMissing : isMissing s = false := by
  have hnone : ∀ t ∈ missingTexts, ¬ IsName t := by decide +kernel
  exact decide_eq_false fun hs => hnone s hs h

theorem truth? : truth? s = none := by
  have hne (t : List Char) (ht : t.length ≠ 8) : s.toList.map Char.toLower ≠ t := by
    rintro rfl
    exact ht (by rw [List.length_map, h.length_toList])
  unfold Analysis.truth?
  rw [if_neg (hne _ (by decide)), if_neg (hne _ (by decide))]

theorem ne_empty : s ≠ "" := by
  rintro rfl
  exact absurd h.length_toList (by decide)

theorem ne_latest : s ≠ "latest" := by
  rintro rfl
  exact absurd h.length_toList (by decide)

theorem le_toNat {c : Char} (hc : c ∈ s.toList) : 48 ≤ c.toNat := by
  have hhex := h.isHexDigit c hc
  simp only [Session.isHexDigit, Bool.or_eq_true, Bool.and_eq_true, decide_eq_true_eq,
    Char.le_def, UInt32.le_iff_toNat_le] at hhex
  rcases hhex with hdigit | ⟨hle, -⟩
  · exact (Numeral.isDigit_iff.1 hdigit).1
  · exact Nat.le_trans (by decide) hle

theorem splitSign_trim : Numeral.splitSign (Numeral.trim s.toList) = (false, s.toList) := by
  rw [Numeral.trim_eq_self fun c hc => Numeral.isSpace_of_le (h.le_toNat hc)]
  exact Numeral.splitSign_eq_self fun c hc => Numeral.ne_sign_of_le (h.le_toNat hc)

theorem isDigits_of_whole? {n : Int} (hn : Numeral.whole? s = some n) : IsDigits s := by
  rw [Numeral.whole?, Numeral.signedDigits?, h.splitSign_trim] at hn
  obtain ⟨m, hm, -⟩ := Option.map_eq_some_iff.1 hn
  obtain ⟨hne, hall, -⟩ := Numeral.natDigits?_eq_some hm
  exact ⟨hne, hall⟩

theorem natOf_lt (hdigits : IsDigits s) : Numeral.natOf s.toList < 10 ^ 8 :=
  h.length_toList ▸ Numeral.natOf_lt hdigits.isDigit

end Session.IsName

namespace Ledger

/-- The name of every session reads as a number. -/
def IsNumbered (rows : List Row) : Prop := ∀ r ∈ rows, (Numeral.binary64? r.session).isSome = true

instance : DecidablePred IsNumbered := fun _ => inferInstanceAs (Decidable (∀ r ∈ _, _))

section Names

variable {rows : List Row} (hnames : ∀ r ∈ rows, Session.IsName r.session)

include hnames

theorem kindOf_names : Table.kindOf "session_id" (rows.map (·.session)) =
    if ∀ r ∈ rows, (Numeral.whole? r.session).isSome = true then .whole
    else if IsNumbered rows then .decimal
    else .text := by
  have hname {s : String} (hs : s ∈ rows.map (·.session)) : Session.IsName s := by
    obtain ⟨r, hr, rfl⟩ := List.mem_map.1 hs
    exact hnames r hr
  have hsmall : ∀ s ∈ rows.map (·.session), ∀ n, Numeral.whole? s = some n →
      -Kind.signedEnd ≤ n ∧ n < Kind.signedEnd := by
    intro s hs n hn
    have hdigits := (hname hs).isDigits_of_whole? hn
    have hlt := (hname hs).natOf_lt hdigits
    obtain rfl := Option.some.inj (hdigits.whole?.symm.trans hn)
    simp only [Kind.signedEnd]
    omega
  rw [Table.kindOf, if_neg (by decide), Kind.ofTexts_eq (fun s hs => (hname hs).isMissing)
    (fun s hs => (hname hs).truth?) hsmall]
  exact if_congr List.forall_mem_map rfl (if_congr List.forall_mem_map rfl rfl)

theorem sessionCell_number (hnumbered : IsNumbered rows) :
    (∀ r ∈ rows, ∃ n : Nat, sessionCell rows r = .whole n ∧
      Numeral.binary64? r.session = some (.finite n)) ∨
    ∀ r ∈ rows, ∃ x : Binary64, x.unsigned = x ∧ sessionCell rows r = .decimal x ∧
      Numeral.binary64? r.session = some x := by
  have hkind := kindOf_names hnames
  split_ifs at hkind with hwhole
  · refine .inl fun r hr => ?_
    obtain ⟨n, hn⟩ := Option.isSome_iff_exists.1 (hwhole r hr)
    have hdigits := (hnames r hr).isDigits_of_whole? hn
    have hlt := (hnames r hr).natOf_lt hdigits
    refine ⟨Numeral.natOf r.session.toList, ?_, ?_⟩
    · rw [sessionCell, cell, hkind, Kind.cell_whole (hnames r hr).isMissing, hdigits.whole?]
      rfl
    · rw [hdigits.binary64?, Binary64.ofRat_natCast_of_le (by omega)]
  · refine .inr fun r hr => ?_
    obtain ⟨x, hx⟩ := Option.isSome_iff_exists.1 (hnumbered r hr)
    refine ⟨x, Numeral.unsigned_of_binary64? ?_ hx, ?_, hx⟩
    · rw [(hnames r hr).splitSign_trim]
    · rw [sessionCell, cell, hkind, Kind.cell_decimal (hnames r hr).isMissing, hx]
      rfl

theorem sessionCell_text (hnumbered : ¬ IsNumbered rows) {r : Row} (hr : r ∈ rows) :
    sessionCell rows r = .text r.session := by
  have hwhole : ¬ ∀ r ∈ rows, (Numeral.whole? r.session).isSome = true := fun hall =>
    hnumbered fun r hr => by
      obtain ⟨n, hn⟩ := Option.isSome_iff_exists.1 (hall r hr)
      exact Numeral.isSome_binary64?_of_whole? hn
  rw [sessionCell, cell, kindOf_names hnames, if_neg hwhole, if_neg hnumbered,
    Kind.cell_text (hnames r hr).isMissing]

theorem isPresent_sessionCell {r : Row} (hr : r ∈ rows) : (sessionCell rows r).isPresent = true := by
  by_cases hnumbered : IsNumbered rows
  · rcases sessionCell_number hnames hnumbered with hcell | hcell
    · obtain ⟨n, hn, -⟩ := hcell r hr
      simp [hn, Cell.isPresent]
    · obtain ⟨x, -, hx, -⟩ := hcell r hr
      simp [hx, Cell.isPresent]
  · simp [sessionCell_text hnames hnumbered hr, Cell.isPresent]

variable (hnumbered : IsNumbered rows)

include hnumbered

theorem key_sessionCell_ne_text {r : Row} (hr : r ∈ rows) (s : String) :
    (sessionCell rows r).key ≠ .text s := by
  rcases sessionCell_number hnames hnumbered with hcell | hcell
  · obtain ⟨n, hn, -⟩ := hcell r hr
    simp [hn, Cell.key]
  · obtain ⟨x, -, hx, -⟩ := hcell r hr
    simp [hx, Cell.key]

/-- Two sessions are taken for the same if their names read as the same number. -/
theorem key_sessionCell_eq_iff {q r : Row} (hq : q ∈ rows) (hr : r ∈ rows) :
    (sessionCell rows q).key = (sessionCell rows r).key ↔
      Numeral.binary64? q.session = Numeral.binary64? r.session := by
  rcases sessionCell_number hnames hnumbered with hcell | hcell
  · obtain ⟨m, hm, hmread⟩ := hcell q hq
    obtain ⟨n, hn, hnread⟩ := hcell r hr
    simp [hm, hn, hmread, hnread, Cell.key]
  · obtain ⟨x, hxsign, hx, hxread⟩ := hcell q hq
    obtain ⟨y, hysign, hy, hyread⟩ := hcell r hr
    simp [hx, hy, hxread, hyread, Cell.key, hxsign, hysign]

end Names

section Select

variable {path saved : String} {d e : Directory} {batches : List (List Row)}

end Select

end Ledger
end Vivarium
