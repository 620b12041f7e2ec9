import Mathlib.Algebra.GroupWithZero.Nat
import Mathlib.Data.List.Basic
import Vivarium.Proofs.Csv

/-!
Reading in two stages. A text that goes on is read like its beginning, and then like the rest read from
the state in which the beginning leaves the reader. A record that is still open there only grows.
-/
namespace Vivarium.Csv

def Reading.prepend (records : List (List Field)) (r : Reading) : Reading :=
  { r with records := records ++ r.records }

/-- Where a reader is: its mode, what it has read of a field, and the fields before this one, the last
one first. -/
structure State where
  mode : Mode := .record
  begun : Begun := {}
  fields : List Field := []

namespace State

def read (s : State) (cs : List Char) : Reading := readFrom s.mode s.begun s.fields cs

def current (s : State) : List Field := close s.begun s.fields

theorem current_ne_nil (s : State) : s.current ≠ [] := by simp [current, close]

/-- The record that a character ends, if it ends one, and the state after it. -/
def next (s : State) (c : Char) : Option (List Field) × State :=
  match s.mode with
  | .quoted =>
    (none, if c = '"' then { s with mode := .quote } else { s with begun := s.begun.push c })
  | .record =>
    if c = '\r' ∨ c = '\n' then (some [], {})
    else if c = '"' then (none, { mode := .quoted, begun := { quoted := true } })
    else if c = ',' then (none, { mode := .field, fields := [{ text := "" }] })
    else (none, { mode := .plain, begun := { chars := [c] } })
  | .field =>
    if c = '\r' ∨ c = '\n' then (some s.current, {})
    else if c = '"' then (none, { s with mode := .quoted, begun := { quoted := true } })
    else if c = ',' then (none, { mode := .field, fields := { text := "" } :: s.fields })
    else (none, { s with mode := .plain, begun := { chars := [c] } })
  | .plain =>
    if c = '\r' ∨ c = '\n' then (some s.current, {})
    else if c = ',' then (none, { mode := .field, fields := s.begun.field :: s.fields })
    else (none, { s with begun := s.begun.push c })
  | .quote =>
    if c = '\r' ∨ c = '\n' then (some s.current, {})
    else if c = '"' then (none, { s with mode := .quoted, begun := s.begun.push '"' })
    else if c = ',' then (none, { mode := .field, fields := s.begun.field :: s.fields })
    else (none, { s with mode := .plain, begun := s.begun.push c })

/-- The records that end in a text, and the state after it. Outside quotes a carriage return before a
line feed is passed over, as this ends the record for both. -/
def run : State → List Char → List (List Field) × State
  | s, [] => ([], s)
  | s, c :: cs =>
    if c = '\r' ∧ cs.head? = some '\n' ∧ s.mode ≠ .quoted then run s cs
    else ((s.next c).1.toList ++ (run (s.next c).2 cs).1, (run (s.next c).2 cs).2)

theorem read_cons {s : State} {c : Char} {cs : List Char}
    (h : ¬ (c = '\r' ∧ cs.head? = some '\n' ∧ s.mode ≠ .quoted)) :
    s.read (c :: cs) = ((s.next c).2.read cs).prepend (s.next c).1.toList := by
  obtain ⟨mode, p, fields⟩ := s
  have hlone (hmode : mode ≠ .quoted) (ds : List Char) (hr : c = '\r') (hds : cs = '\n' :: ds) :
      False := h ⟨hr, by rw [hds]; rfl, hmode⟩
  unfold read next
  cases mode with
  | quoted =>
    by_cases hq : c = '"'
    · subst hq
      exact readFrom_quoted_quote p fields cs
    · simp only [if_neg hq]
      exact readFrom_quoted_cons p fields cs hq
  | _ =>
    dsimp only
    rw [readFrom]
    · split_ifs <;> rfl
    · exact hlone (by simp)

theorem read_crlf {s : State} (h : s.mode ≠ .quoted) (cs : List Char) :
    s.read ('\r' :: '\n' :: cs) = s.read ('\n' :: cs) := by
  obtain ⟨mode, p, fields⟩ := s
  unfold read
  cases mode with
  | quoted => exact absurd rfl h
  | _ =>
    dsimp only
    rw [readFrom, readFrom, if_pos (by decide)]
    all_goals simp

theorem read_of_record {s : State} (h : s.mode = .record) (cs : List Char) :
    s.read cs = ({} : State).read cs := by
  have hnext (c : Char) : s.next c = ({} : State).next c := by simp only [next, h]
  induction cs with
  | nil => simp [read, readFrom, h]
  | cons c cs ih =>
    by_cases hpair : c = '\r' ∧ cs.head? = some '\n'
    · obtain ⟨rfl, hhead⟩ := hpair
      obtain ⟨ds, rfl⟩ := List.head?_eq_some_iff.1 hhead
      rw [read_crlf (by simp [h]), read_crlf (by simp), ih]
    · rw [read_cons fun hall => hpair ⟨hall.1, hall.2.1⟩,
        read_cons fun hall => hpair ⟨hall.1, hall.2.1⟩, hnext]

theorem read_append (s : State) {cs ds : List Char}
    (h : cs.getLast? = some '\r' → ds.head? ≠ some '\n') :
    s.read (cs ++ ds) = ((s.run cs).2.read ds).prepend (s.run cs).1 := by
  induction cs generalizing s with
  | nil => rfl
  | cons c cs ih =>
    have hrest : cs.getLast? = some '\r' → ds.head? ≠ some '\n' := by
      intro hlast
      cases cs with
      | nil => cases hlast
      | cons d cs => exact h (by rwa [List.getLast?_cons_cons])
    rw [run]
    split_ifs with hpair
    · obtain ⟨rfl, hhead, hmode⟩ := hpair
      obtain ⟨cs', rfl⟩ := List.head?_eq_some_iff.1 hhead
      rw [← ih s hrest, List.cons_append, List.cons_append, read_crlf hmode]
    · rw [List.cons_append, read_cons, ih _ hrest]
      · simp [Reading.prepend]
      · rintro ⟨rfl, hhead, hmode⟩
        cases cs with
        | nil => exact h rfl hhead
        | cons d cs => exact hpair ⟨rfl, hhead, hmode⟩

theorem read_eq (s : State) (cs : List Char) :
    s.read cs = ((s.run cs).2.read []).prepend (s.run cs).1 := by
  have happend : s.read (cs ++ []) = _ := s.read_append (by simp)
  rwa [List.append_nil] at happend

theorem mode_next {s : State} {c : Char} (h : (s.next c).2.mode ≠ .quoted) :
    (s.next c).2.mode = .record ↔ c = '\r' ∨ c = '\n' := by
  unfold next at h ⊢
  cases hmode : s.mode <;> simp only [hmode] at h ⊢ <;> split_ifs at h ⊢ <;> simp_all

/-- Outside quotes a record has ended exactly where a line has. -/
theorem mode_run {s : State} {cs : List Char} (hne : cs ≠ []) (h : (s.run cs).2.mode ≠ .quoted) :
    (s.run cs).2.mode = .record ↔ cs.getLast? = some '\r' ∨ cs.getLast? = some '\n' := by
  induction cs generalizing s with
  | nil => exact absurd rfl hne
  | cons c cs ih =>
    cases cs with
    | nil =>
      simp only [run, List.head?_nil, reduceCtorEq, false_and, and_false, if_false] at h ⊢
      simpa using mode_next h
    | cons d cs =>
      rw [run] at h ⊢
      rw [List.getLast?_cons_cons]
      split_ifs at h ⊢
      · exact ih (List.cons_ne_nil d cs) h
      · exact ih (List.cons_ne_nil d cs) h

/-- Nothing has been read of a field that has not begun. -/
def Sound (s : State) : Prop := s.mode = .field → s.begun = {}

theorem sound_next (s : State) (c : Char) : (s.next c).2.Sound := by
  unfold Sound next
  cases hmode : s.mode <;> simp only <;> split_ifs <;> simp_all

theorem Sound.run {s : State} (h : s.Sound) (cs : List Char) : (s.run cs).2.Sound := by
  induction cs generalizing s with
  | nil => exact h
  | cons c cs ih =>
    rw [State.run]
    split_ifs
    · exact ih h
    · exact ih (s.sound_next c)

end State

/-- How much a record holds: its characters, and its fields. -/
def extent (record : List Field) : Nat := (record.map fun f => f.text.length + 1).sum

theorem extent_congr {r t : List Field} (h : r.map (·.text) = t.map (·.text)) :
    extent r = extent t := by
  have hmap (u : List Field) : extent u = ((u.map (·.text)).map fun s => s.length + 1).sum := by
    rw [List.map_map]
    rfl
  rw [hmap, hmap, h]

theorem extent_current (s : State) :
    extent s.current = s.begun.chars.length + 1 + extent s.fields := by
  simp [extent, State.current, close, Begun.field, List.sum_reverse, Nat.add_comm]

namespace State

variable {s : State} {c : Char}

/-- A character ends the record as it stands, or the record goes on and holds no less than before. -/
theorem next_grows (h : s.Sound) (hrecord : s.mode ≠ .record) (c : Char) :
    (s.next c).1 = some s.current ∨ (s.next c).1 = none ∧ (s.next c).2.mode ≠ .record ∧
      extent s.current ≤ extent (s.next c).2.current := by
  simp only [extent_current]
  unfold Sound at h
  unfold next
  cases hmode : s.mode <;> simp only <;> split_ifs <;>
    simp_all [extent, Begun.push, Begun.field]

/-- After a field that has begun the record holds more with each character that does not end it. -/
theorem next_grows_lt (hmode : s.mode = .plain ∨ s.mode = .quote) (hr : c ≠ '\r') (hn : c ≠ '\n') :
    (s.next c).1 = none ∧ (s.next c).2.mode ≠ .record ∧
      extent s.current < extent (s.next c).2.current := by
  simp only [extent_current]
  unfold next
  rcases hmode with hmode | hmode <;> simp only [hmode] <;> split_ifs <;>
    simp_all [extent, Begun.push, Begun.field]

/-- The record that is open is the next one to be read, and holds all that has been read of it. -/
theorem exists_read (h : s.Sound) (hrecord : s.mode ≠ .record) (cs : List Char) :
    ∃ r rest, (s.read cs).records = r :: rest ∧ extent s.current ≤ extent r := by
  induction cs generalizing s with
  | nil =>
    refine ⟨s.current, [], ?_, Nat.le_refl _⟩
    unfold read
    rw [readFrom, if_neg hrecord]
    rfl
  | cons c cs ih =>
    by_cases hpair : c = '\r' ∧ cs.head? = some '\n' ∧ s.mode ≠ .quoted
    · obtain ⟨rfl, hhead, hmode⟩ := hpair
      obtain ⟨ds, rfl⟩ := List.head?_eq_some_iff.1 hhead
      rw [read_crlf hmode]
      exact ih h hrecord
    · rw [read_cons hpair]
      rcases next_grows h hrecord c with hend | ⟨hgoes, hmode, hle⟩
      · exact ⟨s.current, ((s.next c).2.read cs).records, by rw [hend]; rfl, Nat.le_refl _⟩
      · obtain ⟨r, rest, hread, hr⟩ := ih (s.sound_next c) hmode
        exact ⟨r, rest, by rw [hgoes]; exact hread, Nat.le_trans hle hr⟩

end State

theorem toList_write_cons (fields : List String) (rs : List (List String)) :
    (write (fields :: rs)).toList =
      (writeFields fields).toList ++ '\r' :: '\n' :: (write rs).toList := by
  rw [write, List.map_cons, String.join_cons, writeRecord, String.toList_append,
    String.toList_append, List.append_assoc]
  rfl

theorem head?_write {rs : List (List String)} (h : ∀ fields ∈ rs, fields ≠ []) :
    (write rs).toList = [] ∧ rs = [] ∨
      ∃ c cs, (write rs).toList = c :: cs ∧ c ≠ '\r' ∧ c ≠ '\n' := by
  cases rs with
  | nil => exact .inl ⟨by simp [write], rfl⟩
  | cons fields rs =>
    obtain ⟨c, cs, hcons, hc⟩ := exists_cons_writeFields (h fields List.mem_cons_self)
    exact .inr ⟨c, _, by rw [toList_write_cons, hcons, List.cons_append], hc⟩

/-- A text that is read as a header and records below it, blank lines passed over; no quote is left
open. -/
def IsTable (text : String) (header : List String) (rows : List (List String)) : Prop :=
  ∃ first rest, read text = ⟨first :: rest, false⟩ ∧ first.map (·.text) = header ∧
    (rest.filter (!·.isEmpty)).map (·.map (·.text)) = rows

def EndsLine (text : String) : Prop :=
  text.toList.getLast? = some '\r' ∨ text.toList.getLast? = some '\n'

instance : DecidablePred EndsLine := fun _ => inferInstanceAs (Decidable (_ ∨ _))

section Continued

variable {text : String} {header : List String} {rows records : List (List String)}

/-- Records that are written after a text are read from the state in which it leaves the reader. -/
theorem read_append_write (text : String) (hne : ∀ fields ∈ records, fields ≠ []) :
    read (text ++ write records) =
      ((({} : State).run text.toList).2.read (write records).toList).prepend
        (({} : State).run text.toList).1 := by
  have hhead : text.toList.getLast? = some '\r' → (write records).toList.head? ≠ some '\n' := by
    rintro -
    rcases head?_write hne with ⟨hnil, -⟩ | ⟨c, cs, hcons, -, hn⟩
    · simp [hnil]
    · simpa [hcons] using hn
  rw [← State.read_append _ hhead, ← String.toList_append]
  rfl

/-- A text in which a record is open was read with this record as the last one. -/
theorem read_of_open (hrecord : (({} : State).run text.toList).2.mode ≠ .record) :
    read text = ⟨(({} : State).run text.toList).1 ++ [(({} : State).run text.toList).2.current],
      (({} : State).run text.toList).2.mode = .quoted⟩ := by
  change ({} : State).read text.toList = _
  rw [State.read_eq]
  simp only [State.read, readFrom, if_neg hrecord]
  rfl

theorem IsTable.mode_run (h : IsTable text header rows) :
    text ≠ "" ∧ (({} : State).run text.toList).2.mode ≠ .quoted ∧
      ((({} : State).run text.toList).2.mode = .record ↔ EndsLine text) := by
  obtain ⟨first, rest, hread, -⟩ := h
  have hne : text ≠ "" := by
    rintro rfl
    simp [read, readFrom] at hread
  have hquoted : (({} : State).run text.toList).2.mode ≠ .quoted := fun hmode => by
    rw [read_of_open (by simp [hmode])] at hread
    simp [hmode] at hread
  exact ⟨hne, hquoted, State.mode_run (by simpa using hne) hquoted⟩

theorem IsTable.append (h : IsTable text header rows) (hend : EndsLine text)
    (hne : ∀ fields ∈ records, fields ≠ []) :
    IsTable (text ++ write records) header (rows ++ records) := by
  have hmode := h.mode_run.2.2.2 hend
  have hall : read (text ++ write records) =
      ⟨(({} : State).run text.toList).1 ++ records.map writtenRecord, false⟩ := by
    rw [read_append_write text hne, State.read_of_record hmode]
    change (read (write records)).prepend _ = _
    rw [read_write]
    rfl
  obtain ⟨first, rest, hread, hheader, hrows⟩ := h
  have hbefore : (({} : State).run text.toList).1 = first :: rest := by
    change ({} : State).read text.toList = _ at hread
    rw [State.read_eq, State.read_of_record hmode] at hread
    simpa [Reading.prepend, State.read, readFrom] using hread
  refine ⟨first, rest ++ records.map writtenRecord, by rw [hall, hbefore]; rfl, hheader, ?_⟩
  rw [List.filter_append, filter_writtenRecord hne, List.map_append, texts_writtenRecord, hrows]

/-- A record that is open takes in the one that is written after it. -/
theorem exists_read_write {s : State} (hs : s.Sound) (hrecord : s.mode ≠ .record)
    (hquoted : s.mode ≠ .quoted) (f g : String) (fs : List String) (rs : List (List String)) :
    ∃ r rest, (s.read (write ((f :: g :: fs) :: rs)).toList).records = r :: rest ∧
      extent s.current < extent r := by
  obtain ⟨mode, p, fields⟩ := s
  have hbegun (hmode : mode = .plain ∨ mode = .quote) : ∃ r rest,
      (State.read ⟨mode, p, fields⟩ (write ((f :: g :: fs) :: rs)).toList).records = r :: rest ∧
        extent (State.current ⟨mode, p, fields⟩) < extent r := by
    obtain ⟨c, cs, hcons, hr, hn⟩ := exists_cons_writeFields (List.cons_ne_nil f (g :: fs))
    obtain ⟨hgoes, hnext, hlt⟩ := State.next_grows_lt (s := ⟨mode, p, fields⟩) hmode hr hn
    obtain ⟨r, rest, hread, hle⟩ := State.exists_read (State.sound_next _ c) hnext
      (cs ++ '\r' :: '\n' :: (write rs).toList)
    refine ⟨r, rest, ?_, Nat.lt_of_lt_of_le hlt hle⟩
    rw [toList_write_cons, hcons, List.cons_append, State.read_cons fun hpair => hr hpair.1, hgoes]
    exact hread
  cases mode with
  | record => exact absurd rfl hrecord
  | quoted => exact absurd rfl hquoted
  | plain => exact hbegun (.inl rfl)
  | quote => exact hbegun (.inr rfl)
  | field =>
    -- nothing has been read of the last field, so that the first of the others takes its place
    obtain rfl : p = {} := hs rfl
    refine ⟨fields.reverse ++ (f :: g :: fs).map written,
      (readFrom .record {} [] (write rs).toList).records, ?_, ?_⟩
    · have hrow : writeFields (f :: g :: fs) = ",".intercalate ((f :: g :: fs).map writeField) := by
        rw [writeFields]
        simp
      rw [toList_write_cons, hrow]
      exact congrArg Reading.records (readFrom_fields f (g :: fs) fields (write rs).toList)
    · simp [extent, State.current, close, Begun.field, List.sum_reverse]
      omega

/-- Where the last line has no end, the last record of a text does not stay what it was. -/
theorem IsTable.not_append (h : IsTable text header rows) (hend : ¬ EndsLine text) {f g : String}
    {fs : List String} {rs : List (List String)} (hne : ∀ fields ∈ (f :: g :: fs) :: rs, fields ≠ [])
    (more : List (List String)) :
    ¬ IsTable (text ++ write ((f :: g :: fs) :: rs)) header (rows ++ more) := by
  obtain ⟨-, hquoted, hmode⟩ := h.mode_run
  have hrecord := mt hmode.1 hend
  have hsound : (({} : State).run text.toList).2.Sound := State.Sound.run (fun h => by cases h) _
  obtain ⟨r, others, hlater, hlt⟩ := exists_read_write hsound hrecord hquoted f g fs rs
  have hopen := State.current_ne_nil (({} : State).run text.toList).2
  obtain ⟨first, rest, hread, hheader, hrows⟩ := h
  rintro ⟨first', rest', hread', hheader', hrows'⟩
  rw [read_of_open hrecord] at hread
  rw [read_append_write text hne, Reading.prepend, hlater] at hread'
  generalize (({} : State).run text.toList).2.current = last at hread hlt hopen
  generalize (({} : State).run text.toList).1 = before at hread hread'
  have hdiffer : last.map (·.text) ≠ r.map (·.text) := fun h =>
    Nat.ne_of_lt hlt (extent_congr h)
  cases before with
  | nil =>
    -- the header itself was open
    obtain ⟨rfl, -⟩ := List.cons.inj (Reading.mk.inj hread).1
    obtain ⟨rfl, -⟩ := List.cons.inj (Reading.mk.inj hread').1
    exact hdiffer (hheader.trans hheader'.symm)
  | cons b bs =>
    simp only [List.cons_append, Reading.mk.injEq, List.cons.injEq] at hread hread'
    obtain ⟨⟨rfl, rfl⟩, -⟩ := hread
    obtain ⟨⟨rfl, rfl⟩, -⟩ := hread'
    have hr : r ≠ [] := by
      rintro rfl
      exact Nat.not_lt_zero _ hlt
    rw [← hrows, List.filter_append, List.filter_append,
      List.filter_cons_of_pos (by simpa using hr), List.filter_cons_of_pos (by simpa using hopen),
      List.map_append, List.map_append, List.append_assoc] at hrows'
    exact hdiffer (List.cons.inj (List.append_cancel_left hrows')).1.symm

end Continued

end Vivarium.Csv
