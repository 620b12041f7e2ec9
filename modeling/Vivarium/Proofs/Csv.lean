import Mathlib.Data.List.Basic
import Vivarium.Csv.Reader
import Vivarium.Csv.Writer

/-!
Records that are written are read back: a field that holds a separator stands in quotes, and inside
these a separator is a character like any other.
-/
namespace Vivarium.Csv

/-- How a field is found that has been written. -/
def written (f : String) : Field := ⟨f, f.toList.any isSpecial⟩

/-- How a record is found that has been written; a lone empty field is in quotes. -/
def writtenRecord : List String → List Field
  | [""] => [⟨"", true⟩]
  | fields => fields.map written

theorem text_writtenRecord (fields : List String) :
    (writtenRecord fields).map (·.text) = fields := by
  unfold writtenRecord
  split
  · rfl
  · simp [Function.comp_def, written]

section Characters

variable (p : Begun) (fields : List Field) (cs : List Char)

theorem readFrom_quoted_cons {c : Char} (hc : c ≠ '"') :
    readFrom .quoted p fields (c :: cs) = readFrom .quoted (p.push c) fields cs := by
  by_cases h : c = '\r' ∧ ∃ ds, cs = '\n' :: ds
  · obtain ⟨rfl, ds, rfl⟩ := h
    rw [readFrom, readFrom]
    · rfl
    · simp
  · rw [readFrom, if_neg hc]
    exact fun ds hr hn => h ⟨hr, ds, hn⟩

theorem readFrom_quoted_quote :
    readFrom .quoted p fields ('"' :: cs) = readFrom .quote p fields cs := by
  rw [readFrom, if_pos rfl]
  simp

theorem readFrom_quote_quote :
    readFrom .quote p fields ('"' :: cs) = readFrom .quoted (p.push '"') fields cs := by
  rw [readFrom, if_neg (by decide), if_pos rfl]
  simp

theorem readFrom_field_quote :
    readFrom .field p fields ('"' :: cs) = readFrom .quoted { quoted := true } fields cs := by
  rw [readFrom, if_neg (by decide), if_pos rfl]
  simp

variable {c : Char} (hc : isSpecial c = false)

include hc in
theorem ne_of_not_special : c ≠ '\r' ∧ c ≠ '\n' ∧ c ≠ '"' ∧ c ≠ ',' := by
  refine ⟨?_, ?_, ?_, ?_⟩ <;> rintro rfl <;> cases hc

include hc in
theorem readFrom_field_cons :
    readFrom .field p fields (c :: cs) = readFrom .plain { chars := [c] } fields cs := by
  obtain ⟨hr, hn, hq, hcomma⟩ := ne_of_not_special hc
  rw [readFrom, if_neg (not_or.2 ⟨hr, hn⟩), if_neg hq, if_neg hcomma]
  exact fun _ h => absurd h hr

include hc in
theorem readFrom_plain_cons :
    readFrom .plain p fields (c :: cs) = readFrom .plain (p.push c) fields cs := by
  obtain ⟨hr, hn, -, hcomma⟩ := ne_of_not_special hc
  rw [readFrom, if_neg (not_or.2 ⟨hr, hn⟩), if_neg hcomma]
  exact fun _ h => absurd h hr

theorem readFrom_record_eq_field {c : Char} (hr : c ≠ '\r') (hn : c ≠ '\n') :
    readFrom .record p fields (c :: cs) = readFrom .field {} [] (c :: cs) := by
  rw [readFrom, readFrom, if_neg (not_or.2 ⟨hr, hn⟩), if_neg (not_or.2 ⟨hr, hn⟩)]
  all_goals exact fun _ h => absurd h hr

end Characters

/-- A field may be over here: nothing of it has been read yet, or it is plain, or its quotes are
closed. -/
inductive MayEnd : Mode → Begun → Prop
  | field : MayEnd .field {}
  | plain (p : Begun) : MayEnd .plain p
  | quote (p : Begun) : MayEnd .quote p

section Ends

variable {mode : Mode} {p : Begun} (h : MayEnd mode p) (fields : List Field) (cs : List Char)

include h in
theorem readFrom_comma :
    readFrom mode p fields (',' :: cs) = readFrom .field {} (p.field :: fields) cs := by
  cases h <;> rw [readFrom, if_neg (by decide)] <;> simp [Begun.field]

include h in
theorem readFrom_end : readFrom mode p fields ('\r' :: '\n' :: cs) =
    (readFrom .record {} [] cs).cons (close p fields) := by
  cases h <;> rw [readFrom] <;> simp

end Ends

theorem readFrom_doubleQuotes (ds : List Char) (p : Begun) (fields : List Field) (cs : List Char) :
    readFrom .quoted p fields (doubleQuotes ds ++ '"' :: cs) =
      readFrom .quote { p with chars := ds.reverse ++ p.chars } fields cs := by
  induction ds generalizing p with
  | nil => exact readFrom_quoted_quote p fields cs
  | cons d ds ih =>
    by_cases hd : d = '"'
    · subst hd
      rw [doubleQuotes, if_pos rfl, List.cons_append, List.cons_append, readFrom_quoted_quote,
        readFrom_quote_quote, ih]
      simp [Begun.push]
    · rw [doubleQuotes, if_neg hd, List.cons_append, readFrom_quoted_cons _ _ _ hd, ih]
      simp [Begun.push]

theorem readFrom_plain {ds : List Char} (hds : ds.any isSpecial = false) (p : Begun)
    (fields : List Field) (cs : List Char) :
    readFrom .plain p fields (ds ++ cs) =
      readFrom .plain { p with chars := ds.reverse ++ p.chars } fields cs := by
  induction ds generalizing p with
  | nil => rfl
  | cons d ds ih =>
    obtain ⟨hd, hds⟩ := Bool.or_eq_false_iff.1 (List.any_cons ▸ hds)
    rw [List.cons_append, readFrom_plain_cons _ _ _ hd, ih hds]
    simp [Begun.push]

/-- A field is read as it was written, up to where it may be over. -/
theorem readFrom_writeField (f : String) (fields : List Field) :
    ∃ mode p, MayEnd mode p ∧ p.field = written f ∧ ∀ cs,
      readFrom .field {} fields ((writeField f).toList ++ cs) = readFrom mode p fields cs := by
  unfold writeField
  cases hspecial : f.toList.any isSpecial with
  | true =>
    refine ⟨.quote, ⟨f.toList.reverse, true⟩, .quote _, by simp [Begun.field, written, hspecial],
      fun cs => ?_⟩
    rw [if_pos rfl, String.toList_ofList, List.cons_append, List.cons_append, List.append_assoc,
      readFrom_field_quote, List.singleton_append, readFrom_doubleQuotes]
    simp
  | false =>
    rw [if_neg Bool.false_ne_true]
    cases hf : f.toList with
    | nil =>
      refine ⟨.field, {}, .field, ?_, fun cs => rfl⟩
      simp [Begun.field, written, String.toList_eq_nil_iff.1 hf]
    | cons c ds =>
      rw [hf] at hspecial
      obtain ⟨hc, hds⟩ := Bool.or_eq_false_iff.1 (List.any_cons ▸ hspecial)
      refine ⟨.plain, ⟨(c :: ds).reverse, false⟩, .plain _, ?_, fun cs => ?_⟩
      · simp [Begun.field, written, ← hf, hf ▸ hspecial]
      · rw [List.cons_append, readFrom_field_cons _ _ _ hc, readFrom_plain hds]
        simp

/-- A record is read as it was written, and what follows it is read on its own. -/
theorem readFrom_fields (f : String) (fs : List String) (fields : List Field) (cs : List Char) :
    readFrom .field {} fields
        ((",".intercalate ((f :: fs).map writeField)).toList ++ '\r' :: '\n' :: cs) =
      (readFrom .record {} [] cs).cons (fields.reverse ++ (f :: fs).map written) := by
  obtain ⟨mode, p, hend, hfield, hread⟩ := readFrom_writeField f fields
  induction fs generalizing f fields mode p with
  | nil =>
    simp only [List.map_cons, List.map_nil, String.intercalate_singleton, hread,
      readFrom_end hend, close, hfield, List.reverse_cons]
  | cons g gs ih =>
    obtain ⟨mode', p', hend', hfield', hread'⟩ := readFrom_writeField g (written f :: fields)
    have hrest := ih g (written f :: fields) mode' p' hend' hfield' hread'
    simp only [List.map_cons, List.reverse_cons, List.append_assoc, List.singleton_append] at hrest
    simp only [List.map_cons, String.intercalate_cons_cons, String.toList_append, List.append_assoc,
      hread]
    rw [show ",".toList = [','] from rfl, List.singleton_append, readFrom_comma hend, hfield, hrest]

theorem exists_cons_writeFields {fields : List String} (h : fields ≠ []) :
    ∃ c cs, (writeFields fields).toList = c :: cs ∧ c ≠ '\r' ∧ c ≠ '\n' := by
  have hwritten (f : String) : (writeField f).toList = [] ∧ f = "" ∨
      ∃ c cs, (writeField f).toList = c :: cs ∧ c ≠ '\r' ∧ c ≠ '\n' := by
    unfold writeField
    cases hspecial : f.toList.any isSpecial with
    | true => exact .inr ⟨'"', _, String.toList_ofList, by decide, by decide⟩
    | false =>
      rw [if_neg Bool.false_ne_true]
      cases hf : f.toList with
      | nil => exact .inl ⟨rfl, String.toList_eq_nil_iff.1 hf⟩
      | cons c cs =>
        rw [hf] at hspecial
        obtain ⟨hr, hn, -⟩ := ne_of_not_special (Bool.or_eq_false_iff.1 (List.any_cons ▸ hspecial)).1
        exact .inr ⟨c, cs, rfl, hr, hn⟩
  unfold writeFields
  split
  · exact ⟨'"', ['"'], rfl, by decide, by decide⟩
  · next hlone =>
    cases fields with
    | nil => exact absurd rfl h
    | cons f fs =>
      cases fs with
      | nil =>
        rcases hwritten f with ⟨-, rfl⟩ | hcons
        · exact absurd rfl hlone
        · simpa using hcons
      | cons g gs =>
        simp only [List.map_cons, String.intercalate_cons_cons, String.toList_append]
        rcases hwritten f with ⟨hnil, -⟩ | ⟨c, cs, hcons, hc⟩
        · exact ⟨',', _, by rw [hnil]; rfl, by decide, by decide⟩
        · exact ⟨c, _, by rw [hcons]; rfl, hc⟩

theorem readFrom_writeRecord (fields : List String) (cs : List Char) :
    readFrom .record {} [] ((writeRecord fields).toList ++ cs) =
      (readFrom .record {} [] cs).cons (writtenRecord fields) := by
  rw [writeRecord, String.toList_append, List.append_assoc]
  change readFrom .record {} [] (_ ++ '\r' :: '\n' :: cs) = _
  by_cases hnil : fields = []
  · subst hnil
    rw [writeFields]
    · simp only [List.map_nil, String.intercalate_nil, String.toList_empty, List.nil_append]
      rw [readFrom]
      rfl
    · simp
  · obtain ⟨c, ds, hcons, hr, hn⟩ := exists_cons_writeFields hnil
    rw [hcons, List.cons_append, readFrom_record_eq_field _ _ _ hr hn, ← List.cons_append, ← hcons]
    unfold writeFields writtenRecord
    split
    · change readFrom .field {} [] ('"' :: '"' :: '\r' :: '\n' :: cs) = _
      rw [readFrom_field_quote, readFrom_quoted_quote, readFrom_end (.quote _)]
      rfl
    · next hlone =>
      cases fields with
      | nil => exact absurd rfl hnil
      | cons f fs => simpa using readFrom_fields f fs [] cs

/-- Records that were written one after another are read one after another. -/
theorem read_write (records : List (List String)) :
    read (write records) = ⟨records.map writtenRecord, false⟩ := by
  unfold read write
  induction records with
  | nil => rw [List.map_nil, String.join_nil, String.toList_empty, readFrom, if_pos rfl, List.map_nil]
  | cons fields records ih =>
    rw [List.map_cons, String.join_cons, String.toList_append, readFrom_writeRecord, ih]
    rfl

theorem filter_writtenRecord {rs : List (List String)} (h : ∀ fields ∈ rs, fields ≠ []) :
    (rs.map writtenRecord).filter (!·.isEmpty) = rs.map writtenRecord := by
  refine List.filter_eq_self.2 (List.forall_mem_map.2 fun fields hfields => ?_)
  have htext := text_writtenRecord fields
  cases hrecord : writtenRecord fields with
  | nil =>
    rw [hrecord] at htext
    exact absurd htext.symm (h fields hfields)
  | cons f fs => rfl

theorem texts_writtenRecord (rs : List (List String)) :
    (rs.map writtenRecord).map (·.map (·.text)) = rs := by
  rw [List.map_map]
  exact (List.map_congr_left fun fields _ => text_writtenRecord fields).trans (List.map_id _)

theorem records_write {rs : List (List String)} (h : ∀ fields ∈ rs, fields ≠ []) :
    records (write rs) = rs := by
  rw [records, read_write, filter_writtenRecord h, texts_writtenRecord]

end Vivarium.Csv
