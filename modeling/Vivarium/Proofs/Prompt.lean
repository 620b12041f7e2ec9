import Vivarium.CommandLine.Simulate
import Vivarium.Proofs.Directory
import Vivarium.Proofs.Program.Messages
import Vivarium.Proofs.Text.Quoted

/-! A conversation goes pair by pair, a path and a colour, up to the first blank path. Every pair gives
a species or one line of complaint, and neither bears on what is read next. -/
namespace Vivarium

namespace Text

/-- A text that does not end the line that it is written in. -/
def Unbroken (s : String) : Prop := '\n' ∉ s.toList

instance : DecidablePred Unbroken := fun s => inferInstanceAs (Decidable ('\n' ∉ s.toList))

variable {s t : String}

@[simp] theorem unbroken_append : Unbroken (s ++ t) ↔ Unbroken s ∧ Unbroken t := by
  simp only [Unbroken, String.toList_append, List.mem_append, not_or]

theorem IsLine.unbroken (h : IsLine s) : Unbroken s := fun hmem => by
  simpa [isBreak] using h _ hmem

theorem Unbroken.trim (h : Unbroken s) : Unbroken (trim s) := fun hmem => h (mem_of_mem_trim hmem)

theorem Utf8Error.isLine_message (e : Utf8Error) : IsLine e.message := by
  have hfault : IsLine e.fault.text := by cases e.fault <;> decide
  unfold Utf8Error.message
  extract_lets place
  have hplace : IsLine place := by
    unfold place
    split
    · exact isLine_append.2 ⟨isLine_append.2 ⟨isLine_append.2 ⟨by decide, isLine_hex 2 _⟩,
        by decide⟩, isLine_toString _⟩
    · exact isLine_append.2 ⟨isLine_append.2 ⟨isLine_append.2 ⟨by decide, isLine_toString _⟩,
        by decide⟩, isLine_toString _⟩
  exact isLine_append.2 ⟨isLine_append.2 ⟨isLine_append.2 ⟨by decide, hplace⟩, by decide⟩, hfault⟩

end Text

open Text (Unbroken unbroken_append)

theorem FileFault.isLine_message (f : FileFault) : Text.IsLine f.message := by
  cases f with
  | nullCharacter => decide
  | missing path | occupied path | notFolder path | folder path | tooLong path =>
    exact Text.isLine_append.2 ⟨by decide, Text.isLine_quoted path⟩

theorem ReadFault.isLine_message : (f : ReadFault) → Text.IsLine f.message
  | .file fault => fault.isLine_message
  | .encoding error => error.isLine_message

/-- A file is not loaded because its path cannot name one, because it gives no text, or because its
text is no program. -/
theorem Species.load_eq_error {d : Directory} {path : String} {c : Colour} {e : SpeciesError}
    (h : load d path c = .error e) : (e = .badPath ∧ '\x00' ∈ path.toList) ∨
      (∃ fault, e = .unreadable path fault) ∨
      ∃ source f, Program.parse source = .error f ∧ e = .malformed f := by
  unfold load at h
  split at h
  · next hread =>
    unfold Directory.readText at hread
    split at hread
    · next hfault =>
      obtain rfl := ReadFault.file.inj (Except.error.inj hread)
      exact .inl ⟨(Except.error.inj h).symm, Directory.nul_mem_of_read hfault⟩
    · split at hread <;> cases hread
  · exact .inr (.inl ⟨_, (Except.error.inj h).symm⟩)
  · next source _ =>
    unfold ofSource at h
    split at h
    · next f hparse => exact .inr (.inr ⟨source, f, hparse, (Except.error.inj h).symm⟩)
    · cases h

theorem Simulate.inputLines_asLines {ls : List String} (h : ∀ l ∈ ls, Unbroken l) :
    Prompt.inputLines (asLines ls) = ls := by
  have hsplit : (asLines ls).toList.splitOn '\n' = ls.map String.toList ++ [[]] := by
    induction ls with
    | nil => rfl
    | cons l ls ih =>
      obtain ⟨hl, hls⟩ := List.forall_mem_cons.1 h
      have htext : (asLines (l :: ls)).toList = l.toList ++ '\n' :: (asLines ls).toList := by
        simp [asLines]
      rw [htext, List.splitOn_append_cons_self_of_not_mem hl, ih hls, List.map_cons,
        List.cons_append]
  simp [Prompt.inputLines, hsplit, Function.comp_def]

namespace Prompt

/-- No path is blank up to the pair numbered `n`. -/
def Reaches (lines : List String) (n : ℕ) : Prop :=
  ∀ k < n, ∀ line, lines[2 * k]? = some line → Text.trim line ≠ ""

/-- The first blank path comes after `n` pairs. -/
structure StopsAt (lines : List String) (n : ℕ) : Prop where
  reaches : Reaches lines n
  blank : ∃ line, lines[2 * n]? = some line ∧ Text.trim line = ""

/-- The first `n` paths, each with its colour, as far as there are such. -/
def pairs (lines : List String) (n : ℕ) : List (String × String) :=
  (List.range n).filterMap fun k => do
    return (Text.trim (← lines[2 * k]?), Text.trim (← lines[2 * k + 1]?))

/-- The species of a colour that is known and a file that can be loaded. -/
def species? (d : Directory) (pair : String × String) : Option Species := do
  (Species.load d pair.1 (← (Setting.colour pair.2).toOption)).toOption

/-- Why a pair gives no species. -/
inductive Refuses (d : Directory) (path colour : String) : String → Prop
  | unknownColour {e : SettingError} : Setting.colour colour = .error e →
      Refuses d path colour e.message
  | unreadable {c : Colour} {e : SpeciesError} : Setting.colour colour = .ok c →
      Species.load d path c = .error e → Refuses d path colour e.message

/-- One line of complaint for every pair without a species, in order. -/
def Complains (d : Directory) (pairs : List (String × String)) (said : List String) : Prop :=
  List.Forall₂ (fun pair line => ∃ message, Refuses d pair.1 pair.2 message ∧
      line = "[darwin] " ++ message ++ "; try again")
    (pairs.filter fun pair => (species? d pair).isNone) said

def asked (n : ℕ) : String := String.join (List.replicate n (askPath ++ askColour))

/-- What a pair adds to the conversation that comes after it. -/
def reply (d : Directory) (pair : String × String) (later : Conversation) : Conversation :=
  let out := askPath ++ askColour ++ later.out
  match answer d pair.1 pair.2 with
  | .badPath => ⟨askPath ++ askColour, [], .error .badPath⟩
  | .refused m => ⟨out, complaint m :: later.complaints, later.species⟩
  | .species s => ⟨out, later.complaints, later.species.map (s :: ·)⟩

variable {d : Directory} {lines rest : List String} {path colour : String} {n : ℕ}

section Reading

theorem run_cons_cons (hpath : Text.trim path ≠ "") : run d (path :: colour :: rest) =
    reply d (Text.trim path, Text.trim colour) (run d rest) := by
  cases hanswer : answer d (Text.trim path) (Text.trim colour) <;>
    simp only [run, if_neg hpath, reply, hanswer]

theorem run_cons_of_blank (hpath : Text.trim path = "") :
    run d (path :: rest) = ⟨askPath, [], .ok []⟩ := by
  rw [run.eq_def]
  exact if_pos hpath

theorem pairs_succ : pairs (path :: colour :: rest) (n + 1) =
    (Text.trim path, Text.trim colour) :: pairs rest n := by
  simp [pairs, List.range_succ_eq_map, List.filterMap_map, Nat.mul_add]

theorem Reaches.tail (h : Reaches (path :: colour :: rest) (n + 1)) : Reaches rest n :=
  fun k hk line hline => h (k + 1) (Nat.succ_lt_succ hk) line (by simpa [Nat.mul_add] using hline)

theorem Reaches.head (h : Reaches (path :: rest) (n + 1)) : Text.trim path ≠ "" :=
  h 0 n.succ_pos path rfl

/-- As long as no path is blank, the lines are read in pairs. -/
theorem run_eq_foldr (hreaches : Reaches lines n) (hlength : 2 * n ≤ lines.length) :
    run d lines = (pairs lines n).foldr (reply d) (run d (lines.drop (2 * n))) := by
  induction n generalizing lines with
  | zero => rfl
  | succ n ih =>
    match lines, hlength with
    | path :: colour :: rest, hlength =>
      have hlater : 2 * n ≤ rest.length := by
        simp only [List.length_cons] at hlength
        omega
      rw [run_cons_cons hreaches.head, ih hreaches.tail hlater, pairs_succ, List.foldr_cons,
        show 2 * (n + 1) = 2 * n + 2 from rfl, List.drop_succ_cons, List.drop_succ_cons]

theorem length_pairs (h : 2 * n ≤ lines.length) : (pairs lines n).length = n := by
  induction n generalizing lines with
  | zero => rfl
  | succ n ih =>
    match lines, h with
    | path :: colour :: rest, h =>
      rw [pairs_succ, List.length_cons, ih (by simp only [List.length_cons] at h; omega)]

theorem exists_of_mem_pairs {pair : String × String} (h : pair ∈ pairs lines n) :
    ∃ k < n, ∃ path colour, lines[2 * k]? = some path ∧ lines[2 * k + 1]? = some colour ∧
      pair = (Text.trim path, Text.trim colour) := by
  obtain ⟨k, hk, hpair⟩ := List.mem_filterMap.1 h
  simp only [Option.bind_eq_bind, Option.bind_eq_some_iff, pure, Option.some.injEq] at hpair
  obtain ⟨path, hpath, colour, hcolour, rfl⟩ := hpair
  exact ⟨k, List.mem_range.1 hk, path, colour, hpath, hcolour, rfl⟩

theorem reaches_or_stopsAt (lines : List String) :
    (∀ n, Reaches lines n) ∨ ∃ n, StopsAt lines n := by
  by_cases h : ∃ n, StopsAt lines n
  · exact .inr h
  · refine .inl fun n => ?_
    induction n with
    | zero => exact fun k hk => absurd hk k.not_lt_zero
    | succ n ih =>
      intro k hk line hline hblank
      rcases Nat.lt_succ_iff_lt_or_eq.1 hk with hk | rfl
      · exact ih k hk line hline hblank
      · exact h ⟨k, ih, line, hline, hblank⟩

end Reading

section Replies

variable {message : String} {pair : String × String} {ps : List (String × String)}
  {said : List String}

theorem answer_cases (d : Directory) (colour : String) (hnul : '\x00' ∉ path.toList) :
    (∃ s, answer d path colour = .species s ∧ species? d (path, colour) = some s) ∨
      ∃ m, answer d path colour = .refused m ∧ species? d (path, colour) = none ∧
        Refuses d path colour m := by
  cases hcolour : Setting.colour colour with
  | error e => exact .inr ⟨e.message, by simp [answer, hcolour],
      by simp [species?, hcolour, Except.toOption], .unknownColour hcolour⟩
  | ok c =>
    cases hload : Species.load d path c with
    | ok s => exact .inl ⟨s, by simp [answer, hcolour, hload],
        by simp [species?, hcolour, hload, Except.toOption]⟩
    | error e =>
      refine .inr ⟨e.message, ?_, by simp [species?, hcolour, hload, Except.toOption],
        .unreadable hcolour hload⟩
      cases e with
      | unreadable | malformed => simp [answer, hcolour, hload]
      | badPath =>
        obtain ⟨-, hmem⟩ | ⟨fault, h⟩ | ⟨source, f, -, h⟩ := Species.load_eq_error hload
        · exact absurd hmem hnul
        · cases h
        · cases h

theorem Complains.cons_of_isSome (hpair : (species? d pair).isSome) (h : Complains d ps said) :
    Complains d (pair :: ps) said := by
  rwa [Complains, List.filter_cons_of_neg (by simpa [Option.isSome_iff_ne_none] using hpair)]

theorem Complains.cons_of_refuses (hpair : species? d pair = none)
    (hwhy : Refuses d pair.1 pair.2 message) (h : Complains d ps said) :
    Complains d (pair :: ps) (complaint message :: said) := by
  rw [Complains, List.filter_cons_of_pos (by simp [hpair])]
  exact .cons ⟨message, hwhy, rfl⟩ h

/-- What is asked for and said of pairs comes before all that comes later, and so do their species. -/
theorem foldr_reply (hnul : ∀ pair ∈ ps, '\x00' ∉ pair.1.toList) (later : Conversation) :
    ∃ said, Complains d ps said ∧ ps.foldr (reply d) later =
      ⟨asked ps.length ++ later.out, said ++ later.complaints,
        later.species.map (ps.filterMap (species? d) ++ ·)⟩ := by
  induction ps with
  | nil =>
    obtain ⟨out, complaints, species⟩ := later
    exact ⟨[], .nil, by cases species <;> simp [asked, Except.map]⟩
  | cons pair ps ih =>
    obtain ⟨hpair, hps⟩ := List.forall_mem_cons.1 hnul
    obtain ⟨said, hsaid, hlater⟩ := ih hps
    have hasked : askPath ++ askColour ++ (asked ps.length ++ later.out) =
        asked (pair :: ps).length ++ later.out := by
      simp [asked, List.replicate_succ, String.append_assoc]
    obtain ⟨s, hs, hspecies⟩ | ⟨m, hm, hnone, hwhy⟩ :=
      answer_cases d pair.2 hpair
    · refine ⟨said, hsaid.cons_of_isSome (Option.isSome_of_eq_some hspecies), ?_⟩
      rw [List.foldr_cons, hlater, reply, hs]
      cases later.species <;> simp [Except.map, hasked, hspecies]
    · refine ⟨complaint m :: said, hsaid.cons_of_refuses hnone hwhy, ?_⟩
      rw [List.foldr_cons, hlater, reply, hm]
      simp [hasked, hnone]

theorem Refuses.unbroken (h : Refuses d path colour message) (hpath : Unbroken path)
    (hcolour : Unbroken colour) : Unbroken message := by
  cases h with
  | @unknownColour e he =>
    unfold Setting.colour at he
    split at he
    · obtain rfl := Except.error.inj he
      exact unbroken_append.2 ⟨unbroken_append.2 ⟨by decide, hcolour⟩, by decide⟩
    · cases he
  | @unreadable c e hc he =>
    obtain ⟨rfl, -⟩ | ⟨fault, rfl⟩ | ⟨source, f, hparse, rfl⟩ := Species.load_eq_error he
    · decide
    · exact unbroken_append.2 ⟨unbroken_append.2 ⟨unbroken_append.2 ⟨by decide, hpath⟩, by decide⟩,
        fault.isLine_message.unbroken⟩
    · exact (Program.isLine_of_parse_eq_error hparse).unbroken

end Replies

section Outcome

/-- The paths that are read can name a file. -/
def Nameable (lines : List String) : Prop :=
  ∀ k line, Reaches lines k → lines[2 * k]? = some line → '\x00' ∉ line.toList

theorem Nameable.of_mem_pairs (h : Nameable lines) (hreaches : Reaches lines n) :
    ∀ pair ∈ pairs lines n, '\x00' ∉ pair.1.toList := by
  intro pair hpair hnul
  obtain ⟨k, hk, path, colour, hpath, -, rfl⟩ := exists_of_mem_pairs hpair
  have hbefore : Reaches lines k := fun j hj => hreaches j (Nat.lt_trans hj hk)
  exact h k path hbefore hpath (Text.mem_of_mem_trim hnul)

theorem Complains.unbroken (h : Complains d (pairs lines n) said)
    (hlines : ∀ line ∈ lines, Unbroken line) : ∀ line ∈ said, Unbroken line := by
  intro line hline
  obtain ⟨i, hi, rfl⟩ := List.getElem_of_mem hline
  have hi' := List.Forall₂.length_eq h ▸ hi
  obtain ⟨m, hwhy, hm⟩ := List.Forall₂.get h hi' hi
  have hpair := (List.mem_filter.1 (List.get_mem _ ⟨i, hi'⟩)).1
  obtain ⟨k, -, path, colour, hpath, hcolour, htrim⟩ := exists_of_mem_pairs hpair
  rw [htrim] at hwhy
  have hmessage : Unbroken m := hwhy.unbroken (hlines path (List.mem_of_getElem? hpath)).trim
    (hlines colour (List.mem_of_getElem? hcolour)).trim
  rw [List.get_eq_getElem] at hm
  rw [hm]
  exact unbroken_append.2 ⟨unbroken_append.2 ⟨by decide, hmessage⟩, by decide⟩

theorem StopsAt.not_reaches (h : StopsAt lines n) {m : ℕ} (hm : n < m) : ¬ Reaches lines m :=
  have ⟨line, hline, hblank⟩ := h.blank
  fun hreaches => hreaches n hm line hline hblank

theorem StopsAt.unique {m : ℕ} (hm : StopsAt lines m) (hn : StopsAt lines n) : m = n :=
  Nat.le_antisymm (Nat.not_lt.1 fun h => hn.not_reaches h hm.reaches)
    (Nat.not_lt.1 fun h => hm.not_reaches h hn.reaches)

theorem StopsAt.lt_length (h : StopsAt lines n) : 2 * n < lines.length :=
  have ⟨_, hline, _⟩ := h.blank
  (List.getElem?_eq_some_iff.1 hline).1

theorem StopsAt.run_eq_foldr (h : StopsAt lines n) :
    run d lines = (pairs lines n).foldr (reply d) ⟨askPath, [], .ok []⟩ := by
  obtain ⟨line, hline, hblank⟩ := h.blank
  have hrest : lines.drop (2 * n) = line :: lines.drop (2 * n + 1) := by
    rw [List.drop_eq_getElem_cons h.lt_length, (List.getElem?_eq_some_iff.1 hline).2]
  rw [Prompt.run_eq_foldr h.reaches (Nat.le_of_lt h.lt_length), hrest, run_cons_of_blank hblank]

theorem StopsAt.run_congr {other : List String} (h : StopsAt lines n)
    (hsame : other.take (2 * n + 1) = lines.take (2 * n + 1)) : run d other = run d lines := by
  have hline : ∀ i ≤ 2 * n, other[i]? = lines[i]? := fun i hi => by
    simpa [List.getElem?_take, Nat.lt_succ_of_le hi] using congrArg (·[i]?) hsame
  have hpairs : pairs other n = pairs lines n := by
    refine List.filterMap_congr fun k hk => ?_
    have hk : k < n := List.mem_range.1 hk
    rw [hline (2 * k) (by omega), hline (2 * k + 1) (by omega)]
  have hother : StopsAt other n :=
    ⟨fun k hk line h' => h.reaches k hk line (hline (2 * k) (by omega) ▸ h'),
      hline (2 * n) (Nat.le_refl _) ▸ h.blank⟩
  rw [hother.run_eq_foldr, h.run_eq_foldr, hpairs]

theorem run_eq_foldr_of_reaches (h : ∀ n, Reaches lines n) :
    run d lines = (pairs lines (lines.length / 2)).foldr (reply d)
      ⟨askPath ++ if lines.length % 2 = 0 then "" else askColour, [], .error .endOfInput⟩ := by
  rw [run_eq_foldr (h _) (Nat.mul_div_le _ 2)]
  congr 1
  have hlength : (lines.drop (2 * (lines.length / 2))).length = lines.length % 2 := by
    rw [List.length_drop]
    omega
  -- an odd line at the end is a path whose colour is missing
  match hrest : lines.drop (2 * (lines.length / 2)), hlength with
  | [], hlength => simp [run, ← hlength]
  | [path], hlength =>
    have hpath : lines[2 * (lines.length / 2)]? = some path := by
      rw [← List.head?_drop, hrest, List.head?_cons]
    have hne := h _ _ (Nat.lt_succ_self _) path hpath
    simp [run, hne, ← hlength]
  | _ :: _ :: _, hlength =>
    simp only [List.length_cons] at hlength
    omega

theorem StopsAt.exists_run (h : StopsAt lines n) (hnul : Nameable lines) :
    ∃ said, Complains d (pairs lines n) said ∧
      run d lines = ⟨asked n ++ askPath, said, .ok ((pairs lines n).filterMap (species? d))⟩ := by
  obtain ⟨said, hsaid, hrun⟩ :=
    foldr_reply (d := d) (hnul.of_mem_pairs h.reaches) ⟨askPath, [], .ok []⟩
  refine ⟨said, hsaid, ?_⟩
  rw [h.run_eq_foldr, hrun, length_pairs (Nat.le_of_lt h.lt_length)]
  simp [Except.map]

theorem exists_run_of_reaches (h : ∀ n, Reaches lines n) (hnul : Nameable lines) :
    ∃ said, Complains d (pairs lines (lines.length / 2)) said ∧ run d lines =
      ⟨asked (lines.length / 2) ++ (askPath ++ if lines.length % 2 = 0 then "" else askColour), said,
        .error .endOfInput⟩ := by
  obtain ⟨said, hsaid, hrun⟩ := foldr_reply (d := d) (hnul.of_mem_pairs (h (lines.length / 2)))
    ⟨askPath ++ if lines.length % 2 = 0 then "" else askColour, [], .error .endOfInput⟩
  refine ⟨said, hsaid, ?_⟩
  rw [run_eq_foldr_of_reaches h, hrun, length_pairs (Nat.mul_div_le _ 2)]
  simp [Except.map]

/-- The conversation ends at the first blank path, with the species of the pairs before it, or else
where the input ends. -/
theorem run_until_blank (d : Directory) (lines : List String) (hnul : Nameable lines) :
    (∀ n, StopsAt lines n →
      (run d lines).species = .ok ((pairs lines n).filterMap (species? d)) ∧
      (run d lines).out = asked n ++ askPath ∧
      Complains d (pairs lines n) (run d lines).complaints ∧
      ∀ other : List String, other.take (2 * n + 1) = lines.take (2 * n + 1) →
        run d other = run d lines) ∧
    ((∀ n, Reaches lines n) →
      (run d lines).out = asked (lines.length / 2) ++
        (askPath ++ if lines.length % 2 = 0 then "" else askColour) ∧
      Complains d (pairs lines (lines.length / 2)) (run d lines).complaints) ∧
    ((run d lines).species = .error .endOfInput ↔ ∀ n, Reaches lines n) ∧
    (run d lines).species ≠ .error .badPath ∧
    ((∀ line ∈ lines, Unbroken line) →
      inputLines (Simulate.asLines (run d lines).complaints) = (run d lines).complaints) := by
  rcases reaches_or_stopsAt lines with h | ⟨n, h⟩
  · obtain ⟨said, hsaid, hrun⟩ := exists_run_of_reaches (d := d) h hnul
    rw [hrun]
    exact ⟨fun n hn => absurd (h (n + 1)) (hn.not_reaches n.lt_succ_self), fun _ => ⟨rfl, hsaid⟩,
      ⟨fun _ => h, fun _ => rfl⟩, by simp,
      fun hlines => Simulate.inputLines_asLines (hsaid.unbroken hlines)⟩
  · obtain ⟨said, hsaid, hrun⟩ := h.exists_run (d := d) hnul
    have hfirst : ¬ ∀ n, Reaches lines n := fun hall => h.not_reaches n.lt_succ_self (hall (n + 1))
    rw [hrun]
    refine ⟨fun m hm => ?_, fun hall => absurd hall hfirst, ?_, by simp,
      fun hlines => Simulate.inputLines_asLines (hsaid.unbroken hlines)⟩
    · obtain rfl : m = n := hm.unique h
      exact ⟨rfl, rfl, hsaid, fun other hsame => (h.run_congr hsame).trans hrun⟩
    · exact ⟨nofun, fun hall => absurd hall hfirst⟩

theorem run_until_blank_twice_refused :
    let d : Directory := ⟨[(["rover.txt"], .bytes "Rover\nhop".toUTF8),
      (["trap.txt"], .bytes "Trap\nleft".toUTF8)], []⟩
    let lines := ["rover.txt ", "red", "missing.txt", "red", "trap.txt", "nocolour", "trap.txt",
      "green", " ", "rover.txt"]
    Nameable lines ∧ StopsAt lines 4 ∧
      (run d lines).species.map (·.map Species.name) = .ok ["Rover", "Trap"] ∧
      (run d lines).complaints.length = 2 ∧
      inputLines (Simulate.asLines (run d lines).complaints) = (run d lines).complaints := by
  intro d lines
  have hall : ∀ line ∈ lines, '\x00' ∉ line.toList ∧ Unbroken line := by decide
  have hnul : Nameable lines := fun k line _ hline => (hall line (List.mem_of_getElem? hline)).1
  have hstop : StopsAt lines 4 := by
    refine ⟨fun k hk line hline => ?_, " ", rfl, by decide⟩
    have hpaths : ∀ k < 4, Text.trim (lines.getD (2 * k) "") ≠ "" := by decide
    have hpath := hpaths k hk
    rwa [List.getD_eq_getElem?_getD, hline] at hpath
  obtain ⟨hstops, -, -, -, hwritten⟩ := run_until_blank d lines hnul
  obtain ⟨hspecies, -, hcomplains, -⟩ := hstops 4 hstop
  have hnames : ((pairs lines 4).filterMap (species? d)).map Species.name = ["Rover", "Trap"] := by
    decide +kernel
  have hrefused : ((pairs lines 4).filter fun pair => (species? d pair).isNone).length = 2 := by
    decide +kernel
  refine ⟨hnul, hstop, ?_, ?_, hwritten fun line hline => (hall line hline).2⟩
  · rw [hspecies, Except.map, hnames]
  · rw [← hrefused]
    exact hcomplains.length_eq.symm

end Outcome

end Prompt
end Vivarium
