import Vivarium.CommandLine.Simulate
import Vivarium.Proofs.Reports

/-!
Runs from the command line that show nothing: what they print, their ledger and their recording tell
of the same rounds of one simulation.
-/
namespace Vivarium

namespace Populate

theorem each_keeps (species : List Nat) (w : World) (chance : Chance) :
    (each species w chance).world.species = w.species ∧
      (each species w chance).chance.orders = chance.orders := by
  induction species generalizing w chance with
  | nil => exact ⟨rfl, rfl⟩
  | cons id rest ih =>
    have hpos : (w.randomPos chance).2.orders = chance.orders := by
      simp only [World.randomPos, Chance.orders_below]
    simp only [each]
    generalize w.randomPos chance = drawn at hpos ⊢
    obtain ⟨p, chance'⟩ := drawn
    have hheading : chance'.heading.2.orders = chance.orders := by
      simp only [Chance.heading, Chance.orders_below]
      exact hpos
    generalize chance'.heading = drawn at hheading ⊢
    obtain ⟨heading, chance''⟩ := drawn
    refine Episode.andThen_keeps
      (P := fun v c => v.species = w.species ∧ c.orders = chance.orders) ⟨?_, hheading⟩ ?_
    · change (w.spawn id p heading).world.species = w.species
      rw [World.world_spawn]
    · rintro _ v c ⟨hv, hc⟩
      exact ⟨(ih v c).1.trans hv, (ih v c).2.trans hc⟩

end Populate

/-- A species that is fit for a run: its program can run, and its colour fits three bytes. -/
structure Species.Fit (s : Species) : Prop where
  wellFormed : s.program.WellFormed
  colour : ∀ n ∈ s.colour.components, 0 ≤ n ∧ n ≤ 255

theorem Species.fit_of_load {d : Directory} {path name : String} {c : Colour} {s : Species}
    (hc : Setting.colour name = .ok c) (h : Species.load d path c = .ok s) : s.Fit := by
  obtain ⟨source, hs⟩ : ∃ source, Species.ofSource source c = .ok s := by
    unfold Species.load at h
    split at h
    · cases h
    · cases h
    · exact ⟨_, h⟩
  refine ⟨ofSource_wellFormed hs, ?_⟩
  have hcolour : s.colour = c := by
    unfold ofSource at hs
    split at hs
    · cases hs
    · exact congrArg Species.colour (Except.ok.inj hs).symm
  unfold Setting.colour at hc
  split at hc
  · cases hc
  · next c' hname =>
    obtain rfl := Except.ok.inj hc
    exact hcolour ▸ Colour.component_bounds hname

theorem Setting.colour_of_species {argument path : String} {c : Colour}
    (h : Setting.species argument = .ok (path, c)) : ∃ name, Setting.colour name = .ok c := by
  unfold Setting.species at h
  extract_lets cs name at h
  split at h
  · split at h
    · cases h
    · refine ⟨.ofList name, ?_⟩
      cases hc : Setting.colour (.ofList name) with
      | error e => simp [hc, Except.map] at h
      | ok c' =>
        rw [hc] at h
        obtain ⟨-, rfl⟩ := Prod.mk.inj (Except.ok.inj h)
        rfl
  · cases h

namespace Simulate

theorem fit_of_loadAll {d : Directory} {arguments : List (Option String)} {species : List Species}
    (h : loadAll d arguments = .ok species) : ∀ s ∈ species, s.Fit := by
  induction arguments generalizing species with
  | nil =>
    obtain rfl := Except.ok.inj h
    simp
  | cons argument rest ih =>
    cases argument with
    | none => cases h
    | some argument =>
      simp only [loadAll] at h
      cases hargument : Setting.species argument with
      | error e => simp [hargument] at h
      | ok named =>
        obtain ⟨path, c⟩ := named
        obtain ⟨name, hc⟩ := Setting.colour_of_species hargument
        simp only [hargument] at h
        cases hload : Species.load d path c with
        | error e => simp [hload] at h
        | ok s =>
          simp only [hload] at h
          cases hrest : loadAll d rest with
          | error e => simp [hrest, Except.map] at h
          | ok others =>
            rw [hrest] at h
            obtain rfl := Except.ok.inj h
            exact List.forall_mem_cons.2 ⟨Species.fit_of_load hc hload, ih hrest⟩

theorem fit_of_answer {d : Directory} {path colour : String} {s : Species}
    (h : Prompt.answer d path colour = .species s) : s.Fit := by
  unfold Prompt.answer at h
  split at h
  · cases h
  · next c hc =>
    split at h
    · cases h
    · cases h
    · next s' hload =>
      obtain rfl := Prompt.Answer.species.inj h
      exact Species.fit_of_load hc hload

theorem fit_of_prompt {d : Directory} {lines : List String} {species : List Species}
    (h : (Prompt.run d lines).species = .ok species) : ∀ s ∈ species, s.Fit := by
  fun_induction Prompt.run d lines generalizing species with
  | case1 => cases h
  | case2 =>
    obtain rfl := Except.ok.inj h
    simp
  | case3 => cases h
  | case4 => cases h
  | case5 =>
    rename_i ih
    exact ih h
  | case6 =>
    rename_i later _ _ hanswer ih
    cases hlater : later.species with
    | error e => simp [hlater, Except.map] at h
    | ok others =>
      rw [hlater] at h
      obtain rfl := Except.ok.inj h
      exact List.forall_mem_cons.2 ⟨fit_of_answer hanswer, ih hlater⟩

/-- How the species of a run are had, and what is said until they are: by their arguments, or on
asking for them. -/
inductive Enrols (around : Surroundings) :
    List (Option String) → List Species → String → Prop
  | named {arguments : List (Option String)} {species : List Species} : arguments ≠ [] →
      loadAll around.directory arguments = .ok species → Enrols around arguments species ""
  | asked {talk : Prompt.Conversation} {species : List Species} :
      Prompt.run around.directory (Prompt.inputLines around.input) = talk →
      talk.species = .ok species → Enrols around [] species talk.out

theorem Enrols.fit {around : Surroundings} {arguments : List (Option String)}
    {species : List Species} {said : String} (h : Enrols around arguments species said) :
    ∀ s ∈ species, s.Fit := by
  cases h with
  | named _ h => exact fit_of_loadAll h
  | asked htalk h => exact fit_of_prompt (htalk ▸ h)

theorem Enrols.withSettings {around : Surroundings} {s : Settings} {species : List Species}
    {said : String} (h : Enrols around s.species species said) :
    ∃ err, Simulate.withSettings s around = withSpecies s around species
      { out := said, err, directory := around.directory, ending := .code 0 } := by
  unfold Simulate.withSettings
  generalize s.species = arguments at h
  cases h with
  | named hne h => exact ⟨"", by simp [hne, h]⟩
  | asked htalk h => exact ⟨_, by simp only [htalk, h]; rfl⟩

theorem world_of_settings {s : Settings} {w : World} (h : s.world = .ok w) :
    0 < w.grid.width ∧ 0 < w.grid.height ∧ w.Vacant := by
  obtain ⟨width, height, hw⟩ : ∃ width height, World.create? width height = some w := by
    unfold Settings.world at h
    split at h
    · next width height _ _ =>
      refine ⟨width, height, ?_⟩
      unfold Setting.world at h
      cases hc : World.create? width height with
      | none => simp [hc, Except.mapError] at h
      | some v => simpa [hc, Except.mapError] using h
    · cases h
    · cases h
  have hvacant := World.vacant_of_create? hw
  unfold World.create? at hw
  split at hw
  · cases hw
  · next hsize =>
    obtain rfl := Option.some.inj hw
    simp only [Grid.empty]
    exact ⟨by omega, by omega, hvacant⟩

/-- A command line that rounds are run by, without a display. -/
structure Accepted (argv : List String) (around : Surroundings) where
  settings : Settings
  species : List Species
  /-- What is printed before the first round. -/
  said : String
  world : World
  perSpecies : Int
  seed : Int
  rounds : Int
  read : settings? argv = .ok (some settings)
  hidden : settings.display = false
  unlisted : settings.showPrograms = false
  enrols : Enrols around settings.species species said
  peopled : species ≠ []
  sized : settings.world = .ok world
  perSpecies_eq : settings.perSpecies = some perSpecies
  seed_eq : settings.seed = some seed
  rounds_eq : settings.rounds = some rounds

namespace Accepted

variable {argv : List String} {around : Surroundings} (a : Accepted argv around)

def start : Episode (List Nat) :=
  Populate.run (List.range a.species.length) a.perSpecies.toNat
    { a.world with species := a.species } (.ofSeed a.seed)

def labels : List String := Census.labels (a.species.map (·.name))

theorem species_start : a.start.world.species = a.species := (Populate.each_keeps ..).1

theorem fair_start (n : Nat) : a.start.chance.Fair n := by
  have horders : a.start.chance.orders = [] := (Populate.each_keeps ..).2
  rw [Chance.Fair, horders]
  simp

theorem start_completes : (∃ ids, a.start.result = .ok ids) ∧ a.start.world.Sound := by
  obtain ⟨hwidth, hheight, hvacant⟩ := world_of_settings a.sized
  have hsound : { a.world with species := a.species }.Sound :=
    ⟨hwidth, hheight, fun s hs => (a.enrols.fit s hs).wellFormed, by simp [hvacant.creatures],
      hvacant.truthful⟩
  have hcompletes : a.start.Completes { a.world with species := a.species } :=
    Populate.run_completes hsound (fun id hid => List.mem_range.1 hid) _ _
  exact ⟨hcompletes.ok, hcompletes.sound hsound⟩

theorem run_eq : ∃ err, run argv around = headless a.settings around a.start a.rounds
    { out := a.said, err, directory := around.directory, ending := .code 0 } := by
  obtain ⟨err, herr⟩ := a.enrols.withSettings
  obtain ⟨ids, hids⟩ := a.start_completes.1
  have hsettled : settle a.settings a.species a.seed = .ok a.start := by
    simp only [settle, a.sized, a.perSpecies_eq]
    rfl
  refine ⟨err, ?_⟩
  have hworld (before : Report) : withWorld a.settings around a.species before =
      .ok (headless a.settings around a.start a.rounds before) := by
    simp only [withWorld, required, a.seed_eq, a.hidden, hsettled, bind, Except.bind]
    simp only [Bool.false_eq_true, if_false, hids, a.rounds_eq, Except.mapError]
    rfl
  simp [run, a.read, herr, withSpecies, a.peopled, a.unlisted, hworld]

/-- These are the rounds of the simulation, each with the world at its end. -/
def Simulates (rounds : List Counting) : Prop :=
  (Round.runMany (fun t w => .ok (t, w)) 1 a.rounds.toNat a.start.world a.start.chance).result =
    .ok (rounds.map fun g => (g.tally, g.world))

def opening : Headless where
  world := a.start.world
  chance := a.start.chance
  ledger := some a.settings.ledger
  session := around.session
  recording := .new true
  directory := around.directory

def farewell (rounds : List Counting) : String :=
  if rounds = [] then Recording.nothingToSave
  else (Recording.ofRounds rounds).savedText a.settings.recording

end Accepted

/-- A new ledger can be written, and a recording when it is there. -/
structure Clear (d : Directory) (ledger recording : String) : Prop where
  new : Ledger.held ledger d = none
  writable : d.Writable ledger
  named : recording ≠ ""
  beside : ∀ e, Ledger.append d ledger [] = (e, .ok ()) →
    e.Writable (Recording.fileName recording)

namespace Accepted

variable {argv : List String} {around : Surroundings} {a : Accepted argv around}

theorem ready (hwritable : around.directory.Writable a.settings.ledger)
    (hfew : a.species.length ≤ Recording.greatestNumber + 1) :
    a.opening.Ready a.settings.ledger where
  sound := a.start_completes.2
  fair := a.fair_start _
  few := a.species_start ▸ hfew
  ledger := rfl
  writable := hwritable
  recording := ⟨rfl, rfl⟩

namespace Simulates

variable {rounds : List Counting} (h : a.Simulates rounds)

include h

theorem numbers : rounds.map (·.tally.round) =
    (List.range a.rounds.toNat).map fun i : Nat => 1 + (i : Int) := by
  have hnumbers := Round.numbers_runMany h
  rwa [List.map_map] at hnumbers

theorem length : rounds.length = a.rounds.toNat := by
  simpa using congrArg List.length h.numbers

theorem ne_nil (hrounds : 0 < a.rounds) : rounds ≠ [] := by
  rw [Ne, ← List.length_eq_zero_iff, h.length]
  omega

theorem species {g : Counting} (hg : g ∈ rounds) : g.world.species = a.species := by
  have hsettled := Round.runMany_settled a.start_completes.2.known h
  exact (hsettled _ (List.mem_map_of_mem hg)).2.1.trans a.species_start

end Simulates

theorem exists_archive {rounds : List Counting} {h : Headless}
    (hreports : a.opening.Reports a.settings.ledger rounds h) (hsimulated : a.Simulates rounds)
    (hfew : a.rounds ≤ Recording.greatestNumber) :
    ∃ archive, (Recording.ofRounds rounds).archive h.world = .ok archive ∧
      (Recording.ofRounds rounds).Archived a.start.world archive := by
  have hbounds : ∀ n ∈ (Recording.ofRounds rounds).rounds, -2147483648 ≤ n ∧ n ≤ 2147483647 := by
    intro n hn
    rw [Recording.rounds_ofRounds, hsimulated.numbers] at hn
    obtain ⟨i, hi, rfl⟩ := List.mem_map.1 hn
    have hlt := List.mem_range.1 hi
    simp only [Recording.greatestNumber] at hfew
    omega
  have hcolours : ∀ s ∈ h.world.species, ∀ n ∈ s.colour.components, 0 ≤ n ∧ n ≤ 255 := by
    intro s hs
    rw [hreports.species] at hs
    exact (a.enrols.fit s (a.species_start ▸ hs)).colour
  obtain ⟨archive, harchive, htold⟩ := Recording.exists_archive hbounds hcolours
  refine ⟨archive, harchive, htold.rounds, ?_, ?_⟩
  · rw [htold.occupancy, hreports.size.1, hreports.size.2]
    rfl
  · rw [htold.headings, hreports.size.1, hreports.size.2]
    rfl

/-- All rounds are over and reported when the recording comes to be saved. -/
theorem run_eq_saveAt (hwritable : around.directory.Writable a.settings.ledger)
    (hnamed : a.settings.recording ≠ "")
    (hspecies : a.species.length ≤ Recording.greatestNumber + 1) :
    ∃ rounds h err, a.opening.Reports a.settings.ledger rounds h ∧ a.Simulates rounds ∧
      run argv around = saveAt (Recording.ofRounds rounds) a.settings.recording h.world
        { out := a.said ++ asLines (rounds.map (·.summary.line)), err, directory := h.directory,
          ending := .code 0 } := by
  obtain ⟨err, hrun⟩ := a.run_eq
  obtain ⟨rounds, h, hran, hreports, hsimulated⟩ :=
    (ready hwritable hspecies).rounds 1 a.rounds.toNat
  have hopening : ({
      world := a.start.world, chance := a.start.chance, ledger := named? a.settings.ledger
      session := around.session, recording := .new (a.settings.recording ≠ "")
      directory := around.directory } : Headless) = a.opening := by
    simp [opening, named?, hwritable.ne_empty, hnamed]
  have hrecording : h.recording = Recording.ofRounds rounds := hreports.recording
  have hout : h.out = rounds.map (·.summary.line) := hreports.out
  refine ⟨rounds, h, err ++ asLines (h.notices.map (·.text)), hreports, hsimulated, ?_⟩
  rw [hrun, headless, hopening, hran]
  simp only [hrecording, hout]

theorem run_saved (hclear : Clear around.directory a.settings.ledger a.settings.recording)
    (hspecies : a.species.length ≤ Recording.greatestNumber + 1)
    (hrounds : a.rounds ≤ Recording.greatestNumber) :
    ∃ rounds h, a.opening.Reports a.settings.ledger rounds h ∧ a.Simulates rounds ∧
      (run argv around).ending = .code 0 ∧
      (run argv around).out =
        a.said ++ asLines (rounds.map (·.summary.line)) ++ a.farewell rounds ++ "\n" ∧
      if rounds = [] then (run argv around).directory = around.directory
      else ∃ archive, (Recording.ofRounds rounds).Archived a.start.world archive ∧
        (Recording.ofRounds rounds).save h.world h.directory a.settings.recording =
          ((run argv around).directory, .ok ()) ∧
        Ledger.held (Recording.fileName a.settings.recording) (run argv around).directory =
          some (.arrays archive) := by
  obtain ⟨rounds, h, err, hreports, hsimulated, hrun⟩ :=
    run_eq_saveAt hclear.writable hclear.named hspecies
  obtain ⟨first, hfirst⟩ := Ledger.append_of_writable hclear.writable []
  have halike := hreports.ledger.alike hfirst
  refine ⟨rounds, h, hreports, hsimulated, ?_⟩
  rw [hrun]
  simp only [saveAt, if_neg hclear.named]
  by_cases hnone : rounds = []
  · subst hnone
    simp only [List.map_nil, if_true] at halike
    simp only [farewell, if_true]
    exact ⟨rfl, rfl, halike⟩
  · rw [if_neg (by simpa using hnone)] at halike
    obtain ⟨archive, harchive, htold⟩ := exists_archive hreports hsimulated hrounds
    obtain ⟨e, hsave, hheld⟩ := Recording.save_of_writable
      (halike.writable (hclear.beside first hfirst)) harchive
    simp only [Recording.isEmpty_ofRounds hnone, hsave, farewell, if_neg hnone, Bool.false_eq_true,
      if_false]
    exact ⟨trivial, trivial, archive, htold, trivial, hheld⟩

/-- All that a run puts out is told of these rounds. The line, the rows and the frame of a round are
made of its own tally, and of the world at its end. -/
structure Told (a : Accepted argv around) (rounds : List Counting) (r : Report) : Prop where
  simulated : a.Simulates rounds
  numbers : rounds.map (·.tally.round) =
    (List.range a.rounds.toNat).map fun i : Nat => 1 + (i : Int)
  counts : ∀ g ∈ rounds, g.counts =
    a.labels.zip ((List.range a.species.length).map g.world.population)
  ending : r.ending = .code 0
  lines : r.out = a.said ++ asLines (rounds.map (·.summary.line)) ++ a.farewell rounds ++ "\n"
  /-- Without rounds there are no new files. -/
  directory : rounds = [] → r.directory = around.directory
  ledger : rounds ≠ [] → Ledger.held a.settings.ledger r.directory =
    some (.bytes (Csv.write (Ledger.fieldNames ::
      (rounds.flatMap (·.rows around.session)).map (·.fields))).toUTF8)
  length_rows : (rounds.flatMap (·.rows around.session)).length =
    a.rounds.toNat * a.species.length
  recording : rounds ≠ [] → ∃ archive,
    Ledger.held (Recording.fileName a.settings.recording) r.directory = some (.arrays archive) ∧
      (Recording.ofRounds rounds).Archived a.start.world archive
  /-- Sixteen bits are enough for so many species. -/
  species : a.species.length ≤ 32768 → ∀ g ∈ rounds,
    g.frame.speciesNumbers = g.world.occupancy.flatten.map Recording.cellNumber

/-- What a run prints, its ledger and its recording tell of the same rounds in the same order, as long
as the two files can be written beside each other and the numbers fit the recording. -/
theorem run_told (a : Accepted argv around) (hlabels : a.labels.Nodup)
    (hspecies : a.species.length ≤ Recording.greatestNumber + 1)
    (hrounds : a.rounds ≤ Recording.greatestNumber)
    (hclear : Clear around.directory a.settings.ledger a.settings.recording)
    (hother : Path.components (Recording.fileName a.settings.recording) ≠
      Path.components a.settings.ledger) :
    ∃ rounds, a.Told rounds (run argv around) := by
  obtain ⟨rounds, h, hreports, hsimulated, hending, hout, hfiles⟩ :=
    run_saved hclear hspecies hrounds
  have hcounts : ∀ g ∈ rounds, g.counts =
      a.labels.zip ((List.range a.species.length).map g.world.population) := by
    intro g hg
    have hcounts := g.counts_eq (by rw [World.labels, hsimulated.species hg]; exact hlabels)
    rwa [World.labels, hsimulated.species hg] at hcounts
  refine ⟨rounds, hsimulated, hsimulated.numbers, hcounts, hending, hout, fun hnone => ?_,
    fun hne => ?_, ?_, fun hne => ?_, fun hfew g hg => ?_⟩
  · rwa [if_pos hnone] at hfiles
  · rw [if_neg hne] at hfiles
    obtain ⟨archive, -, hsave, -⟩ := hfiles
    have hkept := hreports.ledger.held False.elim
    have hbefore : Ledger.held a.settings.ledger a.opening.directory = none := hclear.new
    have hbatches : (rounds.map (·.rows a.opening.session)).isEmpty = false := by simpa using hne
    rw [hbefore, Ledger.content, hbatches, if_neg Bool.false_ne_true, Ledger.grown_none,
      ← List.flatMap_def] at hkept
    exact (Recording.file?_save hsave hother).trans hkept
  · have hrow : ∀ g ∈ rounds, (g.rows around.session).length = a.species.length := by
      intro g hg
      rw [Counting.rows, List.length_map, hcounts g hg, List.length_zip, labels,
        Census.length_labels, List.length_map, List.length_map, List.length_range, Nat.min_self]
    rw [List.length_flatMap, List.map_congr_left hrow, List.map_const', List.sum_replicate_nat,
      hsimulated.length]
  · rw [if_neg hne] at hfiles
    obtain ⟨archive, htold, -, hheld⟩ := hfiles
    exact ⟨archive, hheld, htold⟩
  · refine Recording.speciesNumbers_eq (fun c hc => ?_) _
    obtain ⟨id, hid⟩ := List.mem_iff_getElem?.1 hc
    have hknown := g.known id c hid
    rw [hsimulated.species hg] at hknown
    omega

/-- A run of too many rounds for the numbers of a recording breaks off when it comes to save one. -/
theorem run_overflows (hwritable : around.directory.Writable a.settings.ledger)
    (hnamed : a.settings.recording ≠ "")
    (hspecies : a.species.length ≤ Recording.greatestNumber + 1)
    (hrounds : Recording.greatestNumber < a.rounds)
    (hother : Path.components a.settings.ledger ≠
      Path.components (Recording.fileName a.settings.recording)) :
    (run argv around).ending ≠ .code 0 ∧
      Ledger.held (Recording.fileName a.settings.recording) (run argv around).directory =
        Ledger.held (Recording.fileName a.settings.recording) around.directory := by
  obtain ⟨rounds, h, err, hreports, hsimulated, hrun⟩ := run_eq_saveAt hwritable hnamed hspecies
  have hlast : a.rounds ∈ rounds.map (·.tally.round) := by
    rw [hsimulated.numbers]
    refine List.mem_map.2 ⟨a.rounds.toNat - 1, List.mem_range.2 ?_, ?_⟩ <;> omega
  have hne := hsimulated.ne_nil (Int.lt_of_le_of_lt (Int.natCast_nonneg _) hrounds)
  obtain ⟨o, ho⟩ := Recording.archive_overflow
    ⟨_, (Recording.rounds_ofRounds rounds).symm ▸ hlast, hrounds⟩ h.world
  have hkept := hreports.ledger.file? hother
  have hfiles := h.directory.files_makeParent a.settings.recording
  rw [hrun]
  simp only [saveAt, if_neg hnamed, Recording.isEmpty_ofRounds hne, Bool.false_eq_true, if_false,
    Recording.save, ho]
  generalize h.directory.makeParent a.settings.recording = made at hfiles ⊢
  obtain ⟨d, r⟩ := made
  have hheld := (Directory.file?_congr hfiles _).trans hkept
  cases r with
  | error f => exact ⟨by simp [Report.fail, Failure.ofSave, Failure.isExpected], hheld⟩
  | ok u => exact ⟨by simp [Report.fail, Failure.ofSave, Failure.isExpected], hheld⟩

end Accepted

def outing (rounds ledger recording : String) : List String :=
  ["--species", "hopper.txt:red", "--width", "3", "--height", "1", "--per-species", "1", "--rounds",
    rounds, "--seed", "1", "--csv", ledger, "--record", recording]

def meadow : Surroundings where
  directory := { files := [(["hopper.txt"], .bytes "Hopper\nhop\n".toUTF8)] }
  session := "sess0001"
  stamp := "0"

def outingSettings (rounds : Int) (ledger recording : String) : Settings where
  species := [some "hopper.txt:red"]
  rounds := some rounds
  seed := some 1
  width := some 3
  height := some 1
  perSpecies := some 1
  ledger
  recording

theorem loadAll_meadow : loadAll meadow.directory [some "hopper.txt:red"] =
    .ok [⟨"Hopper", ⟨255, 0, 0⟩, ⟨#[.hop]⟩⟩] := by
  decide +kernel

def outingAccepted (word : String) (rounds : Int) (ledger recording : String)
    (hread : settings? (outing word ledger recording) =
      .ok (some (outingSettings rounds ledger recording))) :
    Accepted (outing word ledger recording) meadow where
  settings := outingSettings rounds ledger recording
  species := [⟨"Hopper", ⟨255, 0, 0⟩, ⟨#[.hop]⟩⟩]
  said := ""
  world := ⟨.empty 3 1, [], []⟩
  perSpecies := 1
  seed := 1
  rounds
  read := hread
  hidden := rfl
  unlisted := rfl
  enrols := .named (List.cons_ne_nil _ _) loadAll_meadow
  peopled := List.cons_ne_nil _ _
  sized := rfl
  perSpecies_eq := rfl
  seed_eq := rfl
  rounds_eq := rfl

theorem clear_meadow : ∀ ledger ∈ ["rounds.csv", "out.npz"], Clear meadow.directory ledger "out" := by
  have hclear {ledger : String} (hnew : Ledger.held ledger meadow.directory = none)
      (hwritable : meadow.directory.Writable ledger)
      (hbeside : (Ledger.append meadow.directory ledger []).1.Writable "out.npz") :
      Clear meadow.directory ledger "out" := by
    refine ⟨hnew, hwritable, by decide, fun e he => ?_⟩
    have hname : Recording.fileName "out" = "out.npz" := by decide +kernel
    rw [he] at hbeside
    exact hname ▸ hbeside
  simp only [List.forall_mem_cons]
  exact ⟨hclear rfl ⟨_, _, rfl, rfl⟩ ⟨_, _, rfl, rfl⟩, hclear rfl ⟨_, _, rfl, rfl⟩ ⟨_, _, rfl, rfl⟩,
    by simp⟩

namespace Accepted

theorem run_told_outing :
    ∃ (a : Accepted (outing "2" "rounds.csv" "out") meadow) (rounds : List Counting),
      a.rounds = 2 ∧ a.settings.ledger = "rounds.csv" ∧ a.settings.recording = "out" ∧
      a.Told rounds (run (outing "2" "rounds.csv" "out") meadow) := by
  let a := outingAccepted "2" 2 "rounds.csv" "out" (by decide +kernel)
  have hlabels : a.labels.Nodup := by decide +kernel
  have hclear : Clear meadow.directory a.settings.ledger a.settings.recording :=
    clear_meadow _ (by decide)
  obtain ⟨rounds, htold⟩ := run_told a hlabels (by decide) (by decide) hclear (by decide +kernel)
  exact ⟨a, rounds, rfl, rfl, rfl, htold⟩

/-- A recording gets its ending however it is named, and is lost with a round number beyond 32 bits. -/
theorem recording_over_ledger_or_lost :
    (∃ a : Accepted (outing "1" "out.npz" "out") meadow,
      a.rounds = 1 ∧ a.settings.ledger = "out.npz" ∧ a.settings.recording = "out" ∧
      a.labels.Nodup ∧ Clear meadow.directory "out.npz" "out" ∧
      (∃ archive, Ledger.held "out.npz" (run (outing "1" "out.npz" "out") meadow).directory =
        some (.arrays archive)) ∧
      ∀ rounds, ¬ a.Told rounds (run (outing "1" "out.npz" "out") meadow)) ∧
    ∃ a : Accepted (outing "2147483648" "rounds.csv" "out") meadow,
      a.rounds = 2147483648 ∧ a.settings.ledger = "rounds.csv" ∧ a.settings.recording = "out" ∧
      a.labels.Nodup ∧ Clear meadow.directory "rounds.csv" "out" ∧
      Ledger.held "out.npz" (run (outing "2147483648" "rounds.csv" "out") meadow).directory = none ∧
      ∀ rounds, ¬ a.Told rounds (run (outing "2147483648" "rounds.csv" "out") meadow) := by
  have hname : Recording.fileName "out" = "out.npz" := by decide +kernel
  constructor
  · let a := outingAccepted "1" 1 "out.npz" "out" (by decide +kernel)
    have hclear : Clear meadow.directory a.settings.ledger a.settings.recording :=
      clear_meadow _ (by decide)
    obtain ⟨rounds, h, -, hsimulated, -, -, hfiles⟩ := run_saved hclear (by decide) (by decide)
    rw [if_neg (hsimulated.ne_nil (by decide))] at hfiles
    obtain ⟨archive, -, -, hheld⟩ := hfiles
    have hheld : Ledger.held "out.npz" (run (outing "1" "out.npz" "out") meadow).directory =
        some (.arrays archive) := hname ▸ hheld
    refine ⟨a, rfl, rfl, rfl, by decide +kernel, hclear, ⟨archive, hheld⟩, fun rounds htold => ?_⟩
    have hledger := htold.ledger (htold.simulated.ne_nil (by decide))
    cases hheld.symm.trans hledger
  · let a := outingAccepted "2147483648" 2147483648 "rounds.csv" "out" (by decide +kernel)
    have hclear : Clear meadow.directory a.settings.ledger a.settings.recording :=
      clear_meadow _ (by decide)
    obtain ⟨hending, hheld⟩ := run_overflows (a := a) hclear.writable hclear.named (by decide)
      (by decide) (by decide +kernel)
    have hbefore : Ledger.held "out.npz" meadow.directory = none := rfl
    exact ⟨a, rfl, rfl, rfl, by decide +kernel, hclear, (hname ▸ hheld).trans hbefore,
      fun rounds htold => hending htold.ending⟩

end Accepted
end Simulate
end Vivarium
