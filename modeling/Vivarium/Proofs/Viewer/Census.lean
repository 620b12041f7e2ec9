import Vivarium.Proofs.Headless
import Vivarium.Proofs.Viewer.Steady

/-! The pace of a viewer has no part in what it simulates and in what it enters into its ledger: both
are those of a number of steps, and the ledger is the one that a run without a display writes. -/
namespace Vivarium

namespace Viewer

/-- No recording is saved over the ledger. -/
def Spares (v : Viewer) (script : List Tick) (path : String) : Prop :=
  (∃ t ∈ script, .save ∈ t.controls) →
    Path.components (Recording.fileName (Recording.defaultPath v.stamp)) ≠ Path.components path

namespace Course

variable {rule : Control → Prop} {u v : Viewer} {k : Nat} {rounds : List (Tally × World)}

theorem kept {path : String} (hpath : u.ledger = some path) (h : Course rule u k rounds v) :
    ∃ batches, rounds.map (fun r => Ledger.rows r.1 r.2 u.session) = batches.map .ok ∧
      Ledger.Kept path (Recording.defaultPath u.stamp) (rule .save) u.directory batches
        v.directory := by
  induction h with
  | start => exact ⟨[], rfl, .start⟩
  | @control k rounds v v' c hcourse hc hv ih =>
    obtain ⟨batches, hrows, hkept⟩ := ih
    refine ⟨batches, hrows, ?_⟩
    rcases directory_control hv with hd | ⟨rfl, hsave⟩
    · rwa [hd]
    · rw [hcourse.keeps.2.2] at hsave
      exact hkept.save hc hsave
  | wait _ _ _ ih => exact ih
  | @step k rounds v ended recording directory hcourse _ hlogged ih =>
    obtain ⟨batches, hrows, hkept⟩ := ih
    obtain ⟨hledger, hsession, -⟩ := hcourse.keeps
    generalize v.closed ended = closed at hlogged ⊢
    cases hlogged with
    | nothing => exact ⟨batches, by simpa using hrows, hkept⟩
    | @round tally _ _ _ hentry =>
      have hentry : Ledger.entry v.ledger v.session tally v.turned.world v.directory =
        (directory, .ok ()) := hentry
      rw [hledger, hpath, hsession] at hentry
      obtain ⟨batch, hbatch, happend⟩ := Ledger.entry_eq_ok hentry
      exact ⟨batches ++ [batch], by simp [hrows, hbatch], hkept.enter happend⟩

end Course

/-- The rounds that are over are the first rounds of the simulation. -/
theorem Course.rounds_eq {rule : Control → Prop} {u v : Viewer} {chance : Chance} {k : Nat}
    {rounds : List (Tally × World)} (h : Course rule u k rounds v) (hu : u.Opened chance)
    (hfair : chance.Fair u.world.creatures.length) :
    (Round.runMany (fun tally w => .ok (tally, w)) 1 (k / max 1 u.world.creatures.length) u.world
      chance).result = .ok rounds := by
  have hn : 0 < max 1 u.world.creatures.length := by omega
  -- the turns of the round that is not yet over are the remainder, which no ledger hears of
  have hsteps := Stepper.opened_steps hfair 1 none (k / max 1 u.world.creatures.length)
    (Nat.mod_lt k hn)
  obtain ⟨ends, hresult, -⟩ := h.simulates
  obtain ⟨hstepper, hchance⟩ := Prod.mk.inj hu
  dsimp only at hsteps
  rw [Nat.div_add_mod', Stepper.opened, Episode.done_andThen] at hsteps
  rw [hstepper, hchance] at hresult
  obtain ⟨p, hp, htrail⟩ := Episode.ok_of_map (hsteps ▸ hresult)
  have hrounds : p.rounds = rounds := congrArg Stepper.Trail.rounds htrail
  exact hrounds ▸ Round.rounds_upTo hp

theorem run_kept {v v' : Viewer} {chance : Chance} {script : List Tick} {pictures : List Picture}
    {path : String} (hopen : v.Opened chance) (hfair : chance.Fair v.world.creatures.length)
    (hrun : v.run script = (v', pictures, .ok ())) (hpath : v.ledger = some path) :
    let n := v.world.creatures.length
    ∃ batches,
      (Round.runMany (fun tally w => Ledger.rows tally w v.session) 1
        (v.pace.steps n script / max 1 n) v.world chance).result = .ok batches ∧
      Ledger.Kept path (Recording.defaultPath v.stamp) (∃ t ∈ script, .save ∈ t.controls)
        v.directory batches v'.directory := by
  obtain ⟨rounds, hcourse⟩ := run_eq_ok hrun
  obtain ⟨batches, hrows, hkept⟩ := hcourse.kept hpath
  refine ⟨batches, Round.ok_of_looks (hcourse.rounds_eq hopen hfair) hrows, ?_⟩
  rwa [used_iff (by decide)] at hkept

theorem run_ledger {v v' : Viewer} {chance : Chance} {script : List Tick}
    {pictures : List Picture} {path : String} (hopen : v.Opened chance)
    (hfair : chance.Fair v.world.creatures.length) (hrun : v.run script = (v', pictures, .ok ()))
    (hpath : v.ledger = some path) (hspares : v.Spares script path) :
    let n := v.world.creatures.length
    Ledger.after (Ledger.held path v.directory) v.session (v.pace.steps n script / max 1 n) v.world
      chance = .ok (Ledger.held path v'.directory) := by
  obtain ⟨batches, hbatches, hkept⟩ := run_kept hopen hfair hrun hpath
  exact hkept.after hbatches hspares

/-- A run of a viewer that has just been opened. How many steps its simulation takes is a matter of
its pace and the script, given the number of creatures. The world is the one after so many steps; the
ledger gets the rows of each round that is over, once and in order, and nothing else happens to it
unless a recording is saved over it. So a run at any other pace with as many steps leaves the same
world and ledger, and a run without a display the same ledger after as many rounds. What can fail is
a file, or a number that an array cannot hold. -/
theorem run_eq_steps {v v' : Viewer} {chance : Chance} {script : List Tick}
    {pictures : List Picture} {r : Except Failure Unit} (hopen : v.Opened chance)
    (hfair : chance.Fair v.world.creatures.length) (hrun : v.run script = (v', pictures, r)) :
    let n := v.world.creatures.length
    let k := v.pace.steps n script
    let q := k / max 1 n
    let sim := Stepper.steps k v.stepper v.world v.chance
    let saves := ∃ t ∈ script, .save ∈ t.controls
    (v.world.Reachable Act.Lawful → ∀ f, r = .error f → f.Outside) ∧
    (r = .ok () →
      (sim.world = v'.world ∧ sim.chance = v'.chance ∧
        ∃ trail, sim.result = .ok trail ∧ trail.stepper = v'.stepper) ∧
      (∀ path, v.ledger = some path →
        (∃ batches,
          (Round.runMany (fun tally w => Ledger.rows tally w v.session) 1 q v.world
            chance).result = .ok batches ∧
          Ledger.Kept path (Recording.defaultPath v.stamp) saves v.directory batches
            v'.directory) ∧
        (v.Spares script path → Ledger.after (Ledger.held path v.directory) v.session q v.world
          chance = .ok (Ledger.held path v'.directory))) ∧
      (∀ (u u' : Viewer) (others : List Tick) (shown : List Picture), u.Opened chance →
        u.world = v.world → u.pace.steps n others = k → u.run others = (u', shown, .ok ()) →
        u'.world = v'.world ∧
        ∀ path, v.ledger = some path → u.ledger = some path → u.session = v.session →
          Ledger.held path u.directory = Ledger.held path v.directory →
          v.Spares script path → u.Spares others path →
          Ledger.held path u'.directory = Ledger.held path v'.directory) ∧
      ∀ (h h' : Headless) (path : String), h.world = v.world → h.chance = chance →
        v.ledger = some path → h.ledger = some path → h.session = v.session →
        Ledger.held path h.directory = Ledger.held path v.directory →
        v.Spares script path → h.rounds 1 q = (h', .ok ()) →
        Ledger.held path h'.directory = Ledger.held path v'.directory) := by
  intro n k q sim saves
  refine ⟨fun hw f hf => ?_, fun hr => ?_⟩
  · subst hf
    obtain ⟨j, rounds, w, hcourse, hfails⟩ := run_eq_error hrun
    exact hfails.outside (hcourse.steady (hopen.steady hfair hw))
  subst hr
  obtain ⟨rounds, hcourse⟩ := run_eq_ok hrun
  obtain ⟨ends, hresult, hworld, hchance⟩ := hcourse.simulates
  refine ⟨⟨hworld, hchance, _, hresult, rfl⟩, fun path hpath => ?_, ?_, ?_⟩
  · exact ⟨run_kept hopen hfair hrun hpath, run_ledger hopen hfair hrun hpath⟩
  -- both runs are measured by the same steps, and by the same rounds of one simulation
  · intro u u' others shown huopen huworld huk hurun
    obtain ⟨urounds, hucourse⟩ := run_eq_ok hurun
    obtain ⟨-, -, huw, -⟩ := hucourse.simulates
    obtain ⟨hustepper, huchance⟩ := Prod.mk.inj (huopen.trans (huworld ▸ hopen.symm))
    refine ⟨?_, fun path hpath hupath husession hbefore hspares huspares => ?_⟩
    · rw [← huw, ← hworld, huworld, huk, hustepper, huchance]
    · have hafter := run_ledger huopen (huworld ▸ hfair) hurun hupath huspares
      dsimp only at hafter
      rw [huworld, huk, husession, hbefore, run_ledger hopen hfair hrun hpath hspares] at hafter
      exact (Except.ok.inj hafter).symm
  · intro h h' path hhworld hhchance hpath hhpath hhsession hbefore hspares hrounds
    have hafter := Headless.rounds_ledger hhpath hrounds
    rw [hhworld, hhchance, hhsession, hbefore, run_ledger hopen hfair hrun hpath hspares] at hafter
    exact (Except.ok.inj hafter).symm

def spinner : World :=
  (Act.spawn 0 ⟨0, 0⟩ .east).after <|
    (Act.enrol ⟨"Spinner", ⟨0, 0, 0⟩, ⟨#[.left]⟩⟩).after ⟨.empty 1 1, [], []⟩

theorem spinner_reachable : spinner.Reachable Act.Lawful := by
  have hspinner : Species.ofSource "Spinner\nleft" ⟨0, 0, 0⟩ =
    .ok ⟨"Spinner", ⟨0, 0, 0⟩, ⟨#[.left]⟩⟩ := by rfl
  exact ⟨1, 1, ⟨.empty 1 1, [], []⟩, _, rfl, .act (.act .start ⟨_, _, hspinner⟩)
    ⟨by decide, by decide⟩⟩

def fresh (w : World) (ledger : Option String) (recording : Recording) : Viewer :=
  let (stepper, chance) := Stepper.start w (.ofSeed 0)
  { world := w, chance, stepper, scene := [], pauseMs := 0, turnsPerFrame := 1, ledger,
    session := "0", stamp := "0", recording, directory := {} }

theorem eq_of_isOk {α : Type} {x : α × Except Failure Unit} (h : x.2.isOk) : x = (x.1, .ok ()) := by
  obtain ⟨a, r⟩ := x
  cases r with
  | error f => cases h
  | ok b => rfl

theorem run_of_isOk {v : Viewer} {script : List Tick} (h : (v.run script).2.2.isOk) :
    v.run script = ((v.run script).1, (v.run script).2.1, .ok ()) := by
  generalize v.run script = x at h ⊢
  exact Prod.ext rfl (eq_of_isOk h)

/-- Three rounds, in three frames, in one frame, and without a display. -/
theorem run_eq_steps_spinner :
    let v := fresh spinner (some "rounds.csv") .new
    let script : List Tick := [{ controls := [.record] }, { controls := [.save] }]
    let u := { v with turnsPerFrame := 3 }
    let h : Headless := ⟨spinner, .ofSeed 0, v.ledger, v.session, .new, {}, [], []⟩
    ∃ v' u' h' pictures shown, v.run script = (v', pictures, .ok ()) ∧
      u.run [] = (u', shown, .ok ()) ∧ h.rounds 1 3 = (h', .ok ()) ∧ u'.world = v'.world ∧
      Ledger.held "rounds.csv" u'.directory = Ledger.held "rounds.csv" v'.directory ∧
      Ledger.held "rounds.csv" h'.directory = Ledger.held "rounds.csv" v'.directory := by
  intro v script u h
  have hv := run_of_isOk (show (v.run script).2.2.isOk by decide +kernel)
  have hu := run_of_isOk (show (u.run []).2.2.isOk by decide +kernel)
  have hh := eq_of_isOk (show (h.rounds 1 3).2.isOk by decide +kernel)
  have hk : v.pace.steps v.world.creatures.length script = 3 := by decide +kernel
  have huk : u.pace.steps v.world.creatures.length [] = 3 := by decide +kernel
  have hq : 3 / max 1 v.world.creatures.length = 3 := by decide +kernel
  have hspares : v.Spares script "rounds.csv" := fun _ => by decide +kernel
  have huspares : u.Spares [] "rounds.csv" := fun ⟨t, ht, _⟩ => absurd ht List.not_mem_nil
  have hopen : v.Opened (.ofSeed 0) := rfl
  obtain ⟨-, hok⟩ := run_eq_steps hopen (Chance.ofSeed_fair 0 1) hv
  rw [hk, hq] at hok
  obtain ⟨-, -, hviewer, hheadless⟩ := hok rfl
  obtain ⟨hworld, hledger⟩ := hviewer u _ [] _ rfl rfl huk hu
  exact ⟨_, _, _, _, _, hv, hu, hh, hworld, hledger _ rfl rfl rfl rfl hspares huspares,
    hheadless h _ _ rfl rfl rfl rfl rfl rfl hspares hh⟩

/-- Of two scripts with as many steps, one saves the recording over the ledger. -/
theorem recording_saved_over_ledger :
    let path := "recordings/darwin_run_0.npz"
    let v := fresh spinner (some path) .new
    let script : List Tick := [{ controls := [.record] }, { controls := [.pause] }]
    let saving : List Tick := [{ controls := [.record] }, { controls := [.pause, .save] }]
    v.Opened (.ofSeed 0) ∧ v.world.Reachable Act.Lawful ∧ v.pace.steps 1 script = 1 ∧
      v.pace.steps 1 saving = 1 ∧ (v.run script).2.2.isOk ∧ (v.run saving).2.2.isOk ∧
      Ledger.held path (v.run saving).1.directory ≠ Ledger.held path (v.run script).1.directory := by
  intro path v script saving
  exact ⟨rfl, spinner_reachable, by decide, by decide, by decide +kernel, by decide +kernel,
    by decide +kernel⟩

end Viewer
end Vivarium
