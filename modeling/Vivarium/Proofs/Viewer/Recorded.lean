import Vivarium.Proofs.Viewer.Census

/-! What a viewer records of the rounds that it runs, and which recording it leaves the frames in: one
that is handed to it without frames stays so, since the viewer takes a new one in its place. -/
namespace Vivarium

namespace Recording

/-- The frames that a recording takes of rounds: if it is on, one for each round whose number its
stride divides. -/
def taken (r : Recording) (rounds : List (Tally × World)) : List Frame :=
  if r.enabled then
    (rounds.filter (·.1.round % r.stride = 0)).map fun round =>
      ⟨round.1.round, round.2.occupancy, round.2.headings⟩
  else []

@[simp] theorem taken_nil (r : Recording) : r.taken [] = [] := by
  simp [taken]

theorem taken_append (r : Recording) (rounds others : List (Tally × World)) :
    r.taken (rounds ++ others) = r.taken rounds ++ r.taken others := by
  unfold taken
  split
  · rw [List.filter_append, List.map_append]
  · rfl

theorem taken_singleton (r : Recording) (tally : Tally) (w : World) :
    r.taken [(tally, w)] = if r.enabled ∧ tally.round % r.stride = 0 then
      [⟨tally.round, w.occupancy, w.headings⟩] else [] := by
  unfold taken
  by_cases hround : tally.round % r.stride = 0
  · simp only [List.filter_cons, List.filter_nil, hround, decide_true, if_true, List.map_cons,
      List.map_nil, and_true]
  · simp only [List.filter_cons, List.filter_nil, hround, decide_false, Bool.false_eq_true,
      if_false, List.map_nil, ite_self, and_false]

theorem capture_eq_ok {r r' : Recording} {tally : Tally} {w : World}
    (h : r.capture w tally.round = .ok r') :
    r' = { r with frames := r.frames ++ r.taken [(tally, w)] } := by
  unfold capture occupancy at h
  rw [taken_singleton]
  split at h
  · next htaken =>
    rw [if_pos htaken]
    split at h
    · cases h
    · exact (Except.ok.inj h).symm
  · next htaken =>
    rw [if_neg htaken, List.append_nil]
    exact (Except.ok.inj h).symm

theorem taken_eq_nil_iff {r : Recording} {rounds : List (Tally × World)} {q : Nat}
    (hon : r.enabled) (hstride : 1 ≤ r.stride)
    (hrounds : rounds.map (·.1.round) = (List.range q).map fun i : Nat => 1 + (i : Int)) :
    r.taken rounds = [] ↔ (q : Int) < r.stride := by
  have htaken : r.taken rounds = [] ↔
      ∀ number ∈ rounds.map (·.1.round), ¬ number % r.stride = 0 := by
    simp only [taken, hon, if_true, List.map_eq_nil_iff, List.filter_eq_nil_iff,
      List.forall_mem_map, decide_eq_true_eq]
  rw [htaken, hrounds]
  simp only [List.forall_mem_map, List.mem_range]
  constructor
  · intro h
    by_cases hq : (q : Int) < r.stride
    · exact hq
    · have hlast := h (r.stride - 1).toNat (by omega)
      have hnumber : 1 + ((r.stride - 1).toNat : Int) = r.stride := by omega
      rw [hnumber, Int.emod_self] at hlast
      exact absurd rfl hlast
  · intro hq i hi
    have hsmall : (1 + (i : Int)) % r.stride = 1 + i := Int.emod_eq_of_lt (by omega) (by omega)
    omega

end Recording

namespace Viewer

/-- As long as a recording is neither switched nor cleared, it takes the rounds that are over. -/
theorem Course.recorded {rule : Control → Prop} {u v : Viewer} {k : Nat}
    {rounds : List (Tally × World)} (hrecord : ¬ rule .record) (hclear : ¬ rule .clear)
    (h : Course rule u k rounds v) :
    v.recording =
      { u.recording with frames := u.recording.frames ++ u.recording.taken rounds } := by
  induction h with
  | start => simp
  | control _ hc hv ih =>
    rw [recording_control hv (fun h => hrecord (h ▸ hc)) (fun h => hclear (h ▸ hc)), ih]
  | wait _ _ _ ih => exact ih
  | @step k rounds v ended recording directory _ _ hlogged ih =>
    change v.turned.recording = _ at ih
    generalize v.closed ended = closed at hlogged ⊢
    cases hlogged with
    | nothing => simpa using ih
    | @round tally _ _ hcapture _ =>
      have hrecording := Recording.capture_eq_ok hcapture
      rw [ih] at hrecording
      change recording = _
      rw [hrecording, Recording.taken_append, ← List.append_assoc]
      rfl

/-- A viewer that was handed a recording which is on, run without switching or clearing it. A
recording without frames comes back without any, so it has the frames of the rounds that were run
just if none of them is taken; one with frames gets the frames of those rounds. -/
theorem handedBack_run {given : Recording} {v v' : Viewer} {chance : Chance} {script : List Tick}
    {pictures : List Picture} (hgiven : v.recording = adopt (some given)) (hon : given.enabled)
    (hstride : 1 ≤ given.stride) (hopen : v.Opened chance)
    (hfair : chance.Fair v.world.creatures.length)
    (hscript : ∀ t ∈ script, .record ∉ t.controls ∧ .clear ∉ t.controls)
    (hrun : v.run script = (v', pictures, .ok ())) :
    let n := v.world.creatures.length
    let q := v.pace.steps n script / max 1 n
    ∃ rounds,
      (Round.runMany (fun tally w => .ok (tally, w)) 1 q v.world chance).result = .ok rounds ∧
      (given.frames = [] → handedBack given v' = given ∧
        ((handedBack given v').frames = given.taken rounds ↔ (q : Int) < given.stride)) ∧
      (given.frames ≠ [] →
        handedBack given v' = { given with frames := given.frames ++ given.taken rounds }) := by
  intro n q
  have hrecord : ¬ Used script .record := by
    rw [used_iff (by decide)]
    exact fun ⟨t, ht, hc⟩ => (hscript t ht).1 hc
  have hclear : ¬ Used script .clear := by
    rw [used_iff (by decide)]
    exact fun ⟨t, ht, hc⟩ => (hscript t ht).2 hc
  obtain ⟨rounds, hcourse⟩ := run_eq_ok hrun
  have hrounds := hcourse.rounds_eq hopen hfair
  refine ⟨rounds, hrounds, fun hempty => ?_, fun hframes => ?_⟩
  -- the viewer recorded, if at all, into a recording of its own
  · have hback : handedBack given v' = given := by simp [handedBack, hempty]
    refine ⟨hback, ?_⟩
    rw [hback, hempty, eq_comm]
    exact Recording.taken_eq_nil_iff hon hstride (Round.numbers_runMany hrounds)
  · have hempty : given.frames.isEmpty = false := by simpa using hframes
    have hadopt : v.recording = given := by simp [hgiven, adopt, hempty]
    have hrecorded := hcourse.recorded hrecord hclear
    rw [hadopt] at hrecorded
    simp [handedBack, hempty, hrecorded]

theorem handedBack_run_spinner :
    let given : Recording := .new true
    let earlier : Recording := { given with frames := [⟨0, [], []⟩] }
    let v := fresh spinner none (adopt (some given))
    let u := fresh spinner none (adopt (some earlier))
    ∃ v' u' pictures shown rounds, v.run [] = (v', pictures, .ok ()) ∧
      u.run [] = (u', shown, .ok ()) ∧
      (Round.runMany (fun tally w => .ok (tally, w)) 1 1 spinner (.ofSeed 0)).result = .ok rounds ∧
      (handedBack given v').frames ≠ given.taken rounds ∧
      (handedBack earlier u').frames = earlier.frames ++ given.taken rounds := by
  intro given earlier v u
  have hv := run_of_isOk (show (v.run []).2.2.isOk by decide +kernel)
  have hu := run_of_isOk (show (u.run []).2.2.isOk by decide +kernel)
  have hgiven : v.recording = adopt (some given) := rfl
  have hearlier : u.recording = adopt (some earlier) := rfl
  have hopen : v.Opened (.ofSeed 0) := rfl
  have huopen : u.Opened (.ofSeed 0) := rfl
  have hfair := Chance.ofSeed_fair 0 1
  have hscript : ∀ t ∈ ([] : List Tick), .record ∉ t.controls ∧ .clear ∉ t.controls :=
    fun t ht => absurd ht List.not_mem_nil
  have hk : v.pace.steps v.world.creatures.length [] / max 1 v.world.creatures.length = 1 := by
    decide +kernel
  have huk : u.pace.steps u.world.creatures.length [] / max 1 u.world.creatures.length = 1 := by
    decide +kernel
  obtain ⟨rounds, hrounds, hlost, -⟩ :=
    handedBack_run hgiven rfl (by decide) hopen hfair hscript hv
  obtain ⟨others, hothers, -, hkept⟩ :=
    handedBack_run hearlier rfl (by decide) huopen hfair hscript hu
  rw [hk] at hrounds hlost
  rw [huk] at hothers
  obtain rfl := Except.ok.inj (hrounds.symm.trans hothers)
  refine ⟨_, _, _, _, rounds, hv, hu, hrounds, fun h => ?_, ?_⟩
  · exact absurd ((hlost rfl).2.1 h) (by decide)
  · rw [hkept (List.cons_ne_nil _ _)]
    rfl

/-- A round is over and its frame is due, but the recording that was handed over is empty. -/
theorem empty_recording_stays_empty :
    let given : Recording := .new true
    let v := fresh spinner none (adopt (some given))
    v.Opened (.ofSeed 0) ∧ v.world.Reachable Act.Lawful ∧ (v.run []).2.2.isOk ∧
      v.pace.steps 1 [] = 1 ∧
      (Round.runMany (fun tally w => .ok (tally, w)) 1 1 spinner (.ofSeed 0)).result.toOption.map
        given.taken = some [⟨1, [[some 0]], [[some .north]]⟩] ∧
      (handedBack given (v.run []).1).frames = [] :=
  ⟨rfl, spinner_reachable, by decide +kernel, by decide, by decide +kernel, rfl⟩

end Viewer
end Vivarium
