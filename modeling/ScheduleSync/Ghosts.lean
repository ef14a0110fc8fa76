import ScheduleSync.Resume

/-! Shifts that an upload no longer has. scrapeSubmitShifts only adds rows, so a shift
that was dropped upstream stays where it is: an upload leaves a ghost exactly when there
was one before it. -/
namespace ScheduleSync

/-- The rows of a user after a part of the upload `shifts`, from the rows `base`. -/
structure Grown (base : List Shift) (shifts : List CallbackShift) (rows : List Shift) : Prop where
  kept : ∀ r ∈ base, r ∈ rows
  origin : ∀ r ∈ rows, r ∈ base ∨ ∃ sh ∈ shifts, sh.shiftIDExt = r.shiftIDExt

theorem Grown.refl (base : List Shift) (shifts : List CallbackShift) : Grown base shifts base :=
  ⟨fun _ hr => hr, fun _ hr => .inl hr⟩

theorem Grown.append {base rows : List Shift} {shifts : List CallbackShift}
    (h : Grown base shifts rows) {r : Shift} {sh : CallbackShift} (hsh : sh ∈ shifts)
    (hid : sh.shiftIDExt = r.shiftIDExt) : Grown base shifts (rows ++ [r]) := by
  refine ⟨fun x hx => List.mem_append_left _ (h.kept x hx), ?_⟩
  intro x hx
  cases List.mem_append.mp hx with
  | inl hold => exact h.origin x hold
  | inr hnew =>
    rw [List.mem_singleton.mp hnew]
    exact .inr ⟨sh, hsh, hid⟩

def SubmitShiftsPc.Uploads (userID : Uuid) (shifts : List CallbackShift) : SubmitShiftsPc → Prop
  | .lookup _ => False
  | .readTimezone _ uid rest => uid = userID ∧ ∀ x ∈ rest, x ∈ shifts
  | .count g => g.userID = userID ∧ ∀ x ∈ g.rest, x ∈ shifts
  | .insert g sh _ _ _ => g.userID = userID ∧ sh ∈ shifts ∧ ∀ x ∈ g.rest, x ∈ shifts
  | .scheduleNext _ _ _ => True
  | .answered _ => True

theorem scrapeSubmitShifts_grows {env : Env} {o : Outcome} {w w' : World} {key : String}
    {userID : Uuid} {base : List Shift} {shifts : List CallbackShift} {pc pc' : SubmitShiftsPc}
    (h : scrapeSubmitShifts env o w key pc = some (w', pc')) (hpc : pc.Uploads userID shifts)
    (hrows : Grown base shifts (w.db.shiftsOf userID)) :
    pc'.Uploads userID shifts ∧ Grown base shifts (w'.db.shiftsOf userID) := by
  cases scrapeSubmitShifts_cases h with
  | found => exact hpc.elim
  | readTimezone => exact ⟨hpc, hrows⟩
  | finished =>
    rw [execDropped_shiftsOf]
    · exact ⟨trivial, hrows⟩
    · rfl
  | skipped hsplit =>
    obtain ⟨huser, hrest⟩ := hpc
    rw [hsplit] at hrest
    exact ⟨⟨huser, fun x hx => hrest x (List.mem_cons_of_mem _ hx)⟩, hrows⟩
  | @counted g sh rest _ _ hsplit =>
    obtain ⟨huser, hrest⟩ := hpc
    rw [hsplit] at hrest
    refine ⟨⟨huser, hrest sh List.mem_cons_self, ?_⟩, hrows⟩
    exact fun x hx => hrest x (List.mem_cons_of_mem _ hx)
  | insertFailed => exact ⟨⟨hpc.1, hpc.2.2⟩, hrows⟩
  | @inserted g sh start stop already db hid hexec =>
    obtain ⟨huser, hsh, hrest⟩ := hpc
    refine ⟨⟨huser, hrest⟩, ?_⟩
    have huid : (sh.row o.uuid g.userID start stop (unix w.now)).userID = userID := huser
    obtain ⟨_, hadded⟩ := DB.insertShift_rows (exec_eq_some hexec)
    rw [huid] at hadded
    show Grown base shifts (db.shiftsOf userID)
    cases hadded with
    | inl hconflict =>
      rw [hconflict.2]
      exact hrows
    | inr hnew =>
      rw [hnew]
      exact hrows.append hsh rfl
  | scheduleNext =>
    rw [scheduleNext_shiftsOf]
    exact ⟨trivial, hrows⟩
  | _ => exact ⟨trivial, hrows⟩

namespace Server
variable {env : Env} {s s' s₁ s₂ : Server} {a : Action} {i : Nat} {key : String} {logID userID : Uuid}
  {base : List Shift} {shifts : List CallbackShift}

/-- Every shift of the user that starts after one submitted shift and before another one
is itself submitted. -/
def NoGhosts (userID : Uuid) (loc : Location) (shifts : List CallbackShift) (s : Server) : Prop :=
  ∀ r ∈ s.db.shifts, r.userID = userID →
    (∃ sh ∈ shifts, ∃ t, parseShiftTime sh.start loc = some t ∧ t < r.startTime) →
    (∃ sh ∈ shifts, ∃ t, parseShiftTime sh.start loc = some t ∧ r.startTime < t) →
    ∃ sh ∈ shifts, sh.shiftIDExt = r.shiftIDExt

structure Uploading (i : Nat) (key : String) (userID : Uuid) (base : List Shift)
    (shifts : List CallbackShift) (s : Server) : Prop where
  task : ∃ pc, s.tasks[i]? = some (.submitShifts key pc) ∧ pc.Uploads userID shifts
  rows : Grown base shifts (s.db.shiftsOf userID)

theorem uploading_step (hok : s.undisturbed env i userID a = true)
    (hs : s.Uploading i key userID base shifts) (h : s.step env a = some s') :
    s'.Uploading i key userID base shifts := by
  obtain ⟨pc, ht, hpc⟩ := hs.task
  cases undisturbed_cases hok ht h with
  | inl hself =>
    obtain ⟨o, rfl⟩ := hself
    obtain ⟨pc', hr, ht'⟩ := submitShifts_step ht h
    obtain ⟨hpc', hrows⟩ := scrapeSubmitShifts_grows hr hpc hs.rows
    exact ⟨⟨pc', ht', hpc'⟩, hrows⟩
  | inr hsame =>
    obtain ⟨ht', _, hrows⟩ := hsame
    refine ⟨⟨pc, ht', hpc⟩, ?_⟩
    rw [hrows]
    exact hs.rows

/-- From the admission of the request on, and so also right after it has answered 200: the
user has a ghost exactly when there was one before. -/
theorem noGhosts_iff
    (hadmitted : s₁.tasks[i]? = some (.submitShifts key (.readTimezone logID userID shifts)))
    (hrun : Reaches (step env) (undisturbed env i userID) s₁ s₂) :
    s₂.NoGhosts userID (env.locationOf (s₁.db.user userID)) shifts ↔
      s₁.NoGhosts userID (env.locationOf (s₁.db.user userID)) shifts := by
  have hend : s₂.Uploading i key userID (s₁.db.shiftsOf userID) shifts :=
    hrun.invariant ⟨⟨_, hadmitted, rfl, fun _ hx => hx⟩, .refl _ _⟩ fun _ _ _ hok hs ha =>
      uploading_step hok hs ha
  constructor
  · intro hnone r hr huser
    obtain ⟨hr₂, _⟩ := DB.mem_shiftsOf.mp (hend.rows.kept r (DB.mem_shiftsOf.mpr ⟨hr, huser⟩))
    exact hnone r hr₂ huser
  · intro hnone r hr huser hafter hbefore
    cases hend.rows.origin r (DB.mem_shiftsOf.mpr ⟨hr, huser⟩) with
    | inl hbase =>
      exact hnone r (DB.mem_shiftsOf.mp hbase).1 huser hafter hbefore
    | inr hsubmitted => exact hsubmitted

def dawn : CallbackShift :=
  { sampleShift "2026-03-08T04:00:00" "2026-03-08T06:00:00" with shiftIDExt := "shift0" }

def evening : CallbackShift :=
  { sampleShift "2026-03-08T17:00:00" "2026-03-08T21:00:00" with shiftIDExt := "shift2" }

def nextUpload (shifts : List CallbackShift) : List Action :=
  firstPoll ++ upload 0 "log1" "key1" "c1" morning ++ ingest 1 "sh1" ++
    polls 3 ++ [.advance (25 * (60 * 60 * 1000000000))] ++ polls 2 ++ launch 2 "log2" "key2" "c2" ++
    [.arrive (.submitShifts "key2" (.ok shifts))] ++ statements 3 1

def fullUpload : Server := after (step sampleEnv) anyStep (boot sampleDB 0) (nextUpload [dawn, morning, evening])

def fullAnswer : Server :=
  after (step sampleEnv) (undisturbed sampleEnv 3 "u1") fullUpload
    (statements 3 1 ++ iterations 3 ["sh2", "sh3", "sh4"] ++ statements 3 2)

theorem noGhosts_iff_full :
    (fullUpload.db.shifts.rows.map fun r => (r.userID, r.shiftIDExt, r.startTime)) =
      [("u1", "shift1", 1772960400)] ∧
    (parseShiftTime dawn.start .utc, parseShiftTime evening.start .utc) = (some 1772942400, some 1772989200) ∧
    fullAnswer.accepted 3 = some ("key2", ⟨3, 2⟩) ∧
    fullUpload.NoGhosts "u1" (sampleEnv.locationOf (fullUpload.db.user "u1")) [dawn, morning, evening] ∧
    fullAnswer.NoGhosts "u1" (sampleEnv.locationOf (fullUpload.db.user "u1")) [dawn, morning, evening] := by
  have hadmitted : fullUpload.admitted 3 = some ("key2", "log2", "u1", [dawn, morning, evening]) := by
    decide +kernel
  have hrun : Reaches (step sampleEnv) (undisturbed sampleEnv 3 "u1") fullUpload fullAnswer :=
    reaches_after (by decide +kernel)
  have hids : fullUpload.db.shifts.rows.all (fun r => r.shiftIDExt == morning.shiftIDExt) = true := by
    decide +kernel
  have hbefore : fullUpload.NoGhosts "u1" (sampleEnv.locationOf (fullUpload.db.user "u1"))
      [dawn, morning, evening] := fun r hr _ _ _ =>
    ⟨morning, by simp, (beq_iff_eq.mp (List.all_eq_true.mp hids r hr)).symm⟩
  exact ⟨by decide +kernel, by decide, by decide +kernel, hbefore,
    (noGhosts_iff (task_of_admitted hadmitted) hrun).mpr hbefore⟩

def swappedUpload : Server := after (step sampleEnv) anyStep (boot sampleDB 0) (nextUpload [dawn, evening])

def swappedAnswer : Server :=
  after (step sampleEnv) (undisturbed sampleEnv 3 "u1") swappedUpload
    ((ingest 3 "sh2").take 3 ++ (ingest 3 "sh3").drop 1)

/-- The request is answered 200, and the shift is still there between the two. -/
theorem ghost_left :
    ∃ s₁ s₂, Reaches (step sampleEnv) anyStep (boot sampleDB 0) s₁ ∧
      s₁.admitted 3 = some ("key2", "log2", "u1", [dawn, evening]) ∧
      (∀ sh ∈ [dawn, evening], (parseShiftTime sh.start .utc).isSome = true ∧
        (parseShiftTime sh.stop .utc).isSome = true) ∧
      Reaches (step sampleEnv) (undisturbed sampleEnv 3 "u1") s₁ s₂ ∧
      s₂.accepted 3 = some ("key2", ⟨2, 2⟩) ∧ ¬ s₂.NoGhosts "u1" .utc [dawn, evening] := by
  refine ⟨swappedUpload, swappedAnswer, reaches_after (by decide +kernel), by decide +kernel,
    by decide, reaches_after (by decide +kernel), by decide +kernel, ?_⟩
  intro hnone
  have hstored : swappedAnswer.db.shifts.rows.any (fun r => r.userID == "u1" &&
      r.shiftIDExt == "shift1" && r.startTime == 1772960400) = true := by
    decide +kernel
  obtain ⟨r, hr, hrow⟩ := List.any_eq_true.mp hstored
  simp only [Bool.and_eq_true, beq_iff_eq] at hrow
  obtain ⟨⟨huser, hid⟩, hstart⟩ := hrow
  have hdawn : parseShiftTime dawn.start .utc = some 1772942400 := by decide
  have hevening : parseShiftTime evening.start .utc = some 1772989200 := by decide
  obtain ⟨sh, hsh, hsame⟩ := hnone r hr huser
    ⟨dawn, by simp, _, hdawn, by rw [hstart]; decide⟩ ⟨evening, by simp, _, hevening, by rw [hstart]; decide⟩
  rw [hid] at hsame
  simp only [List.mem_cons, List.not_mem_nil, or_false] at hsh
  rcases hsh with rfl | rfl <;> exact absurd hsame (by decide)

end Server
end ScheduleSync
