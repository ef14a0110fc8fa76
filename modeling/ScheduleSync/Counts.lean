import ScheduleSync.Resume
import ScheduleSync.Writes

/-! New shifts, counted. scrapeSubmitShifts takes a shift for new when a SELECT before the
INSERT has found none of its id, so two requests can count one row. The counts add up in the
runs where what such a SELECT has found still holds when the INSERT is executed. -/
namespace ScheduleSync

/-- The new shifts a request answers, or has counted so far. -/
def Task.newCount : Task → Nat
  | .submitShifts _ (.count g) => g.newCount
  | .submitShifts _ (.insert g _ _ _ _) => g.newCount
  | .submitShifts _ (.scheduleNext _ _ answer) => answer.new
  | .submitShifts _ (.answered (.ok answer)) => answer.new
  | _ => 0

def Task.counted : Task → Option (Uuid × String × Nat)
  | .submitShifts _ (.insert g sh _ _ already) => some (g.userID, sh.shiftIDExt, already)
  | _ => none

section Request
variable {env : Env} {o : Outcome} {w w' : World} {key : String} {pc pc' : SubmitShiftsPc}

def Task.CountTrue (db : DB) (t : Task) : Prop :=
  ∀ userID shiftIDExt n, t.counted = some (userID, shiftIDExt, n) →
    (n = 0 ↔ db.countShifts userID shiftIDExt = 0)

theorem Task.countTrue_of_none {db : DB} {t : Task} (h : t.counted = none) : t.CountTrue db := by
  intro userID shiftIDExt n hcounted
  rw [h] at hcounted
  cases hcounted

theorem countShifts_of_insert {db : DB} {r : Shift} {t : Table Shift}
    (ht : db.shifts.insert r = some t) : db.countShifts r.userID r.shiftIDExt = 0 := by
  refine List.countP_eq_zero.mpr fun x hx => ?_
  have hfresh := Table.insert_fresh ht hx
  rw [Bool.and_eq_true, beq_iff_eq, beq_iff_eq]
  exact fun heq => hfresh (.inr heq)

theorem scrapeSubmitShifts_counts (h : scrapeSubmitShifts env o w key pc = some (w', pc'))
    (hok : pc.succeeds o w = true) (htrue : (Task.submitShifts key pc).CountTrue w.db) :
    (w'.db.shifts = w.db.shifts ∧
        (Task.submitShifts key pc').newCount = (Task.submitShifts key pc).newCount ∨
      ∃ r, r ∉ w.db.shifts.rows ∧ w'.db.shifts.rows = w.db.shifts.rows ++ [r] ∧
        (Task.submitShifts key pc').newCount = (Task.submitShifts key pc).newCount + 1) ∧
    (Task.submitShifts key pc').CountTrue w'.db := by
  cases scrapeSubmitShifts_cases h with
  | noKey | notFound | badBody | found | readTimezone | skipped =>
    exact ⟨.inl ⟨rfl, rfl⟩, Task.countTrue_of_none rfl⟩
  | finished | scheduleNext =>
    exact ⟨.inl ⟨execDropped_shifts rfl, rfl⟩, Task.countTrue_of_none rfl⟩
  | counted =>
    have hsql : o.sqlFails = false := by simpa [SubmitShiftsPc.succeeds] using hok
    refine ⟨.inl ⟨rfl, rfl⟩, ?_⟩
    rintro _ _ _ ⟨⟩
    simp [select_executed hsql]
  | insertFailed _ hexec => simp [SubmitShiftsPc.succeeds, hexec] at hok
  | @inserted g sh start stop already db hid hexec =>
    have hzero : already = 0 ↔ w.db.countShifts g.userID sh.shiftIDExt = 0 := htrue _ _ _ rfl
    cases Write.done_of_exec (x := .insertShift _) (exec_eq_some hexec) with
    | @insertShift _ t huser ht =>
      have hnone : w.db.countShifts g.userID sh.shiftIDExt = 0 := countShifts_of_insert ht
      have hnew : sh.row o.uuid g.userID start stop (unix w.now) ∉ w.db.shifts.rows :=
        fun hmem => Table.insert_fresh ht hmem (.inl rfl)
      exact ⟨.inr ⟨_, hnew, Table.insert_rows ht, if_pos (hzero.mpr hnone)⟩,
        Task.countTrue_of_none rfl⟩
    | keepShift hstored =>
      have hnot : already ≠ 0 := fun heq => hstored (hzero.mp heq)
      exact ⟨.inl ⟨rfl, if_neg hnot⟩, Task.countTrue_of_none rfl⟩

end Request

namespace Server
variable {env : Env} {s s' : Server} {a : Action} {db : DB} {start : Int} {added : List Shift}

def addedShift (env : Env) (s : Server) (a : Action) : Option Shift :=
  (s.step env a).bind fun s' => s'.db.shifts.rows.find? fun r => decide (r ∉ s.db.shifts.rows)

/-- No statement of a request up to its report fails. -/
def uploadsSucceed (s : Server) : Action → Bool
  | .run i o =>
    match s.tasks[i]? with
    | some (.submitShifts _ pc) => pc.succeeds o s.toWorld
    | _ => true
  | _ => true

/-- What the requests have found at their SELECTs stays as they found it, unless it is their
own INSERT that is executed. -/
def countsHold (env : Env) (s : Server) (a : Action) : Bool :=
  s.uploadsSucceed a &&
  (s.step env a).all fun s' => (List.range s.tasks.length).all fun j => isStepOf j a ||
    (s.tasks[j]?.bind Task.counted).all fun (userID, shiftIDExt, _) =>
      decide (s'.db.countShifts userID shiftIDExt = 0 ↔ s.db.countShifts userID shiftIDExt = 0)

def CountsTrue (s : Server) : Prop := ∀ t ∈ s.tasks, t.CountTrue s.db

theorem addedShift_none (h : s.step env a = some s') (hrows : ∀ r ∈ s'.db.shifts, r ∈ s.db.shifts) :
    addedShift env s a = none := by
  rw [addedShift, h, Option.bind_some, List.find?_eq_none]
  intro r hr hnew
  exact of_decide_eq_true hnew (hrows r hr)

theorem addedShift_some {r : Shift} (h : s.step env a = some s') (hr : r ∉ s.db.shifts.rows)
    (hrows : s'.db.shifts.rows = s.db.shifts.rows ++ [r]) : addedShift env s a = some r := by
  have hnone : (s.db.shifts.rows.find? fun x => decide (x ∉ s.db.shifts.rows)) = none := by
    refine List.find?_eq_none.mpr fun x hx hnew => ?_
    exact of_decide_eq_true hnew hx
  rw [addedShift, h, Option.bind_some, hrows, List.find?_append, hnone, Option.none_or]
  simp [hr]

theorem shifts_step (h : s.step env a = some s') :
    (∀ r ∈ s'.db.shifts, r ∈ s.db.shifts) ∨
      ∃ i o key g sh start stop already, a = .run i o ∧
        s.tasks[i]? = some (.submitShifts key (.insert g sh start stop already)) := by
  cases step_wrote h with
  | same hdb =>
    rw [hdb]
    exact .inl fun r hr => hr
  | exec x hwr hexec _ =>
    by_cases hinsert : ∃ r, x = .insertShift r
    · right
      obtain ⟨r, rfl⟩ := hinsert
      obtain ⟨i, o, t, rfl, ht, hw⟩ | ⟨o, rfl, hw⟩ := write_cases hwr
      · generalize hx : Write.insertShift r = x at hw
        cases hw with
        | insertShift => exact ⟨i, o, _, _, _, _, _, _, rfl, ht⟩
        | _ => cases hx
      · generalize s.scheduler = sch at hw
        cases hw
    · left
      intro r hr
      exact ((Write.done_of_exec hexec).shifts hr).resolve_right fun heq => hinsert ⟨r, heq⟩

theorem countTrue_kept {j : Nat} {t : Task} (hok : s.countsHold env a = true)
    (h : s.step env a = some s') (ht : s.tasks[j]? = some t) (hj : isStepOf j a = false)
    (htrue : t.CountTrue s.db) : t.CountTrue s'.db := by
  intro userID shiftIDExt n hcounted
  have hothers := (Bool.and_eq_true_iff.mp hok).2
  obtain ⟨hlt, _⟩ := List.getElem?_eq_some_iff.mp ht
  rw [h, Option.all_some, List.all_eq_true] at hothers
  have hsame := hothers j (List.mem_range.mpr hlt)
  rw [hj, Bool.false_or, ht, Option.bind_some, hcounted, Option.all_some] at hsame
  exact (htrue userID shiftIDExt n hcounted).trans (of_decide_eq_true hsame).symm

theorem newCount_of_run {o : Outcome} {t t' : Task} {w : World} {jobs : List ScrapeJob}
    (hne : ∀ key pc, t ≠ .submitShifts key pc) (h : runTask env o s.toWorld t = some (w, t', jobs)) :
    t'.newCount = t.newCount ∧ t'.counted = none := by
  cases runTask_cases h with
  | submitShifts => exact absurd rfl (hne _ _)
  | begun hb => cases AuthedRequest.begin_cases hb <;> exact ⟨rfl, rfl⟩
  | _ => exact ⟨rfl, rfl⟩

theorem tally_jobs (jobs : List ScrapeJob) : tally Task.newCount (jobs.map ScrapeJob.task) = 0 := by
  refine tally_eq_zero.mpr fun t ht => ?_
  obtain ⟨job, _, rfl⟩ := List.mem_map.mp ht
  rfl

theorem countsTrue_append {us : List Task} (hok : s.countsHold env a = true)
    (h : s.step env a = some s') (hother : ∀ j, isStepOf j a = false) (htrue : s.CountsTrue)
    (htasks : s'.tasks = s.tasks ++ us) (hus : ∀ t ∈ us, t.counted = none) : s'.CountsTrue := by
  intro t ht
  rw [htasks] at ht
  cases List.mem_append.mp ht with
  | inl hold =>
    obtain ⟨j, hj⟩ := List.mem_iff_getElem?.mp hold
    exact countTrue_kept hok h hj (hother j) (htrue t hold)
  | inr hnew => exact Task.countTrue_of_none (hus t hnew)

theorem countsTrue_run {i : Nat} {o : Outcome} {t t' : Task} {jobs : List ScrapeJob}
    (hok : s.countsHold env (.run i o) = true) (h : s.step env (.run i o) = some s')
    (htrue : s.CountsTrue) (ht : s.tasks[i]? = some t)
    (htasks : s'.tasks = pooled s.tasks i t' (jobs.map ScrapeJob.task)) (ht' : t'.CountTrue s'.db) :
    s'.CountsTrue := by
  intro u hu
  obtain ⟨j, hj⟩ := List.mem_iff_getElem?.mp hu
  rw [htasks] at hj
  by_cases hji : j = i
  · subst hji
    rw [getElem?_pooled_self ht] at hj
    cases hj
    exact ht'
  · cases of_getElem?_pooled_ne hj hji with
    | inl hold =>
      have hother : isStepOf j (.run i o) = false := beq_eq_false_iff_ne.mpr fun heq => hji heq.symm
      exact countTrue_kept hok h hold hother (htrue u (mem_of_getElem?_pool hold))
    | inr hnew =>
      obtain ⟨job, _, rfl⟩ := List.mem_map.mp hnew
      exact Task.countTrue_of_none rfl

theorem newCount_run {i : Nat} {o : Outcome} (hok : s.countsHold env (.run i o) = true)
    (htrue : s.CountsTrue) (hsum : tally Task.newCount s.tasks = added.length)
    (h : s.step env (.run i o) = some s') :
    tally Task.newCount s'.tasks = ((addedShift env s (.run i o)).toList ++ added).length ∧
      s'.CountsTrue := by
  obtain ⟨t, w, t', jobs, ht, hrun, rfl⟩ := step_run h
  have htally := tally_pooled Task.newCount ht t' (jobs.map ScrapeJob.task)
  rw [tally_jobs, Nat.add_zero] at htally
  by_cases hupload : ∃ key pc, t = .submitShifts key pc
  · obtain ⟨key, pc, rfl⟩ := hupload
    obtain ⟨⟨w₁, pc'⟩, hr, heq⟩ := Option.map_eq_some_iff.mp hrun
    cases heq
    have hsucceeds : pc.succeeds o s.toWorld = true := by
      have hfirst := (Bool.and_eq_true_iff.mp hok).1
      simpa [uploadsSucceed, ht] using hfirst
    obtain ⟨hcount, htrue'⟩ := scrapeSubmitShifts_counts hr hsucceeds (htrue _ (mem_of_getElem?_pool ht))
    refine ⟨?_, countsTrue_run hok h htrue ht rfl htrue'⟩
    obtain ⟨hsame, hcount⟩ | ⟨r, hr, hrows, hcount⟩ := hcount
    · have hrows : ∀ r ∈ w.db.shifts, r ∈ s.db.shifts := fun r hr => hsame ▸ hr
      rw [addedShift_none h hrows, Option.toList_none, List.nil_append]
      show tally Task.newCount (pooled s.tasks i _ _) = _
      omega
    · rw [addedShift_some h hr hrows, Option.toList_some, List.singleton_append, List.length_cons]
      show tally Task.newCount (pooled s.tasks i _ _) = _
      omega
  · obtain ⟨hcount, hcounted⟩ := newCount_of_run (fun key pc heq => hupload ⟨key, pc, heq⟩) hrun
    refine ⟨?_, countsTrue_run hok h htrue ht rfl (Task.countTrue_of_none hcounted)⟩
    have hrows := (shifts_step h).resolve_right (by
      rintro ⟨j, o', key, g, sh, start, stop, already, heq, hinsert⟩
      cases heq
      exact hupload ⟨_, _, Option.some.inj (ht.symm.trans hinsert)⟩)
    rw [addedShift_none h hrows, Option.toList_none, List.nil_append]
    show tally Task.newCount (pooled s.tasks i _ _) = _
    omega

theorem newCount_append {us : List Task} (hok : s.countsHold env a = true) (htrue : s.CountsTrue)
    (hsum : tally Task.newCount s.tasks = added.length) (h : s.step env a = some s')
    (hother : ∀ i o, a ≠ .run i o) (htasks : s'.tasks = s.tasks ++ us)
    (hus : ∀ t ∈ us, t.newCount = 0 ∧ t.counted = none) :
    tally Task.newCount s'.tasks = ((addedShift env s a).toList ++ added).length ∧ s'.CountsTrue := by
  have hrows := (shifts_step h).resolve_right (by
    rintro ⟨i, o, _, _, _, _, _, _, heq, _⟩
    exact hother i o heq)
  have hnotStep : ∀ j, isStepOf j a = false := by
    intro j
    cases a with
    | run i o => exact absurd rfl (hother i o)
    | _ => rfl
  refine ⟨?_, countsTrue_append hok h hnotStep htrue htasks fun t ht => (hus t ht).2⟩
  rw [addedShift_none h hrows, Option.toList_none, List.nil_append, htasks, tally_append, hsum,
    tally_eq_zero.mpr fun t ht => (hus t ht).1, Nat.add_zero]

theorem newCount_step (hok : s.countsHold env a = true) (htrue : s.CountsTrue)
    (hsum : tally Task.newCount s.tasks = added.length) (h : s.step env a = some s') :
    tally Task.newCount s'.tasks = ((addedShift env s a).toList ++ added).length ∧ s'.CountsTrue := by
  cases a with
  | run i o => exact newCount_run hok htrue hsum h
  | schedule o =>
    obtain ⟨w, sch, jobs, hrun, rfl⟩ := step_schedule h
    refine newCount_append hok htrue hsum h (by simp) rfl fun t ht => ?_
    obtain ⟨job, _, rfl⟩ := List.mem_map.mp ht
    exact ⟨rfl, rfl⟩
  | arrive r =>
    cases h
    refine newCount_append hok htrue hsum rfl (by simp) rfl fun t ht => ?_
    rw [List.mem_singleton.mp ht]
    cases r <;> exact ⟨rfl, rfl⟩
  | advance d | containerExit id | cleanupPins | sweepLimiters =>
    cases h
    exact newCount_append hok htrue hsum rfl (by simp) (List.append_nil _).symm (by simp)

/-- The new counts of all requests add up to the rows that came in, over every run in which
what they find at their SELECTs still holds at their INSERTs. -/
theorem new_counts_add_up
    (h : Reaches (recorded (step env) (addedShift env)) (fun p => countsHold env p.1)
      (boot db start, []) (s, added)) :
    tally Task.newCount s.tasks = added.length := by
  have hboot : tally Task.newCount (boot db start).tasks = ([] : List Shift).length ∧
      (boot db start).CountsTrue := ⟨rfl, fun t ht => absurd ht List.not_mem_nil⟩
  have hend : tally Task.newCount s.tasks = added.length ∧ s.CountsTrue :=
    h.invariant_recorded (I := fun s added => tally Task.newCount s.tasks = added.length ∧ s.CountsTrue)
      hboot fun _ _ _ _ hok hs hstep => newCount_step hok hs.2 hs.1 hstep
  exact hend.1

def countedOnce : Server × List Shift :=
  after (recorded (step sampleEnv) (addedShift sampleEnv)) (fun p => countsHold sampleEnv p.1)
    (boot sampleDB 0, [])
    (uploadOf [morning, moved, { moved with shiftIDExt := "shift2" }] ++ statements 1 1 ++
      iterations 1 ["sh1", "sh2", "sh3"] ++ statements 1 2)

theorem new_counts_add_up_once : countedOnce.1.accepted 1 = some ("key1", ⟨3, 2⟩) ∧
    tally Task.newCount countedOnce.1.tasks = countedOnce.2.length := by
  have hrun : Reaches (recorded (step sampleEnv) (addedShift sampleEnv))
      (fun p => countsHold sampleEnv p.1) (boot sampleDB 0, []) (countedOnce.1, countedOnce.2) :=
    reaches_recorded_after (by decide +kernel)
  exact ⟨by decide +kernel, new_counts_add_up hrun⟩

def crossedUploads (sh : CallbackShift) : List Action :=
  uploadOf [sh] ++ .arrive (.submitShifts "key1" (.ok [sh])) :: statements 2 1 ++
    statements 1 2 ++ statements 2 2 ++ [.run 1 { uuid := "sh1" }, .run 2 { uuid := "sh2" }] ++
    statements 1 2 ++ statements 2 2

def countedTwice : Server × List Shift :=
  after (recorded (step sampleEnv) (addedShift sampleEnv)) (fun p => uploadsSucceed p.1)
    (boot sampleDB 0, []) (crossedUploads morning)

/-- Both requests have counted before either inserts: each answers one new shift, and there
is one row. -/
theorem shift_counted_twice : ∃ p : Server × List Shift,
    Reaches (recorded (step sampleEnv) (addedShift sampleEnv)) (fun p => uploadsSucceed p.1)
      (boot sampleDB 0, []) p ∧
    p.1.accepted 1 = some ("key1", ⟨1, 1⟩) ∧ p.1.accepted 2 = some ("key1", ⟨1, 1⟩) ∧
    tally Task.newCount p.1.tasks = 2 ∧ p.2.length = 1 ∧ p.1.db.shifts.rows.length = 1 :=
  ⟨countedTwice, reaches_after (by decide +kernel), by decide +kernel, by decide +kernel,
    by decide +kernel, by decide +kernel, by decide +kernel⟩

end Server
end ScheduleSync
