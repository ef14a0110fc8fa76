import Mathlib.Data.List.Nodup
import ScheduleSync.Effects
import ScheduleSync.Lifecycle

/-! The running server as one scrape log sees it. Counting who launches, holds
or owes a log turns every step of the server into a step of the lifecycle, so
the laws of the lifecycle hold of every log. -/
namespace ScheduleSync

section Counts
variable (L : Uuid) (W : Worker)

def countRefs (refs : List LogRef) : Nat := refs.countP fun r => r.logID == L

def Worker.launches : Nat := countRefs L W.launching
def Worker.holds : Nat := countRefs L W.holding

/-- An attempt on its way to its INSERT still owes the disposition of the log it retries. -/
def Worker.owes : Nat :=
  countRefs L W.owing + if W.job.bind ScrapeJob.parent = some L then 1 else 0

@[simp] theorem countRefs_nil : countRefs L [] = 0 := rfl

@[simp] theorem countRefs_cons (r : LogRef) (refs : List LogRef) :
    countRefs L (r :: refs) = countRefs L refs + if r.logID = L then 1 else 0 := by
  simp [countRefs, List.countP_cons]

theorem countRefs_eq_zero {refs : List LogRef} : countRefs L refs = 0 ↔ ∀ r ∈ refs, r.logID ≠ L := by
  simp [countRefs, List.countP_eq_zero]

theorem countRefs_of_mem {refs : List LogRef} (h : (refs.map LogRef.logID).Nodup)
    (hL : ∃ r ∈ refs, r.logID = L) : countRefs L refs = 1 := by
  have hcount : countRefs L refs = (refs.map LogRef.logID).count L := by
    simp [countRefs, List.count, List.countP_map, Function.comp_def]
  obtain ⟨r, hr, hid⟩ := hL
  rw [hcount, List.count_eq_one_of_mem h (hid ▸ List.mem_map_of_mem hr)]

@[simp] theorem launches_mk (j : Option ScrapeJob) (l h o : List LogRef) :
    (Worker.mk j l h o).launches L = countRefs L l := rfl

@[simp] theorem holds_mk (j : Option ScrapeJob) (l h o : List LogRef) :
    (Worker.mk j l h o).holds L = countRefs L h := rfl

@[simp] theorem owes_mk (l h o : List LogRef) : (Worker.mk none l h o).owes L = countRefs L o :=
  rfl

@[simp] theorem launches_ofJob (job : ScrapeJob) : (Worker.ofJob job).launches L = 0 := rfl
@[simp] theorem holds_ofJob (job : ScrapeJob) : (Worker.ofJob job).holds L = 0 := rfl
@[simp] theorem owes_ofJob (job : ScrapeJob) :
    (Worker.ofJob job).owes L = if job.parent = some L then 1 else 0 :=
  Nat.zero_add _

@[simp] theorem retryOf_parent (job : ScrapeJob) : (job.retryOf L).parent = some L := rfl

end Counts

theorem Task.call_launches {env : Env} {o : Outcome} {w : World} {t : Task} {job : ScrapeJob}
    (h : job ∈ (t.call env o w).launches) :
    job.parent = none ∧ job.retryCount = 0 ∧ job.isAuto = false := by
  cases t with
  | authed token req =>
    simp only [Task.call, runTask] at h
    split at h
    · rename_i hstep
      split_ifs at hstep
      · cases hstep
        cases h
      · split at hstep
        · cases hstep
          cases h
        · rename_i u _
          obtain ⟨_, hb⟩ := Prod.mk.inj (Option.some.inj hstep)
          have hjobs := congrArg Prod.snd hb
          simp only at hjobs
          rw [← hjobs] at h
          cases req with
          | triggerScrape userID =>
            simp only [AuthedRequest.begin] at h
            split_ifs at h
            · cases h
            · cases userID with
              | error _ => cases h
              | ok id =>
                rw [List.mem_singleton.mp h]
                exact ⟨rfl, rfl, rfl⟩
          | _ => cases h
    · cases h
  | writeCredentials userID pc =>
    cases pc with
    | schedule now =>
      rw [List.mem_singleton.mp h]
      exact ⟨rfl, rfl, rfl⟩
    | _ => cases h
  | scrape job pc => cases pc <;> cases h
  | submitShifts key pc =>
    cases pc with
    | count i =>
      simp only [Task.call, SubmitShiftsPc.call] at h
      split at h <;> cases h
    | _ => cases h
  | submitFailure key pc => cases pc <;> cases h
  | _ => cases h

theorem Scheduler.call_launches {o : Outcome} {w : World} {sch : Scheduler} {job : ScrapeJob}
    (h : job ∈ (sch.call o w).launches) :
    job.parent = none ∧ job.retryCount = 0 ∧ job.isAuto = true ∧
      ∃ r ∈ w.db.scrapeSchedule, r.userID = job.userID ∧ r.nextScrapeAt ≤ unix w.now := by
  cases sch with
  | due =>
    simp only [Scheduler.call] at h
    split_ifs at h
    · cases h
    · obtain ⟨uid, huid, rfl⟩ := List.mem_map.mp h
      obtain ⟨r, hr, rfl⟩ := List.mem_map.mp huid
      obtain ⟨hmem, hdue⟩ := List.mem_filter.mp hr
      exact ⟨rfl, rfl, rfl, r, hmem, rfl, of_decide_eq_true hdue⟩
  | retention now stmts => cases stmts <;> cases h
  | _ => cases h

namespace Server
variable {env : Env} {s s' : Server} {a : Action}

def workers (s : Server) : List Worker := s.scheduler.worker :: s.tasks.map Task.worker

def call (env : Env) (s : Server) : Action → Call
  | .run i o =>
    match s.tasks[i]? with
    | none => {}
    | some t => t.call env o s.toWorld
  | .schedule o => s.scheduler.call o s.toWorld
  | _ => {}

theorem call_launches {job : ScrapeJob} (h : job ∈ (s.call env a).launches) :
    job.parent = none ∧ job.retryCount = 0 := by
  cases a with
  | run i o =>
    simp only [call] at h
    split at h
    · cases h
    · obtain ⟨hparent, hcount, _⟩ := Task.call_launches h
      exact ⟨hparent, hcount⟩
  | schedule o =>
    obtain ⟨hparent, hcount, _⟩ := Scheduler.call_launches h
    exact ⟨hparent, hcount⟩
  | _ => cases h

theorem call_launches_due {job : ScrapeJob} (h : job ∈ (s.call env a).launches)
    (hauto : job.isAuto = true) :
    ∃ r ∈ s.db.scrapeSchedule, r.userID = job.userID ∧ r.nextScrapeAt ≤ unix s.now := by
  cases a with
  | run i o =>
    simp only [call] at h
    split at h
    · cases h
    · obtain ⟨_, _, hmanual⟩ := Task.call_launches h
      rw [hauto] at hmanual
      cases hmanual
  | schedule o =>
    obtain ⟨_, _, _, hdue⟩ := Scheduler.call_launches h
    exact hdue
  | _ => cases h

theorem step_effect (h : s.step env a = some s') :
    ∃ i W W' spawned, s.workers[i]? = some W ∧ s'.workers = pooled s.workers i W' spawned ∧
      Effect (s.call env a) s.toWorld s'.toWorld W W' spawned := by
  have hjobs : ∀ jobs : List ScrapeJob,
      (jobs.map ScrapeJob.task).map Task.worker = jobs.map Worker.ofJob := by
    intro jobs
    rw [List.map_map]
    rfl
  cases a with
  | run i o =>
    obtain ⟨t, w, t', jobs, ht, hrun, rfl⟩ := step_run h
    have hcall : s.call env (.run i o) = t.call env o s.toWorld := by
      simp only [call, ht]
    rw [hcall]
    refine ⟨i + 1, t.worker, t'.worker, _, ?_, ?_, runTask_effect hrun⟩
    · simp [workers, ht]
    · simp [workers, pooled, List.map_set, hjobs]
  | schedule o =>
    obtain ⟨w, sch, jobs, hrun, rfl⟩ := step_schedule h
    refine ⟨0, s.scheduler.worker, sch.worker, _, rfl, ?_, runScheduler_effect hrun⟩
    simp [workers, pooled, hjobs]
  | arrive r =>
    cases h
    refine ⟨0, s.scheduler.worker, s.scheduler.worker, [{}], rfl, ?_, .of_eq rfl rfl rfl,
      .arrive _ (.of_eq rfl rfl rfl)⟩
    have hr : r.task.worker = {} := by cases r <;> rfl
    simp [workers, pooled, hr]
  | advance d =>
    cases h
    refine ⟨0, s.scheduler.worker, s.scheduler.worker, [], rfl, ?_, ⟨?_, fun _ hx => hx, ?_, ?_⟩,
      .quiet _ (.of_eq rfl rfl rfl)⟩
    · simp [workers, pooled]
    · simp
    · exact fun l hl => .inl (DB.continues_of_mem hl)
    · exact fun r hr => .inl hr
  | _ =>
    cases h
    refine ⟨0, s.scheduler.worker, s.scheduler.worker, [], rfl, ?_, .of_eq rfl rfl rfl,
      .quiet _ (.of_eq rfl rfl rfl)⟩
    simp [workers, pooled]

def launchers (s : Server) (L : Uuid) : Nat := tally (Worker.launches L) s.workers
def holders (s : Server) (L : Uuid) : Nat := tally (Worker.holds L) s.workers
def owers (s : Server) (L : Uuid) : Nat := tally (Worker.owes L) s.workers

def settled (s : Server) (L : Uuid) : Nat :=
  (s.trace.attempts.countP fun att => att.parent == some L) + s.trace.scheduled.count L

def standing (s : Server) (L : Uuid) : Lifecycle.Standing LogCore :=
  ⟨s.db.standing L, s.launchers L, s.holders L, s.owers L, s.settled L⟩

def rules (env : Env) (s : Server) (a : Action) (s' : Server) (L : Uuid) :
    Lifecycle.Rules LogCore where
  isOpen := LogCore.isRunning
  mayHold r := (s.call env a).failsStart = some L ∧ r = s.db.standing L
  fresh := L ∉ s.drawn ∧ L ∈ s'.drawn
  forgets := (s.call env a).finishes = some L ∧ (s.call env a).sqlFails = true
  drops := ∃ job, (s.call env a).failsInsert = some job ∧ job.parent = some L
  exclusive := (s.call env a).finishes = some L → s.holders L ≤ 1

def Fresh (s : Server) : Prop := ∀ L, L ∉ s.drawn → s.standing L = .unknown

theorem standing_eq {L : Uuid} {r : Option LogCore} {n h o d : Nat} (hrow : s.db.standing L = r)
    (hn : s.launchers L = n) (hh : s.holders L = h) (ho : s.owers L = o) (hd : s.settled L = d) :
    s.standing L = ⟨r, n, h, o, d⟩ := by
  rw [standing, hrow, hn, hh, ho, hd]

theorem settled_eq {L : Uuid} (hatt : s'.trace.attempts = s.trace.attempts)
    (hsched : s'.trace.scheduled = s.trace.scheduled) : s'.settled L = s.settled L := by
  rw [settled, hatt, hsched, settled]

theorem finish_closes {v : Verdict} {now : Int} {r : Option LogCore} :
    (∀ l, r.map (LogCore.finish v now) = some l → ¬ l.isRunning) ∧
      (r.map (LogCore.finish v now)).isSome = r.isSome := by
  refine ⟨?_, by simp⟩
  intro l hl
  obtain ⟨c, _, rfl⟩ := Option.map_eq_some_iff.mp hl
  rw [LogCore.isRunning, LogCore.finish_status]
  exact v.status_ne_running

theorem finish_step {c : Call} {w w' : World} {id L : Uuid} (h : Finished c w w' id) :
    (L ≠ id → w'.db.standing L = w.db.standing L) ∧
      (L = id → ((∀ l, w'.db.standing L = some l → ¬ l.isRunning) ∧
        (w'.db.standing L).isSome = (w.db.standing L).isSome) ∨
          w'.db.standing L = w.db.standing L ∧ c.finishes = some L ∧ c.sqlFails = true) := by
  cases h.row with
  | inl hwritten =>
    obtain ⟨v, hrow⟩ := hwritten
    refine ⟨fun hne => by rw [hrow, if_neg hne], fun heq => .inl ?_⟩
    rw [hrow, if_pos heq]
    exact finish_closes
  | inr hlost => exact ⟨fun _ => hlost.2 L, fun heq => .inr ⟨hlost.2 L, heq ▸ h.call, hlost.1⟩⟩

theorem tally_launches (env : Env) (s : Server) (a : Action) (L : Uuid) :
    tally (Worker.launches L) ((s.call env a).launches.map Worker.ofJob) = 0 ∧
      tally (Worker.holds L) ((s.call env a).launches.map Worker.ofJob) = 0 ∧
      tally (Worker.owes L) ((s.call env a).launches.map Worker.ofJob) = 0 := by
  refine ⟨?_, ?_, ?_⟩
  all_goals
    rw [tally_eq_zero]
    intro V hV
    obtain ⟨job, hjob, rfl⟩ := List.mem_map.mp hV
    simp [(call_launches hjob).1]

theorem counts_step {i : Nat} {W W' : Worker} {spawned : List Worker}
    (hW : s.workers[i]? = some W) (hws : s'.workers = pooled s.workers i W' spawned) (L : Uuid) :
    s'.launchers L + W.launches L =
        s.launchers L + W'.launches L + tally (Worker.launches L) spawned ∧
      s'.holders L + W.holds L = s.holders L + W'.holds L + tally (Worker.holds L) spawned ∧
      s'.owers L + W.owes L = s.owers L + W'.owes L + tally (Worker.owes L) spawned := by
  simp only [launchers, holders, owers, hws]
  exact ⟨tally_pooled _ hW W' spawned, tally_pooled _ hW W' spawned, tally_pooled _ hW W' spawned⟩

section Moves
variable {L : Uuid}

theorem standing_stay (hrow : s'.db.standing L = s.db.standing L)
    (hd : s'.settled L = s.settled L) (hn : s'.launchers L = s.launchers L)
    (hh : s'.holders L = s.holders L) (ho : s'.owers L = s.owers L) :
    Lifecycle.Step (rules env s a s' L) (s.standing L) (s'.standing L) :=
  .of_eq (.stay _) rfl (standing_eq hrow hn hh ho hd)

theorem standing_settle {owed : Prop} [Decidable owed]
    (hrow : s'.db.standing L = s.db.standing L)
    (hd : s'.settled L = s.settled L + if owed then 1 else 0)
    (hn : s'.launchers L = s.launchers L) (hh : s'.holders L = s.holders L)
    (ho : s'.owers L + (if owed then 1 else 0) = s.owers L) :
    Lifecycle.Step (rules env s a s' L) (s.standing L) (s'.standing L) := by
  by_cases howed : owed
  · rw [if_pos howed] at hd ho
    exact .of_eq (.settle _ _ _ _ _) (standing_eq rfl rfl rfl ho.symm rfl)
      (standing_eq hrow hn hh rfl hd)
  · rw [if_neg howed] at hd ho
    exact standing_stay hrow hd hn hh ho

theorem standing_check {refs : List LogRef} (hsame : SameLogs s.toWorld s'.toWorld)
    (hnodup : (refs.map LogRef.logID).Nodup)
    (hrow : ∀ r ∈ refs, r.job = none ∧ ∃ l, s.db.standing r.logID = some l ∧
      l.userID = r.userID ∧ l.status = .running)
    (hn : s'.launchers L = s.launchers L) (hh : s'.holders L = s.holders L + countRefs L refs)
    (ho : s'.owers L = s.owers L) :
    Lifecycle.Step (rules env s a s' L) (s.standing L) (s'.standing L) := by
  have hd := settled_eq (L := L) hsame.attempts hsame.scheduled
  by_cases hL : ∃ r ∈ refs, r.logID = L
  · rw [countRefs_of_mem L hnodup hL] at hh
    obtain ⟨r, hr, rfl⟩ := hL
    obtain ⟨_, l, hl, _, hrunning⟩ := hrow r hr
    exact .of_eq (.check l _ _ _ _ hrunning) (standing_eq hl rfl rfl rfl rfl)
      (standing_eq ((hsame.row _).trans hl) hn hh ho hd)
  · have hzero : countRefs L refs = 0 := by
      rw [countRefs_eq_zero]
      exact fun r hr hid => hL ⟨r, hr, hid⟩
    rw [hzero] at hh
    exact standing_stay (hsame.row L) hd hn hh ho

theorem standing_insert {job : ScrapeJob} {id key : Uuid} (hfresh : s.Fresh) (hnew : id ∉ s.drawn)
    (hdrawn : id ∈ s'.drawn)
    (hrow : s'.db.standing L =
      if L = id then some (job.newLog id key (unix s.now)).core else s.db.standing L)
    (hatt : s'.trace.attempts = ⟨job.newLog id key (unix s.now), job.parent⟩ :: s.trace.attempts)
    (hsched : s'.trace.scheduled = s.trace.scheduled)
    (hn : s'.launchers L = s.launchers L + if id = L then 1 else 0)
    (hh : s'.holders L = s.holders L)
    (ho : s'.owers L + (if job.parent = some L then 1 else 0) = s.owers L) :
    Lifecycle.Step (rules env s a s' L) (s.standing L) (s'.standing L) := by
  have hd : s'.settled L = s.settled L + if job.parent = some L then 1 else 0 := by
    rw [settled, hatt, hsched, settled, List.countP_cons]
    simp only [beq_iff_eq]
    omega
  by_cases hL : L = id
  · subst hL
    have hunknown := hfresh L hnew
    obtain ⟨_, h₁, h₂, h₃, h₄⟩ := Lifecycle.Standing.mk.inj hunknown
    -- nobody owes an id that was just drawn, so it is not the attempt's own parent
    have hparent : ¬ job.parent = some L := by
      intro hp
      rw [if_pos hp] at ho
      omega
    rw [if_neg hparent] at ho hd
    rw [if_pos rfl] at hn hrow
    exact .of_eq (.appear (job.newLog L key (unix s.now)).core rfl ⟨hnew, hdrawn⟩) hunknown
      (standing_eq hrow (by omega) (by omega) (by omega) (by omega))
  · rw [if_neg hL] at hrow
    rw [if_neg fun h => hL h.symm] at hn
    exact standing_settle hrow hd hn hh ho

theorem standing_launchFails {r : LogRef} (hsame : SameLogs s.toWorld s'.toWorld)
    (hcall : (s.call env a).failsStart = some r.logID)
    (hn : s'.launchers L + (if r.logID = L then 1 else 0) = s.launchers L)
    (hh : s'.holders L = s.holders L + if r.logID = L then 1 else 0)
    (ho : s'.owers L = s.owers L) :
    Lifecycle.Step (rules env s a s' L) (s.standing L) (s'.standing L) := by
  have hd := settled_eq (L := L) hsame.attempts hsame.scheduled
  by_cases hL : r.logID = L
  · subst hL
    rw [if_pos rfl] at hn hh
    exact .of_eq (.launchFails _ _ _ _ _ ⟨hcall, rfl⟩) (standing_eq rfl hn.symm rfl rfl rfl)
      (standing_eq (hsame.row _) rfl hh ho hd)
  · rw [if_neg hL] at hn hh
    exact standing_stay (hsame.row L) hd hn hh ho

theorem standing_finish {r : LogRef}
    (hfin : Finished (s.call env a) s.toWorld s'.toWorld r.logID)
    (hn : s'.launchers L = s.launchers L)
    (hh : s'.holders L + (if r.logID = L then 1 else 0) = s.holders L)
    (ho : s'.owers L = s.owers L + if r.logID = L then 1 else 0) :
    Lifecycle.Step (rules env s a s' L) (s.standing L) (s'.standing L) := by
  have hd := settled_eq (L := L) hfin.attempts hfin.scheduled
  obtain ⟨hother, hthis⟩ := finish_step (L := L) hfin
  by_cases hL : r.logID = L
  · subst hL
    rw [if_pos rfl] at hh ho
    refine .of_eq (.finish _ _ _ _ _ _ ?_ ?_) (standing_eq rfl rfl hh.symm rfl rfl)
      (standing_eq rfl hn rfl ho hd)
    · intro hexcl
      have hle := hexcl hfin.call
      omega
    · cases hthis rfl with
      | inl hclosed => exact .inl hclosed
      | inr hlost => exact .inr ⟨hlost.1, hlost.2⟩
  · rw [if_neg hL] at hh ho
    exact standing_stay (hother fun h => hL h.symm) hd hn hh ho

end Moves

theorem standing_step (hfresh : s.Fresh) (h : s.step env a = some s') (L : Uuid) :
    Lifecycle.Step (rules env s a s' L) (s.standing L) (s'.standing L) := by
  obtain ⟨i, W, W', spawned, hW, hws, hframe, hwork⟩ := step_effect h
  obtain ⟨hn, hh, ho⟩ := counts_step hW hws L
  cases hwork with
  | quiet _ hsame =>
    obtain ⟨h₁, h₂, h₃⟩ := tally_launches env s a L
    exact standing_stay (hsame.row L) (settled_eq hsame.attempts hsame.scheduled) (by omega)
      (by omega) (by omega)
  | arrive _ hsame =>
    simp only [tally_singleton, launches_mk, holds_mk, owes_mk, countRefs_nil] at hn hh ho
    exact standing_stay (hsame.row L) (settled_eq hsame.attempts hsame.scheduled) (by omega)
      (by omega) (by omega)
  | remove _ hrow hatt hsched =>
    simp only [tally_nil, Nat.add_zero, Nat.add_right_cancel_iff] at hn hh ho
    have hd := settled_eq (L := L) hatt hsched
    cases hrow L with
    | inl hrow => exact standing_stay hrow hd hn hh ho
    | inr hgone => exact .of_eq (.remove _) rfl (standing_eq hgone.1 hn hh ho hd)
  | check refs hsame hnodup hrow =>
    simp only [tally_nil, launches_mk, holds_mk, owes_mk, countRefs_nil] at hn hh ho
    exact standing_check hsame hnodup hrow (by omega) (by omega) (by omega)
  | insert job id key hnew hdrawn hrow hatt hsched =>
    simp only [tally_nil, launches_mk, holds_mk, owes_mk, launches_ofJob, holds_ofJob, owes_ofJob,
      countRefs_nil, countRefs_cons] at hn hh ho
    exact standing_insert hfresh hnew hdrawn (hrow L) hatt hsched (by omega) (by omega) (by omega)
  | insertFails job hsame hcall =>
    simp only [tally_nil, launches_mk, holds_mk, owes_mk, launches_ofJob, holds_ofJob, owes_ofJob,
      countRefs_nil, Nat.add_zero] at hn hh ho
    have hd := settled_eq (L := L) hsame.attempts hsame.scheduled
    by_cases hp : job.parent = some L
    · rw [if_pos hp] at ho
      exact .of_eq (.lose _ _ _ _ _ ⟨job, hcall, hp⟩) (standing_eq rfl rfl rfl ho.symm rfl)
        (standing_eq (hsame.row L) hn hh rfl hd)
    · rw [if_neg hp] at ho
      exact standing_stay (hsame.row L) hd hn hh ho
  | launched r hsame =>
    simp only [tally_nil, launches_mk, holds_mk, owes_mk, countRefs_nil, countRefs_cons,
      Nat.zero_add, Nat.add_zero] at hn hh ho
    have hd := settled_eq (L := L) hsame.attempts hsame.scheduled
    by_cases hL : r.logID = L
    · rw [if_pos hL] at hn
      exact .of_eq (.launched _ _ _ _ _) (standing_eq rfl hn.symm rfl rfl rfl)
        (standing_eq (hsame.row L) rfl hh ho hd)
    · rw [if_neg hL] at hn
      exact standing_stay (hsame.row L) hd hn hh ho
  | launchFails r hsame hcall =>
    simp only [tally_nil, launches_mk, holds_mk, owes_mk, countRefs_nil, countRefs_cons] at hn hh ho
    exact standing_launchFails hsame hcall (by omega) (by omega) (by omega)
  | finish r rest hfin =>
    simp only [tally_nil, launches_mk, holds_mk, owes_mk, countRefs_nil, countRefs_cons] at hn hh ho
    exact standing_finish hfin (by omega) (by omega) (by omega)
  | finishRetry r job hfin =>
    simp only [tally_nil, launches_mk, holds_mk, owes_mk, launches_ofJob, holds_ofJob, owes_ofJob,
      retryOf_parent, Option.some.injEq, countRefs_nil, countRefs_cons] at hn hh ho
    exact standing_finish hfin (by omega) (by omega) (by omega)
  | handOver r rest job l hsame hparent =>
    simp only [tally_singleton, launches_mk, holds_mk, owes_mk, launches_ofJob, holds_ofJob,
      owes_ofJob, hparent, Option.some.injEq, countRefs_nil, countRefs_cons] at hn hh ho
    exact standing_stay (hsame.row L) (settled_eq hsame.attempts hsame.scheduled) (by omega)
      (by omega) (by omega)
  | settle r rest hrow hatt hsched =>
    simp only [tally_nil, launches_mk, holds_mk, owes_mk, countRefs_nil, countRefs_cons] at hn hh ho
    have hd : s'.settled L = s.settled L + if r.logID = L then 1 else 0 := by
      rw [settled, hatt, hsched, settled, List.count_cons]
      simp only [beq_iff_eq]
      omega
    exact standing_settle (hrow L) hd (by omega) (by omega) (by omega)

theorem fresh_boot {db : DB} {now : Int} : (boot db now).Fresh := by
  intro L hL
  have hrow : db.standing L = none := by
    unfold DB.standing
    cases h : db.scrapeLog L with
    | none => rfl
    | some l =>
      obtain ⟨hl, hid⟩ := DB.mem_of_scrapeLog h
      have hmem : l.id ∈ db.scrapeLogs.rows.map ScrapeLog.id := List.mem_map_of_mem hl
      rw [hid] at hmem
      exact absurd (by simp [boot, World.boot, DB.drawn, hmem]) hL
  exact standing_eq hrow rfl rfl rfl rfl

theorem not_drawn_of_step (h : s.step env a = some s') {L : Uuid} (hL : L ∉ s'.drawn) :
    L ∉ s.drawn := by
  obtain ⟨_, _, _, _, _, _, hframe, _⟩ := step_effect h
  exact fun hx => hL (hframe.drawn L hx)

theorem now_step (h : s.step env a = some s') : unix s.now ≤ unix s'.now := by
  obtain ⟨_, _, _, _, _, _, hframe, _⟩ := step_effect h
  exact unix_mono hframe.now

theorem fresh_step (hs : s.Fresh) (h : s.step env a = some s') : s'.Fresh := by
  intro L hL
  have hnew := not_drawn_of_step h hL
  exact Lifecycle.step_unknown (standing_step hs h L) (hs L hnew) fun hf => hL hf.2

/-! Conditions on a step. Whoever executes a terminal UPDATE is the only one to
have read the log as running, and a container fails to start only while its log
is not finished. -/

def soleFinisher (env : Env) (s : Server) (a : Action) : Bool :=
  (s.call env a).finishes.all fun L => decide (s.holders L ≤ 1)

def failsUnfinished (env : Env) (s : Server) (a : Action) : Bool :=
  (s.call env a).failsStart.all fun L => (s.db.standing L).all fun l => l.status == .running

def failsRunning (env : Env) (s : Server) (a : Action) : Bool :=
  (s.call env a).failsStart.all fun L => (s.db.standing L).any fun l => l.status == .running

theorem exclusive_of_soleFinisher (h : s.soleFinisher env a = true) (L : Uuid) :
    (rules env s a s' L).exclusive := by
  intro hL
  simpa [soleFinisher, hL] using h

theorem isRunning_of_failsUnfinished (h : s.failsUnfinished env a = true) {L : Uuid} {l : LogCore}
    (hmay : (rules env s a s' L).mayHold (some l)) : l.isRunning := by
  obtain ⟨hL, hl⟩ := hmay
  simpa [failsUnfinished, hL, ← hl, LogCore.isRunning] using h

theorem isRunning_of_failsRunning (h : s.failsRunning env a = true) {L : Uuid} {r : Option LogCore}
    (hmay : (rules env s a s' L).mayHold r) : ∃ l, r = some l ∧ l.isRunning := by
  obtain ⟨hL, rfl⟩ := hmay
  cases hl : s.db.standing L with
  | none => simp [failsRunning, hL, hl] at h
  | some l => exact ⟨l, rfl, by simpa [failsRunning, hL, hl, LogCore.isRunning] using h⟩

end Server
end ScheduleSync
