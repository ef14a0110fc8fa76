import ScheduleSync.LogRows
import ScheduleSync.Writes

/-! Last synced. The dashboard shows scrape_schedule.last_scraped_at under that name, and
ScheduleNext sets it whatever has become of the scrape. It tells of a sync in the runs where
ScheduleNext only reaches a schedule after the success UPDATE of the same scrape. -/
namespace ScheduleSync

/-- The success UPDATE of a log was executed, or scrapeSubmitShifts has called ScheduleNext. -/
inductive SyncEvent where
  | accepted (logID userID : Uuid)
  | stamped (logID userID : Uuid) (now : Int)
deriving DecidableEq

def Task.syncEvent (o : Outcome) (w : World) : Task → Option SyncEvent
  | .submitShifts _ (.count i) =>
    if i.rest.isEmpty && !o.sqlFails then some (.accepted i.logID i.userID) else none
  | .submitShifts _ (.scheduleNext logID userID _) =>
    if o.sqlFails then none else some (.stamped logID userID (unix w.now))
  | _ => none

def Server.syncEvent (s : Server) : Action → Option SyncEvent
  | .run i o => s.tasks[i]?.bind fun t => t.syncEvent o s.toWorld
  | _ => none

/-- Whoever has a last_scraped_at had a scrape accepted, and the value was set after that
while the same scrape was handled. -/
def DB.LastSyncedTrue (history : List SyncEvent) (db : DB) : Prop :=
  ∀ r ∈ db.scrapeSchedule, ∀ t, r.lastScrapedAt = some t →
    ∃ logID later earlier, history = later ++ .stamped logID r.userID t :: earlier ∧
      .accepted logID r.userID ∈ earlier

def DB.hasSchedule (db : DB) (userID : Uuid) : Bool :=
  db.scrapeSchedule.rows.any fun r => r.userID == userID

def Task.schedulesFailure : Task → Option Uuid
  | .scrape job (.scheduleNext _) => some job.userID
  | .submitFailure _ (.scheduleNext _ userID) => some userID
  | _ => none

def Scheduler.schedulesFailure : Scheduler → Option Uuid
  | .reapSchedule e _ => some e.userID
  | _ => none

def Task.accepts : Task → Bool
  | .submitShifts _ (.count i) => i.rest.isEmpty
  | _ => false

def Task.Accepted (history : List SyncEvent) : Task → Prop
  | .submitShifts _ (.scheduleNext logID userID _) => .accepted logID userID ∈ history
  | _ => True

theorem Task.Accepted.cons {history : List SyncEvent} {t : Task} (h : t.Accepted history)
    (es : List SyncEvent) : t.Accepted (es ++ history) := by
  cases t with
  | submitShifts key pc =>
    cases pc with
    | scheduleNext logID userID answer => exact List.mem_append_right es h
    | _ => trivial
  | _ => trivial

theorem DB.LastSyncedTrue.append {history : List SyncEvent} {db : DB} (h : db.LastSyncedTrue history)
    (es : List SyncEvent) : db.LastSyncedTrue (es ++ history) := by
  intro r hr t ht
  obtain ⟨logID, later, earlier, rfl, hmem⟩ := h r hr t ht
  exact ⟨logID, es ++ later, earlier, by rw [List.append_assoc], hmem⟩

namespace Server
variable {env : Env} {s s' : Server} {a : Action} {history : List SyncEvent} {db : DB} {start : Int}

/-- ScheduleNext, when it is executed for a scrape that failed, finds no schedule, and the
success UPDATE does not fail. -/
def stampsSuccess (s : Server) : Action → Bool
  | .run i o =>
    s.tasks[i]?.all fun t =>
      (o.sqlFails || t.schedulesFailure.all fun userID => !s.db.hasSchedule userID) &&
        !(t.accepts && o.sqlFails)
  | .schedule o => o.sqlFails || s.scheduler.schedulesFailure.all fun userID => !s.db.hasSchedule userID
  | _ => true

structure SyncedTruly (history : List SyncEvent) (s : Server) : Prop where
  table : s.db.LastSyncedTrue history
  tasks : ∀ t ∈ s.tasks, t.Accepted history

theorem submitShifts_accepted {i : Nat} {o : Outcome} {key : String} {pc pc' : SubmitShiftsPc}
    {w : World} (hok : s.stampsSuccess (.run i o) = true)
    (ht : s.tasks[i]? = some (.submitShifts key pc))
    (h : scrapeSubmitShifts env o s.toWorld key pc = some (w, pc')) :
    Task.Accepted ((s.syncEvent (.run i o)).toList ++ history) (.submitShifts key pc') := by
  cases scrapeSubmitShifts_cases h with
  | finished hrest =>
    simp only [stampsSuccess, ht, Option.all_some, Bool.and_eq_true] at hok
    have hsql : o.sqlFails = false := by simpa [Task.accepts, hrest] using hok.2
    simp [syncEvent, ht, Task.syncEvent, hrest, hsql, Task.Accepted]
  | _ => trivial

theorem accepted_step (hok : s.stampsSuccess a = true) (hs : s.SyncedTruly history)
    (h : s.step env a = some s') : ∀ t ∈ s'.tasks, t.Accepted ((s.syncEvent a).toList ++ history) := by
  have hold : ∀ t ∈ s.tasks, t.Accepted ((s.syncEvent a).toList ++ history) :=
    fun t ht => (hs.tasks t ht).cons _
  have hjobs : ∀ jobs : List ScrapeJob, ∀ t ∈ jobs.map ScrapeJob.task,
      t.Accepted ((s.syncEvent a).toList ++ history) := by
    intro jobs t ht
    obtain ⟨job, _, rfl⟩ := List.mem_map.mp ht
    trivial
  cases a with
  | run i o =>
    obtain ⟨t, w, t', jobs, ht, hrun, rfl⟩ := step_run h
    refine forall_pooled hold ?_ (hjobs jobs)
    cases runTask_cases hrun with
    | submitShifts hr => exact submitShifts_accepted hok ht hr
    | begun hb => cases AuthedRequest.begin_cases hb <;> trivial
    | _ => trivial
  | schedule o =>
    obtain ⟨w, sch, jobs, hrun, rfl⟩ := step_schedule h
    exact List.forall_mem_append.mpr ⟨hold, hjobs jobs⟩
  | arrive r =>
    cases h
    refine List.forall_mem_append.mpr ⟨hold, ?_⟩
    intro t ht
    rw [List.mem_singleton.mp ht]
    cases r <;> trivial
  | _ =>
    cases h
    exact hold

theorem stamped_of_scheduleNext {userID : Uuid} {next now : Int} (hok : s.stampsSuccess a = true)
    (hs : s.SyncedTruly history) (hfails : fails a = false)
    (hx : s.write env a = some (.scheduleNext userID next now))
    (hrow : s.db.hasSchedule userID = true) :
    ∃ logID, s.syncEvent a = some (.stamped logID userID now) ∧ .accepted logID userID ∈ history := by
  obtain ⟨i, o, t, rfl, ht, hw⟩ | ⟨o, rfl, hw⟩ := write_cases hx
  · have hsql : o.sqlFails = false := hfails
    generalize hwrite : Write.scheduleNext userID next now = x at hw
    cases hw with
    | scrapeNext | failureNext =>
      cases hwrite
      simp [stampsSuccess, ht, hsql, Task.schedulesFailure, hrow] at hok
    | @shiftsNext key logID =>
      cases hwrite
      refine ⟨logID, ?_, hs.tasks _ (mem_of_getElem?_pool ht)⟩
      simp [syncEvent, ht, Task.syncEvent, hsql]
    | _ => cases hwrite
  · have hsql : o.sqlFails = false := hfails
    generalize hwrite : Write.scheduleNext userID next now = x at hw
    generalize hsch : s.scheduler = sch at hw
    cases hw with
    | reapSchedule =>
      cases hwrite
      simp [stampsSuccess, hsch, hsql, Scheduler.schedulesFailure, hrow] at hok
    | _ => cases hwrite

theorem syncedTruly_step (hok : s.stampsSuccess a = true) (hs : s.SyncedTruly history)
    (h : s.step env a = some s') : s'.SyncedTruly ((s.syncEvent a).toList ++ history) := by
  refine ⟨?_, accepted_step hok hs h⟩
  refine db_step_executed h (P := DB.LastSyncedTrue ((s.syncEvent a).toList ++ history))
    (hs.table.append _) fun hfails x hwr hdone _ => ?_
  intro r hr t ht
  obtain ⟨r₀, hr₀, huser, hlast⟩ | ⟨next, rfl, hnone⟩ := hdone.scrapeSchedule hr
  · obtain hsame | ⟨next, now, rfl, hnow⟩ := hlast
    · rw [← huser]
      exact hs.table.append _ r₀ hr₀ t (hsame.trans ht)
    · have hrow : s.db.hasSchedule r.userID = true :=
        List.any_eq_true.mpr ⟨r₀, hr₀, beq_iff_eq.mpr huser⟩
      obtain ⟨logID, hevent, hmem⟩ := stamped_of_scheduleNext hok hs hfails hwr hrow
      obtain rfl := Option.some.inj (hnow.symm.trans ht)
      exact ⟨logID, [], history, by rw [hevent]; rfl, hmem⟩
  · rw [hnone] at ht
    cases ht

/-- Last synced tells the truth, over every run in which ScheduleNext reaches no schedule
after a failed scrape. -/
theorem last_synced_true (hdb : ∀ r ∈ db.scrapeSchedule, r.lastScrapedAt = none)
    (h : Reaches (recorded (step env) syncEvent) (fun p => stampsSuccess p.1) (boot db start, [])
      (s, history)) : s.db.LastSyncedTrue history := by
  have hboot : (boot db start).SyncedTruly [] := by
    refine ⟨fun r hr t ht => ?_, fun t ht => absurd ht List.not_mem_nil⟩
    rw [hdb r hr] at ht
    cases ht
  have hsynced : s.SyncedTruly history :=
    h.invariant_recorded (I := fun s history => s.SyncedTruly history) hboot
      fun _ _ _ _ hok hs hstep => syncedTruly_step hok hs hstep
  exact hsynced.table

def syncedFirst : Server × List SyncEvent :=
  after (recorded (step sampleEnv) syncEvent) (fun p => stampsSuccess p.1) (boot .empty 0, [])
    (firstSync firstToken)

theorem last_synced_true_first : (syncedFirst.1.db.scrapeSchedule.rows.map ScrapeSchedule.lastScrapedAt) =
    [some 0] ∧ syncedFirst.1.db.LastSyncedTrue syncedFirst.2 := by
  have hrun : Reaches (recorded (step sampleEnv) syncEvent) (fun p => stampsSuccess p.1)
      (boot .empty 0, []) (syncedFirst.1, syncedFirst.2) :=
    reaches_recorded_after (by decide +kernel)
  exact ⟨by decide +kernel, last_synced_true (fun r hr => absurd hr List.not_mem_nil) hrun⟩

def failedStart : List Action :=
  firstSave ++ [.run 1 {}, .run 1 { uuid := "log1", key := "key1" }, .run 1 {}, .run 1 {},
    .run 1 { dockerFails := true }, .run 1 {}, .run 1 {}]

def startFailed : Server × List SyncEvent :=
  after (recorded (step sampleEnv) syncEvent) (fun p => anyStep p.1) (boot sessionDB 0, []) failedStart

/-- A manual scrape whose container cannot be created is shown as a sync. -/
theorem last_synced_without_sync : ∃ p : Server × List SyncEvent,
    Reaches (recorded (step sampleEnv) syncEvent) (fun p => anyStep p.1) (boot sessionDB 0, []) p ∧
      ¬ p.1.db.LastSyncedTrue p.2 := by
  refine ⟨startFailed, reaches_after (by decide +kernel), fun htrue => ?_⟩
  have hhistory : startFailed.2 = [] := by decide +kernel
  obtain ⟨r, hr, hlast⟩ : ∃ r ∈ startFailed.1.db.scrapeSchedule.rows, r.lastScrapedAt = some 0 := by
    decide +kernel
  obtain ⟨_, later, _, heq, _⟩ := htrue r hr 0 hlast
  simp [hhistory] at heq

end Server
end ScheduleSync
