import ScheduleSync.HandlerSteps

/-! What one step of a task or of the scheduler can do to scrape attempts. A task
is reduced to the logs it is working on, a row of scrape_logs to the columns that
say how the attempt stands, and every step of the code is one of the moves below. -/
namespace ScheduleSync

/-- The columns of scrape_logs that say whose attempt it is and how it ended. -/
structure LogCore where
  userID : Uuid
  startedAt : Int
  retryCount : Nat
  isAuto : Nat
  status : ScrapeStatus
  finishedAt : Option Int
  shiftsFound : Option Nat
  shiftsNew : Option Nat
deriving DecidableEq

def ScrapeLog.core (l : ScrapeLog) : LogCore :=
  ⟨l.userID, l.startedAt, l.retryCount, l.isAuto, l.status, l.finishedAt, l.shiftsFound, l.shiftsNew⟩

def LogCore.isRunning (c : LogCore) : Prop := c.status = .running

def LogCore.finish (v : Verdict) (now : Int) (c : LogCore) : LogCore :=
  match v with
  | .reportedShifts found new =>
    { c with
      status := .success, finishedAt := some now
      shiftsFound := some found, shiftsNew := some new }
  | _ => { c with status := .failure, finishedAt := some now }

theorem ScrapeLog.core_finish (v : Verdict) (now : Int) (l : ScrapeLog) :
    (l.finish v now).core = l.core.finish v now := by cases v <;> rfl

@[simp] theorem LogCore.finish_status (v : Verdict) (now : Int) (c : LogCore) :
    (c.finish v now).status = v.status := by cases v <;> rfl

@[simp] theorem LogCore.finish_userID (v : Verdict) (now : Int) (c : LogCore) :
    (c.finish v now).userID = c.userID := by cases v <;> rfl

@[simp] theorem LogCore.finish_retryCount (v : Verdict) (now : Int) (c : LogCore) :
    (c.finish v now).retryCount = c.retryCount := by cases v <;> rfl

@[simp] theorem LogCore.finish_isAuto (v : Verdict) (now : Int) (c : LogCore) :
    (c.finish v now).isAuto = c.isAuto := by cases v <;> rfl

def DB.standing (db : DB) (L : Uuid) : Option LogCore := (db.scrapeLog L).map ScrapeLog.core

section Rows
variable {db db' : DB}

theorem same_id_clash {L : Uuid} (a b : ScrapeLog) (ha : (a.id == L) = true)
    (hb : (b.id == L) = true) : Keyed.Clash a b :=
  .inl ((beq_iff_eq.mp ha).trans (beq_iff_eq.mp hb).symm)

theorem DB.mem_of_scrapeLog {L : Uuid} {l : ScrapeLog} (h : db.scrapeLog L = some l) :
    l ∈ db.scrapeLogs ∧ l.id = L := by
  obtain ⟨hl, hid⟩ := Table.queryRow_some h
  exact ⟨hl, beq_iff_eq.mp hid⟩

theorem DB.scrapeLog_of_mem {l : ScrapeLog} (h : l ∈ db.scrapeLogs) :
    db.scrapeLog l.id = some l :=
  Table.queryRow_eq_some h (by simp) same_id_clash

theorem DB.mem_of_runningLog {key : String} {l : ScrapeLog} (h : db.runningLog key = some l) :
    l ∈ db.scrapeLogs ∧ l.scrapeKey = some key ∧ l.status = .running := by
  obtain ⟨hl, hmatch⟩ := Table.queryRow_some h
  exact ⟨hl, by simpa using hmatch⟩

theorem DB.runningLog_of_mem {key : String} {l : ScrapeLog} (hl : l ∈ db.scrapeLogs)
    (hkey : l.scrapeKey = some key) (hrunning : l.status = .running) :
    db.runningLog key = some l := by
  refine Table.queryRow_eq_some hl (by simp [hkey, hrunning]) ?_
  intro a b ha hb
  simp only [Bool.and_eq_true, beq_iff_eq] at ha hb
  exact .inr ⟨ha.1.trans hb.1.symm, by simp [ha.1]⟩

theorem DB.runningLog_eq_none {key : String}
    (h : ∀ l ∈ db.scrapeLogs, l.scrapeKey = some key → l.status ≠ .running) :
    db.runningLog key = none := by
  cases hfound : db.runningLog key with
  | none => rfl
  | some l =>
    obtain ⟨hl, hkey, hrunning⟩ := DB.mem_of_runningLog hfound
    exact absurd hrunning (h l hl hkey)

theorem DB.standing_of_mem {l : ScrapeLog} (h : l ∈ db.scrapeLogs) :
    db.standing l.id = some l.core := by
  rw [DB.standing, DB.scrapeLog_of_mem h]
  rfl

theorem standing_update (t : Table ScrapeLog) (p : ScrapeLog → Bool) (f : ScrapeLog → ScrapeLog) (hf)
    (hid : ∀ l, (f l).id = l.id) (L : Uuid) :
    ((t.update p f hf).queryRow fun l => l.id == L).map ScrapeLog.core =
      (t.queryRow fun l => l.id == L).map fun l => (if p l then f l else l).core := by
  rw [Table.queryRow_update fun r => by rw [hid], Option.map_map]
  rfl

theorem standing_finishScrapeLog (id : Uuid) (v : Verdict) (now : Int) (L : Uuid) :
    (db.finishScrapeLog id v now).standing L =
      if L = id then (db.standing L).map (LogCore.finish v now) else db.standing L := by
  have h := standing_update db.scrapeLogs (fun l => l.id == id) (ScrapeLog.finish v now)
    (fun _ _ h => by simpa [Keyed.Clash] using h) (fun l => l.finish_id v now) L
  unfold DB.standing DB.scrapeLog DB.finishScrapeLog
  rw [h]
  cases hq : db.scrapeLogs.queryRow fun l => l.id == L with
  | none => simp
  | some l =>
    have hid : l.id = L := (DB.mem_of_scrapeLog hq).2
    by_cases hL : L = id <;> simp [hid, hL, ScrapeLog.core_finish]

theorem standing_update_same (t : Table ScrapeLog) (p : ScrapeLog → Bool)
    (f : ScrapeLog → ScrapeLog) (hf) (hid : ∀ l, (f l).id = l.id) (hcore : ∀ l, (f l).core = l.core)
    (L : Uuid) :
    ((t.update p f hf).queryRow fun l => l.id == L).map ScrapeLog.core =
      (t.queryRow fun l => l.id == L).map ScrapeLog.core := by
  rw [standing_update t p f hf hid]
  congr 1
  funext l
  split
  · exact hcore l
  · rfl

theorem standing_setContainerID (id : Uuid) (containerID : String) (L : Uuid) :
    (db.setContainerID id containerID).standing L = db.standing L := by
  unfold DB.standing DB.scrapeLog DB.setContainerID
  apply standing_update_same
  · exact fun _ _ h => h
  · exact fun _ => rfl
  · exact fun _ => rfl

theorem standing_setCredentialsFetchedAt (key : String) (now : Int) (L : Uuid) :
    (db.setCredentialsFetchedAt key now).standing L = db.standing L := by
  unfold DB.standing DB.scrapeLog DB.setCredentialsFetchedAt
  apply standing_update_same
  · exact fun _ _ h => h
  · exact fun _ => rfl
  · exact fun _ => rfl

theorem standing_insertScrapeLog {l : ScrapeLog} (h : db.insertScrapeLog l = some db') (L : Uuid) :
    db'.standing L = if L = l.id then some l.core else db.standing L := by
  unfold DB.insertScrapeLog at h
  split at h
  · obtain ⟨t, ht, rfl⟩ := Option.map_eq_some_iff.mp h
    simp only [DB.standing, DB.scrapeLog, Table.queryRow_insert ht]
    by_cases hL : L = l.id
    · subst hL
      cases hq : db.scrapeLogs.queryRow fun x => x.id == l.id with
      | none => simp
      | some x =>
        obtain ⟨hx, hid⟩ := Table.queryRow_some hq
        exact absurd (.inl (beq_iff_eq.mp hid)) (Table.insert_fresh ht hx)
    · have hne : ¬ l.id = L := fun h => hL h.symm
      simp [hL, hne]
  · cases h

theorem standing_delete (t : Table ScrapeLog) (p : ScrapeLog → Bool) (L : Uuid) :
    ((t.delete p).queryRow fun l => l.id == L).map ScrapeLog.core =
      ((t.queryRow fun l => l.id == L).filter fun l => !p l).map ScrapeLog.core := by
  rw [Table.queryRow_delete same_id_clash]

/-- `l` continues a row of `db`: it has that row's key, and is marked as fetched if
that row was. -/
def DB.Continues (db : DB) (l : ScrapeLog) : Prop :=
  ∃ x ∈ db.scrapeLogs, l.scrapeKey = x.scrapeKey ∧
    (x.credentialsFetchedAt.isSome = true → l.credentialsFetchedAt.isSome = true)

theorem DB.continues_of_mem {l : ScrapeLog} (h : l ∈ db.scrapeLogs) : db.Continues l :=
  ⟨l, h, rfl, id⟩

theorem DB.continues_update {p : ScrapeLog → Bool} {f : ScrapeLog → ScrapeLog} {l : ScrapeLog}
    (h : ∃ x ∈ db.scrapeLogs, (if p x then f x else x) = l)
    (hkey : ∀ x, (f x).scrapeKey = x.scrapeKey)
    (hfetched : ∀ x, x.credentialsFetchedAt.isSome = true → (f x).credentialsFetchedAt.isSome = true) :
    db.Continues l := by
  obtain ⟨x, hx, rfl⟩ := h
  refine ⟨x, hx, ?_⟩
  split
  · exact ⟨hkey x, hfetched x⟩
  · exact ⟨rfl, id⟩

theorem DB.continues_delete {p : ScrapeLog → Bool} :
    ∀ l ∈ db.scrapeLogs.delete p, db.Continues l := by
  intro l hl
  exact DB.continues_of_mem (Table.mem_delete.mp hl).1

theorem DB.continues_finish {id : Uuid} {v : Verdict} {now : Int} :
    ∀ l ∈ (db.finishScrapeLog id v now).scrapeLogs, db.Continues l := by
  intro l hl
  simp only [DB.finishScrapeLog, Table.mem_update] at hl
  exact DB.continues_update hl (fun x => x.finish_scrapeKey v now) fun x hx => by simpa using hx

theorem DB.continues_setContainerID {id : Uuid} {containerID : String} :
    ∀ l ∈ (db.setContainerID id containerID).scrapeLogs, db.Continues l := by
  intro l hl
  simp only [DB.setContainerID, Table.mem_update] at hl
  exact DB.continues_update hl (fun _ => rfl) fun _ hx => hx

theorem DB.continues_setCredentialsFetchedAt {key : String} {now : Int} :
    ∀ l ∈ (db.setCredentialsFetchedAt key now).scrapeLogs, db.Continues l := by
  intro l hl
  simp only [DB.setCredentialsFetchedAt, Table.mem_update] at hl
  exact DB.continues_update hl (fun _ => rfl) fun _ _ => rfl

end Rows

/-- What one retention statement deletes, in these columns. -/
def RetentionStatement.removes (now : Int) (c : LogCore) : RetentionStatement → Bool
  | .successLogs => c.status == .success && c.finishedAt.any fun t => decide (t < now - 7 * day)
  | .failureLogs => c.status == .failure && c.finishedAt.any fun t => decide (t < now - 30 * day)
  | _ => false

/-- A log a task works on, the user it took from the row, and the attempt that
inserted it when the task is that attempt. -/
structure LogRef where
  logID : Uuid
  userID : Uuid
  job : Option ScrapeJob
deriving DecidableEq

/-- What a task or the scheduler is working on: an attempt about to insert its
log, the log whose container it is starting, the logs it has read as running and
will finish, and the log it has finished and not yet disposed of. -/
structure Worker where
  job : Option ScrapeJob := none
  launching : List LogRef := []
  holding : List LogRef := []
  owing : List LogRef := []

def Worker.ofJob (job : ScrapeJob) : Worker := { job := some job }

def SubmitShiftsPc.worker : SubmitShiftsPc → Worker
  | .readTimezone logID userID _ => { holding := [⟨logID, userID, none⟩] }
  | .count i => { holding := [⟨i.logID, i.userID, none⟩] }
  | .insert i _ _ _ _ => { holding := [⟨i.logID, i.userID, none⟩] }
  | .scheduleNext logID userID _ => { owing := [⟨logID, userID, none⟩] }
  | _ => {}

def SubmitFailurePc.worker : SubmitFailurePc → Worker
  | .markFailed logID userID _ => { holding := [⟨logID, userID, none⟩] }
  | .handleFailure logID userID => { owing := [⟨logID, userID, none⟩] }
  | .scheduleNext logID userID => { owing := [⟨logID, userID, none⟩] }
  | _ => {}

def ScrapePc.worker (job : ScrapeJob) : ScrapePc → Worker
  | .acquire => .ofJob job
  | .insertLog => .ofJob job
  | .readTimezone logID _ => { launching := [⟨logID, job.userID, some job⟩] }
  | .pullImage logID _ _ => { launching := [⟨logID, job.userID, some job⟩] }
  | .createContainer logID _ _ => { launching := [⟨logID, job.userID, some job⟩] }
  | .saveContainerID logID _ => { launching := [⟨logID, job.userID, some job⟩] }
  | .startContainer logID _ => { launching := [⟨logID, job.userID, some job⟩] }
  | .markFailed logID _ => { holding := [⟨logID, job.userID, some job⟩] }
  | .scheduleNext logID => { owing := [⟨logID, job.userID, some job⟩] }
  | .release => {}
  | .done => {}

def Task.worker : Task → Worker
  | .submitShifts _ pc => pc.worker
  | .submitFailure _ pc => pc.worker
  | .scrape job pc => pc.worker job
  | _ => {}

def StaleEntry.ref (e : StaleEntry) : LogRef := ⟨e.logID, e.userID, none⟩

def Scheduler.worker : Scheduler → Worker
  | .reap rest => { holding := rest.map StaleEntry.ref }
  | .reapMark e rest => { holding := e.ref :: rest.map StaleEntry.ref }
  | .reapRetry e rest => { holding := rest.map StaleEntry.ref, owing := [e.ref] }
  | .reapSchedule e rest => { holding := rest.map StaleEntry.ref, owing := [e.ref] }
  | _ => {}

/-- What a step is about to do, as far as conditions on runs speak of it: the log
whose terminal UPDATE it executes, the log whose container it fails to start, the
attempt whose INSERT fails, the user ScheduleNext or a save is executed for, the
account or the logs it deletes, and the first attempts it starts. -/
structure Call where
  sqlFails : Bool := false
  finishes : Option Uuid := none
  failsStart : Option Uuid := none
  failsInsert : Option ScrapeJob := none
  schedulesNext : Option Uuid := none
  saves : Option Uuid := none
  deletes : Option Uuid := none
  retains : Option (Int × RetentionStatement) := none
  launches : List ScrapeJob := []

def ScrapePc.call (env : Env) (o : Outcome) (w : World) (job : ScrapeJob) : ScrapePc → Call
  | .insertLog =>
    { sqlFails := o.sqlFails
      failsInsert :=
        match World.exec o (w.db.insertScrapeLog (job.newLog o.uuid o.key (unix w.now))) with
        | none => some job
        | some _ => none }
  | .pullImage logID _ _ =>
    { failsStart := if pullNeeded env w then if o.dockerFails then some logID else none else none }
  | .createContainer logID _ _ => { failsStart := if o.dockerFails then some logID else none }
  | .startContainer logID _ => { failsStart := if o.dockerFails then some logID else none }
  | .markFailed logID _ => { sqlFails := o.sqlFails, finishes := some logID }
  | .scheduleNext _ => { sqlFails := o.sqlFails, schedulesNext := some job.userID }
  | _ => { sqlFails := o.sqlFails }

def SubmitShiftsPc.call (o : Outcome) : SubmitShiftsPc → Call
  | .count i =>
    match i.rest with
    | [] => { sqlFails := o.sqlFails, finishes := some i.logID }
    | _ => { sqlFails := o.sqlFails }
  | .scheduleNext _ userID _ => { sqlFails := o.sqlFails, schedulesNext := some userID }
  | _ => { sqlFails := o.sqlFails }

def SubmitFailurePc.call (o : Outcome) : SubmitFailurePc → Call
  | .markFailed logID _ _ => { sqlFails := o.sqlFails, finishes := some logID }
  | .scheduleNext _ userID => { sqlFails := o.sqlFails, schedulesNext := some userID }
  | _ => { sqlFails := o.sqlFails }

def Task.call (env : Env) (o : Outcome) (w : World) : Task → Call
  | .submitShifts _ pc => pc.call o
  | .submitFailure _ pc => pc.call o
  | .scrape job pc => pc.call env o w job
  | .authed token req =>
    { sqlFails := o.sqlFails
      launches :=
        match runTask env o w (.authed token req) with
        | some (_, _, jobs) => jobs
        | none => [] }
  | .writeCredentials userID (.schedule _) =>
    { sqlFails := o.sqlFails, saves := some userID, launches := [⟨userID, 0, false, false, none⟩] }
  | .deleteAccount userID =>
    { sqlFails := o.sqlFails, deletes := if o.sqlFails then none else some userID }
  | _ => { sqlFails := o.sqlFails }

def Scheduler.call (o : Outcome) (w : World) : Scheduler → Call
  | .due =>
    { sqlFails := o.sqlFails
      launches :=
        if o.sqlFails then []
        else (w.db.dueUsers (unix w.now)).map fun uid => ⟨uid, 0, true, true, none⟩ }
  | .reapMark e _ => { sqlFails := o.sqlFails, finishes := some e.logID }
  | .reapSchedule e _ => { sqlFails := o.sqlFails, schedulesNext := some e.userID }
  | .retention now (stmt :: _) =>
    { sqlFails := o.sqlFails, retains := if o.sqlFails then none else some (now, stmt) }
  | _ => { sqlFails := o.sqlFails }

/-- What every step leaves alone: the clock does not go back, nothing is undrawn, a
scrape key stays with its log, and a schedule row comes from a save or from ScheduleNext. -/
structure Frame (c : Call) (w w' : World) : Prop where
  now : w.now ≤ w'.now
  drawn : ∀ x ∈ w.drawn, x ∈ w'.drawn
  keys : ∀ l ∈ w'.db.scrapeLogs, w.db.Continues l ∨
    ∃ k, l.scrapeKey = some k ∧ k ∉ w.drawn ∧ k ∈ w'.drawn
  schedule : ∀ r ∈ w'.db.scrapeSchedule, r ∈ w.db.scrapeSchedule ∨ c.saves = some r.userID ∨
    c.schedulesNext = some r.userID ∧ unix w.now + 16 * 3600 ≤ r.nextScrapeAt

structure SameLogs (w w' : World) : Prop where
  row : ∀ L, w'.db.standing L = w.db.standing L
  attempts : w'.trace.attempts = w.trace.attempts
  scheduled : w'.trace.scheduled = w.trace.scheduled

structure Finished (c : Call) (w w' : World) (id : Uuid) : Prop where
  call : c.finishes = some id
  row : (∃ v, ∀ L, w'.db.standing L =
      if L = id then (w.db.standing L).map (LogCore.finish v (unix w.now)) else w.db.standing L) ∨
    c.sqlFails = true ∧ ∀ L, w'.db.standing L = w.db.standing L
  attempts : w'.trace.attempts = w.trace.attempts
  scheduled : w'.trace.scheduled = w.trace.scheduled

/-- One step of one worker, and the workers it starts. -/
inductive WorkStep (c : Call) (w w' : World) : Worker → Worker → List Worker → Prop
  | quiet (W : Worker) (hsame : SameLogs w w') :
      WorkStep c w w' W W (c.launches.map Worker.ofJob)
  | arrive (W : Worker) (hsame : SameLogs w w') : WorkStep c w w' W W [{}]
  | remove (W : Worker)
      (hrow : ∀ L, w'.db.standing L = w.db.standing L ∨ w'.db.standing L = none ∧
        ∀ l, w.db.standing L = some l → c.deletes = some l.userID ∨
          ∃ t stmt, c.retains = some (t, stmt) ∧ stmt.removes t l = true)
      (hatt : w'.trace.attempts = w.trace.attempts)
      (hsched : w'.trace.scheduled = w.trace.scheduled) : WorkStep c w w' W W []
  | check (refs : List LogRef) (hsame : SameLogs w w') (hnodup : (refs.map LogRef.logID).Nodup)
      (hrow : ∀ r ∈ refs, r.job = none ∧ ∃ l, w.db.standing r.logID = some l ∧
        l.userID = r.userID ∧ l.status = .running) :
      WorkStep c w w' {} { holding := refs } []
  | insert (job : ScrapeJob) (id key : Uuid) (hfresh : id ∉ w.drawn) (hdrawn : id ∈ w'.drawn)
      (hrow : ∀ L, w'.db.standing L =
        if L = id then some (job.newLog id key (unix w.now)).core else w.db.standing L)
      (hatt : w'.trace.attempts = ⟨job.newLog id key (unix w.now), job.parent⟩ :: w.trace.attempts)
      (hsched : w'.trace.scheduled = w.trace.scheduled) :
      WorkStep c w w' (.ofJob job) { launching := [⟨id, job.userID, some job⟩] } []
  | insertFails (job : ScrapeJob) (hsame : SameLogs w w') (hcall : c.failsInsert = some job) :
      WorkStep c w w' (.ofJob job) {} []
  | launched (r : LogRef) (hsame : SameLogs w w') : WorkStep c w w' { launching := [r] } {} []
  | launchFails (r : LogRef) (hsame : SameLogs w w') (hcall : c.failsStart = some r.logID) :
      WorkStep c w w' { launching := [r] } { holding := [r] } []
  | finish (r : LogRef) (rest : List LogRef) (hfin : Finished c w w' r.logID) :
      WorkStep c w w' { holding := r :: rest } { holding := rest, owing := [r] } []
  | finishRetry (r : LogRef) (job : ScrapeJob) (hfin : Finished c w w' r.logID)
      (hjob : r.job = some job) (huser : job.userID = r.userID) (hauto : job.isAuto = true)
      (hcount : job.retryCount < maxRetries) :
      WorkStep c w w' { holding := [r] } (.ofJob (job.retryOf r.logID)) []
  | handOver (r : LogRef) (rest : List LogRef) (job : ScrapeJob) (l : LogCore)
      (hsame : SameLogs w w') (hparent : job.parent = some r.logID) (huser : job.userID = r.userID)
      (hauto : job.isAuto = true) (hread : w.db.standing r.logID = some l) (hisAuto : l.isAuto = 1)
      (hcount : l.retryCount < maxRetries) (hnext : job.retryCount = l.retryCount + 1) :
      WorkStep c w w' { holding := rest, owing := [r] } { holding := rest } [.ofJob job]
  | settle (r : LogRef) (rest : List LogRef) (hrow : ∀ L, w'.db.standing L = w.db.standing L)
      (hatt : w'.trace.attempts = w.trace.attempts)
      (hsched : w'.trace.scheduled = r.logID :: w.trace.scheduled)
      (hcall : c.schedulesNext = some r.userID)
      (hnext : c.sqlFails = false → ∀ x ∈ w'.db.scrapeSchedule, x.userID = r.userID →
        unix w.now + 16 * 3600 ≤ x.nextScrapeAt) :
      WorkStep c w w' { holding := rest, owing := [r] } { holding := rest } []

structure Effect (c : Call) (w w' : World) (W W' : Worker) (spawned : List Worker) : Prop where
  frame : Frame c w w'
  work : WorkStep c w w' W W' spawned

end ScheduleSync
