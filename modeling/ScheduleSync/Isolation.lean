import ScheduleSync.ConcurrencyCap
import ScheduleSync.Ingestion
import ScheduleSync.Tenancy

/-! Users are isolated from each other. The read handlers answer a user from the user's own
rows, and the statements that concern the user determine these over any run. So whatever the
other users do, and however their requests and scrapes interleave with the user's, the user
gets the same answers. -/
namespace ScheduleSync

deriving instance DecidableEq for Write

/-! The read handlers. -/

/-- `SELECT last_scraped_at, next_scrape_at FROM scrape_schedule WHERE user_id = ?`. -/
def DB.schedule (db : DB) (userID : Uuid) : Option ScrapeSchedule :=
  db.scrapeSchedule.queryRow fun r => r.userID == userID

structure ScheduleAnswer where
  shifts : List Shift
  lastScrapedAt : Option Int
  nextScrapeAt : Option Int

/-- getSchedule, from the database at each of its two SELECTs; none stands for one that
fails. The error of the second is dropped. -/
def getSchedule (userID : Uuid) (shiftsAt scheduleAt : Option DB) (now : Int) :
    Except HttpError ScheduleAnswer :=
  match shiftsAt with
  | none => .error ⟨500, "could not fetch schedule"⟩
  | some db =>
    let row := scheduleAt.bind fun db => db.schedule userID
    .ok ⟨db.queryUserShifts userID now, row.bind ScrapeSchedule.lastScrapedAt,
      row.map ScrapeSchedule.nextScrapeAt⟩

def rfc3339 (t : Int) : String :=
  let date := civilDate (t / 86400)
  let clock := t % 86400
  let sign := if date.year < 0 then "-" else ""
  sign ++ zeroPadded 4 date.year.natAbs ++ "-" ++ zeroPadded 2 date.month.toNat ++ "-" ++
    zeroPadded 2 date.day.toNat ++ "T" ++ zeroPadded 2 (clock / 3600).toNat ++ ":" ++
    zeroPadded 2 (clock / 60 % 60).toNat ++ ":" ++ zeroPadded 2 (clock % 60).toNat ++ "Z"

structure LogRow where
  id : Uuid
  userID : Uuid
  startedAt : String
  finishedAt : Option String
  status : ScrapeStatus
  shiftsFound : Option Nat
  shiftsNew : Option Nat
  errorMessage : Option String
  logOutput : Option (List String)
  failureScreenshots : Option (List String)
deriving DecidableEq

def ScrapeLog.logRow (l : ScrapeLog) : LogRow :=
  ⟨l.id, l.userID, rfc3339 l.startedAt, l.finishedAt.map rfc3339, l.status, l.shiftsFound, l.shiftsNew,
    l.errorMessage, l.logOutput, l.failureScreenshots⟩

/-- What userScrapeLogs may answer: `... WHERE user_id = ? ORDER BY started_at DESC LIMIT 5`
leaves the order of logs with the same started_at open. -/
def DB.UserScrapeLogs (db : DB) (userID : Uuid) (rows : List LogRow) : Prop :=
  ∃ logs : List ScrapeLog, logs.Perm (db.scrapeLogs.rows.filter fun l => l.userID == userID) ∧
    logs.Pairwise (fun a b => b.startedAt ≤ a.startedAt) ∧ rows = (logs.take 5).map ScrapeLog.logRow

/-! What is read of a user, from the user's rows. -/

section Reads
variable {u : Uuid} {db db' : DB}

@[simp] theorem DB.user_view : (db.view u).user u = db.user u :=
  Table.queryRow_only fun _ _ h => h

@[simp] theorem DB.schedule_view : (db.view u).schedule u = db.schedule u :=
  Table.queryRow_only fun _ _ h => h

@[simp] theorem DB.credentials_view : (db.view u).credentials u = db.credentials u :=
  Table.queryRow_only fun _ _ h => h

@[simp] theorem DB.userDEK_view : (db.view u).userDEK u = db.userDEK u :=
  Table.queryRow_only fun _ _ h => h

@[simp] theorem DB.queryUserShifts_view {now : Int} :
    (db.view u).queryUserShifts u now = db.queryUserShifts u now := by
  have hwindow : (db.view u).shiftWindow u now = db.shiftWindow u now := by
    refine congrArg (List.insertionSort earlierStart) (Table.filter_only fun sh hsh => ?_)
    exact (Bool.and_eq_true_iff.mp hsh).1
  simp only [DB.queryUserShifts, hwindow]

@[simp] theorem DB.successCount_view : (db.view u).successCount u = db.successCount u :=
  Table.countP_only fun _ h => (Bool.and_eq_true_iff.mp h).1

theorem DB.logs_view : ((db.view u).scrapeLogs.rows.filter fun l => l.userID == u) =
    db.scrapeLogs.rows.filter fun l => l.userID == u :=
  Table.filter_only fun _ h => h

@[simp] theorem DB.latestLog_view {choice : Nat} :
    (db.view u).latestLog u choice = db.latestLog u choice := by
  simp only [DB.latestLog, DB.latestLogs, DB.logs_view]

theorem DB.userScrapeLogs_view {rows : List LogRow} :
    (db.view u).UserScrapeLogs u rows ↔ db.UserScrapeLogs u rows := by
  simp only [DB.UserScrapeLogs, DB.logs_view]

theorem DB.dueUsers_view {now : Int} : u ∈ (db.view u).dueUsers now ↔ u ∈ db.dueUsers now := by
  have hrows : ((db.view u).scrapeSchedule.rows.filter fun r =>
      decide (r.nextScrapeAt ≤ now) && r.userID == u) =
      db.scrapeSchedule.rows.filter fun r => decide (r.nextScrapeAt ≤ now) && r.userID == u :=
    Table.filter_only fun _ h => (Bool.and_eq_true_iff.mp h).2
  have hmem : ∀ d : DB, u ∈ d.dueUsers now ↔
      (d.scrapeSchedule.rows.filter fun r => decide (r.nextScrapeAt ≤ now) && r.userID == u) ≠ [] := by
    intro d
    simp [DB.dueUsers, and_assoc]
  rw [hmem, hmem, hrows]

theorem DB.staleLogs_view {cutoff : Int} :
    ((db.view u).staleLogs cutoff).filter (fun l => l.userID == u) =
      (db.staleLogs cutoff).filter fun l => l.userID == u := by
  simp only [DB.staleLogs, List.filter_filter]
  exact Table.filter_only fun _ h => (Bool.and_eq_true_iff.mp h).1

theorem DB.runningLog_view {key : String} {l : ScrapeLog} (hl : l ∈ db.scrapeLogs) (huser : l.userID = u)
    (hkey : l.scrapeKey = some key) : (db.view u).runningLog key = db.runningLog key := by
  refine Table.queryRow_only fun r hr hrun => ?_
  have hrkey : r.scrapeKey = some key := by
    simp only [Bool.and_eq_true, beq_iff_eq] at hrun
    exact hrun.1
  have heq : r = l := Table.eq_of_clash hr hl (.inr ⟨by rw [hrkey, hkey], by simp [hrkey]⟩)
  rw [heq, huser, beq_self_eq_true]

theorem DB.userByICSToken_view {token : String} {r : User} (hr : r ∈ db.users) (hid : r.id = u)
    (htoken : r.icsToken = token) : (db.view u).userByICSToken token = db.userByICSToken token := by
  refine Table.queryRow_only fun x hx hxtoken => ?_
  have heq : x = r := Table.eq_of_clash hx hr (.inr (.inr (by rw [beq_iff_eq.mp hxtoken, htoken])))
  rw [heq, hid, beq_self_eq_true]

theorem serveICS_view {r : User} (hr : r ∈ db.users) (hid : r.id = u) {icsfile : String}
    (htoken : r.icsToken = trimSuffix icsfile ".ics") {now : Int} {clock : Nat → Int} :
    serveICS icsfile (some (db.view u)) (some (db.view u)) now clock =
      serveICS icsfile (some db) (some db) now clock := by
  have hfound : db.userByICSToken (trimSuffix icsfile ".ics") = some r := by
    refine Table.queryRow_eq_some hr (by simp [htoken]) fun a b ha hb => ?_
    exact .inr (.inr ((beq_iff_eq.mp ha).trans (beq_iff_eq.mp hb).symm))
  simp only [serveICS, Option.bind_some, DB.userByICSToken_view hr hid htoken, hfound, hid,
    DB.queryUserShifts_view]

end Reads

/-- The service answers `u` and works for `u` in the same way from either database. -/
structure SameAnswers (u : Uuid) (db db' : DB) : Prop where
  account : db'.user u = db.user u
  schedule : ∀ now, getSchedule u (some db') (some db') now = getSchedule u (some db) (some db) now
  onboarding : onboardingStatus u (some db') (some db') = onboardingStatus u (some db) (some db)
  status : ∀ choice, db'.latestLog u choice = db.latestLog u choice
  logs : ∀ rows, db'.UserScrapeLogs u rows ↔ db.UserScrapeLogs u rows
  feed : ∀ r ∈ db.users, r.id = u → ∀ icsfile, r.icsToken = trimSuffix icsfile ".ics" → ∀ now clock,
    serveICS icsfile (some db') (some db') now clock = serveICS icsfile (some db) (some db) now clock
  credentials : db'.userDEK u = db.userDEK u ∧ db'.credentials u = db.credentials u
  callbacks : ∀ l ∈ db.scrapeLogs, l.userID = u → ∀ key, l.scrapeKey = some key →
    db'.runningLog key = db.runningLog key
  due : ∀ now, u ∈ db'.dueUsers now ↔ u ∈ db.dueUsers now
  stale : ∀ cutoff, ((db'.staleLogs cutoff).filter fun l => l.userID == u) =
    (db.staleLogs cutoff).filter fun l => l.userID == u

theorem sameAnswers_of_view {u : Uuid} {db db' : DB} (h : db.view u = db'.view u) : SameAnswers u db db' where
  account := by rw [← DB.user_view, ← h, DB.user_view]
  schedule now := by
    have hshifts : db'.queryUserShifts u now = db.queryUserShifts u now := by
      rw [← DB.queryUserShifts_view, ← h, DB.queryUserShifts_view]
    have hrow : db'.schedule u = db.schedule u := by
      rw [← DB.schedule_view, ← h, DB.schedule_view]
    simp only [getSchedule, Option.bind_some, hshifts, hrow]
  onboarding := by
    have hcreds : db'.credentials u = db.credentials u := by
      rw [← DB.credentials_view, ← h, DB.credentials_view]
    have hcount : db'.successCount u = db.successCount u := by
      rw [← DB.successCount_view, ← h, DB.successCount_view]
    simp only [onboardingStatus, Option.any_some, hcreds, hcount]
  status choice := by rw [← DB.latestLog_view, ← h, DB.latestLog_view]
  logs rows := by rw [← DB.userScrapeLogs_view, ← h, DB.userScrapeLogs_view]
  feed r hr hid icsfile htoken now clock := by
    have hr' : r ∈ (db'.view u).users := by
      rw [← h]
      exact Table.mem_only.mpr ⟨hr, by simp [hid]⟩
    rw [← serveICS_view (Table.mem_only.mp hr').1 hid htoken, ← h, serveICS_view hr hid htoken]
  credentials :=
    ⟨by rw [← DB.userDEK_view, ← h, DB.userDEK_view],
      by rw [← DB.credentials_view, ← h, DB.credentials_view]⟩
  callbacks l hl huser key hkey := by
    have hl' : l ∈ (db'.view u).scrapeLogs := by
      rw [← h]
      exact Table.mem_only.mpr ⟨hl, by simp [huser]⟩
    rw [← DB.runningLog_view (Table.mem_only.mp hl').1 huser hkey, ← h, DB.runningLog_view hl huser hkey]
  due now := by rw [← DB.dueUsers_view, ← h, DB.dueUsers_view]
  stale cutoff := by rw [← DB.staleLogs_view, ← h, DB.staleLogs_view]

namespace Server
variable {env env' : Env}

def executed (env : Env) (s : Server) (a : Action) : Option Write :=
  (s.write env a).filter fun x => decide (some (x.exec s.db) = (s.step env a).map fun s' => some s'.db)

def concerned (env : Env) (u : Uuid) : Server → Action → Option Write :=
  ofConcern (fun s => s.db) (executed env) (Write.concerns u)

theorem stored_executed : Stored (step env) (fun s => s.db) Write.exec (executed env) := by
  intro s a s' h
  cases hx : executed env s a with
  | some x =>
    obtain ⟨_, hexec⟩ := Option.filter_eq_some_iff.mp hx
    simpa [h] using hexec
  | none =>
    cases step_wrote h with
    | same hdb => exact hdb
    | exec x hwr hexec =>
      have hnone := Option.filter_eq_none_iff.mp hx x hwr
      simp [h, hexec] at hnone

/-- Two runs, of services that may differ in everything else: if the user begins with the
same rows and the same statements concern the user, the user gets the same answers. -/
theorem users_isolated {within within' : Server × List Write → Action → Bool} {db db' : DB} {now now' : Int}
    {u : Uuid} {s s' : Server} {record : List Write}
    (h : Reaches (recorded (step env) (concerned env u)) within (boot db now, []) (s, record))
    (h' : Reaches (recorded (step env') (concerned env' u)) within' (boot db' now', []) (s', record))
    (hsame : db.view u = db'.view u) : SameAnswers u s.db s'.db :=
  sameAnswers_of_view ((Write.unwinds u).noninterference stored_executed stored_executed h h' hsame)

def scrapedAlone : Server × List Write :=
  after (recorded (step sampleEnv) (concerned sampleEnv "u1")) anyStep (boot sampleDB 0, [])
    (uploadOf [sampleShift "2025-01-15T05:00:00" "2025-01-15T09:00:00"] ++ statements 1 5)

def scrapedAmongOthers : Server × List Write :=
  after (recorded (step sampleEnv) (concerned sampleEnv "u1")) anyStep (boot crowdDB 0, [])
    (firstPoll ++ launch 1 "log2" "key2" "c2" ++ launch 0 "log1" "key1" "c1" ++
      .arrive (.submitShifts "key1" (.ok [sampleShift "2025-01-15T05:00:00" "2025-01-15T09:00:00"])) ::
      statements 4 1 ++ launch 2 "log3" "key3" "c3" ++ statements 4 5)

theorem users_isolated_scraped : SameAnswers "u1" scrapedAlone.1.db scrapedAmongOthers.1.db := by
  have hrun : Reaches (recorded (step sampleEnv) (concerned sampleEnv "u1")) anyStep (boot sampleDB 0, [])
      (scrapedAlone.1, scrapedAlone.2) :=
    reaches_recorded_after (by decide +kernel)
  have hcrowd : Reaches (recorded (step sampleEnv) (concerned sampleEnv "u1")) anyStep (boot crowdDB 0, [])
      (scrapedAmongOthers.1, scrapedAmongOthers.2) :=
    reaches_recorded_after (by decide +kernel)
  have hrecord : scrapedAmongOthers.2 = scrapedAlone.2 := by decide +kernel
  rw [hrecord] at hcrowd
  exact users_isolated hrun hcrowd (by decide +kernel)

end Server
end ScheduleSync
