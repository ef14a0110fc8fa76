import ScheduleSync.Clock
import ScheduleSync.Schema

/-! The SQL statements of the Go code, one function each. A statement that can
break a constraint returns none; the others always succeed. Failures that do not
depend on the data are decided by the caller. -/
namespace ScheduleSync

/-- What the four UPDATEs that end a scrape write besides finished_at. -/
inductive Verdict where
  | startFailed (err : String)
  | timedOut
  | reportedFailure (logs screenshots : List String)
  | reportedShifts (found new : Nat)
deriving DecidableEq

def Verdict.status : Verdict → ScrapeStatus
  | .reportedShifts _ _ => .success
  | _ => .failure

/-- `UPDATE scrape_logs SET status, finished_at, ...` of scrapeForUser,
reapTimedOutContainers, scrapeSubmitFailure and scrapeSubmitShifts. -/
def ScrapeLog.finish (v : Verdict) (now : Int) (l : ScrapeLog) : ScrapeLog :=
  match v with
  | .startFailed err =>
    { l with status := .failure, finishedAt := some now, errorMessage := some err }
  | .timedOut =>
    { l with status := .failure, finishedAt := some now, errorMessage := some "timed out after 2m0s" }
  | .reportedFailure logs screenshots =>
    { l with
      status := .failure, finishedAt := some now, errorMessage := some "scraper reported failure"
      logOutput := some logs, failureScreenshots := some screenshots }
  | .reportedShifts found new =>
    { l with
      status := .success, finishedAt := some now
      shiftsFound := some found, shiftsNew := some new }

section FinishFields
variable (v : Verdict) (now : Int) (l : ScrapeLog)

@[simp] theorem ScrapeLog.finish_id : (l.finish v now).id = l.id := by cases v <;> rfl
@[simp] theorem ScrapeLog.finish_scrapeKey : (l.finish v now).scrapeKey = l.scrapeKey := by
  cases v <;> rfl
@[simp] theorem ScrapeLog.finish_credentialsFetchedAt :
    (l.finish v now).credentialsFetchedAt = l.credentialsFetchedAt := by cases v <;> rfl

end FinishFields

theorem Verdict.status_ne_running (v : Verdict) : v.status ≠ .running := by
  cases v <;> simp [Verdict.status]

namespace DB
variable (db : DB)

/-! scrape_logs -/

def insertScrapeLog (l : ScrapeLog) : Option DB :=
  if db.hasUser l.userID then
    (db.scrapeLogs.insert l).map fun t => { db with scrapeLogs := t }
  else none

def finishScrapeLog (id : Uuid) (v : Verdict) (now : Int) : DB :=
  { db with
    scrapeLogs := db.scrapeLogs.update (fun l => l.id == id) (ScrapeLog.finish v now)
      fun _ _ h => by simpa [Keyed.Clash] using h }

def setContainerID (id : Uuid) (containerID : String) : DB :=
  { db with
    scrapeLogs := db.scrapeLogs.update (fun l => l.id == id)
      (fun l => { l with containerID := some containerID }) fun _ _ h => h }

def setCredentialsFetchedAt (key : String) (now : Int) : DB :=
  { db with
    scrapeLogs := db.scrapeLogs.update (fun l => l.scrapeKey == some key)
      (fun l => { l with credentialsFetchedAt := some now }) fun _ _ h => h }

/-- `... FROM scrape_logs WHERE scrape_key = ? AND status = 'running'`. -/
def runningLog (key : String) : Option ScrapeLog :=
  db.scrapeLogs.queryRow fun l => l.scrapeKey == some key && l.status == .running

def scrapeLog (id : Uuid) : Option ScrapeLog := db.scrapeLogs.queryRow fun l => l.id == id

/-- `... WHERE status = 'running' AND started_at < ?`. -/
def staleLogs (cutoff : Int) : List ScrapeLog :=
  db.scrapeLogs.rows.filter fun l => l.status == .running && decide (l.startedAt < cutoff)

/-- `SELECT COUNT(*) FROM scrape_logs WHERE user_id = ? AND status = 'success' LIMIT 1`. -/
def successCount (userID : Uuid) : Nat :=
  db.scrapeLogs.rows.countP fun l => l.userID == userID && l.status == .success

/-! shifts -/

def countShifts (userID : Uuid) (shiftIDExt : String) : Nat :=
  db.shifts.rows.countP fun sh => sh.userID == userID && sh.shiftIDExt == shiftIDExt

/-- `INSERT ... ON CONFLICT (user_id, shift_id_ext) DO NOTHING`; another clash is an error. -/
def insertShift (sh : Shift) : Option DB :=
  if db.hasUser sh.userID then
    if db.countShifts sh.userID sh.shiftIDExt = 0 then
      (db.shifts.insert sh).map fun t => { db with shifts := t }
    else some db
  else none

/-! scrape_schedule -/

/-- `SELECT user_id FROM scrape_schedule WHERE next_scrape_at <= ?`. -/
def dueUsers (now : Int) : List Uuid :=
  (db.scrapeSchedule.rows.filter fun r => decide (r.nextScrapeAt ≤ now)).map
    ScrapeSchedule.userID

def scheduleNext (userID : Uuid) (nextScrapeAt now : Int) : DB :=
  { db with
    scrapeSchedule := db.scrapeSchedule.update (fun r => r.userID == userID)
      (fun r => { r with nextScrapeAt := nextScrapeAt, lastScrapedAt := some now }) fun _ _ h => h }

/-- `INSERT INTO scrape_schedule ... ON CONFLICT (user_id) DO UPDATE SET next_scrape_at`. -/
def upsertSchedule (userID : Uuid) (nextScrapeAt : Int) : Option DB :=
  if db.hasUser userID then
    if db.scrapeSchedule.rows.any fun r => r.userID == userID then
      some { db with
        scrapeSchedule := db.scrapeSchedule.update (fun r => r.userID == userID)
          (fun r => { r with nextScrapeAt := nextScrapeAt }) fun _ _ h => h }
    else
      (db.scrapeSchedule.insert ⟨userID, nextScrapeAt, none⟩).map fun t =>
        { db with scrapeSchedule := t }
  else none

/-! user_deks and starbucks_credentials -/

def userDEK (userID : Uuid) : Option UserDEK := db.userDEKs.queryRow fun r => r.userID == userID

def insertDEK (dek : UserDEK) : Option DB :=
  if db.hasUser dek.userID then (db.userDEKs.insert dek).map fun t => { db with userDEKs := t }
  else none

def credentials (userID : Uuid) : Option StarbucksCredentials :=
  db.starbucksCredentials.queryRow fun r => r.userID == userID

/-- `INSERT INTO starbucks_credentials ... ON CONFLICT (user_id) DO UPDATE`: the
stored row takes every excluded column but created_at. -/
def upsertCredentials (c : StarbucksCredentials) : Option DB :=
  if db.hasUser c.userID then
    if db.starbucksCredentials.rows.any fun r => r.userID == c.userID then
      some { db with
        starbucksCredentials := db.starbucksCredentials.update (fun r => r.userID == c.userID)
          (fun r => { c with userID := r.userID, createdAt := r.createdAt }) fun _ _ h => h }
    else
      (db.starbucksCredentials.insert c).map fun t => { db with starbucksCredentials := t }
  else none

/-! users and sessions -/

def user (id : Uuid) : Option User := db.users.queryRow fun u => u.id == id

def userByEmail (email : String) : Option User := db.users.queryRow fun u => u.email == email

def insertUser (u : User) : Option DB := (db.users.insert u).map fun t => { db with users := t }

def updateTimezone (id : Uuid) (timezone : String) (now : Int) : DB :=
  { db with
    users := db.users.update (fun u => u.id == id)
      (fun u => { u with timezone := timezone, updatedAt := now }) fun _ _ h => h }

/-- `DELETE FROM users WHERE id = ?` with ON DELETE CASCADE in every child table. -/
def deleteUser (id : Uuid) : DB where
  users := db.users.delete fun u => u.id == id
  sessions := db.sessions.delete fun r => r.userID == id
  userDEKs := db.userDEKs.delete fun r => r.userID == id
  starbucksCredentials := db.starbucksCredentials.delete fun r => r.userID == id
  shifts := db.shifts.delete fun r => r.userID == id
  scrapeLogs := db.scrapeLogs.delete fun r => r.userID == id
  scrapeSchedule := db.scrapeSchedule.delete fun r => r.userID == id

def insertSession (r : Session) : Option DB :=
  if db.hasUser r.userID then (db.sessions.insert r).map fun t => { db with sessions := t }
  else none

def deleteSession (tokenHash : Bytes) : DB :=
  { db with sessions := db.sessions.delete fun r => r.tokenHash == tokenHash }

/-- `... FROM sessions s JOIN users u ON u.id = s.user_id WHERE token_hash = ? AND expires_at > ?`. -/
def sessionUser (tokenHash : Bytes) (now : Int) : Option User :=
  db.sessions.rows.findSome? fun r =>
    if r.tokenHash == tokenHash && decide (now < r.expiresAt) then db.user r.userID else none

end DB

section Accounts
variable {db db' : DB} {uid : Uuid}

theorem DB.hasUser_insertUser {u : User} (h : db.insertUser u = some db') :
    db'.hasUser uid = true ↔ db.hasUser uid = true ∨ u.id = uid := by
  obtain ⟨t, ht, rfl⟩ := Option.map_eq_some_iff.mp h
  rw [DB.hasUser_iff, DB.hasUser_iff]
  constructor
  · rintro ⟨x, hx, rfl⟩
    cases (Table.mem_of_insert ht).mp hx with
    | inl hold => exact .inl ⟨x, hold, rfl⟩
    | inr heq => exact .inr (by rw [heq])
  · rintro (⟨x, hx, rfl⟩ | rfl)
    · exact ⟨x, (Table.mem_of_insert ht).mpr (.inl hx), rfl⟩
    · exact ⟨u, (Table.mem_of_insert ht).mpr (.inr rfl), rfl⟩

@[simp] theorem DB.hasUser_updateTimezone {id : Uuid} {timezone : String} {now : Int} :
    (db.updateTimezone id timezone now).hasUser uid = db.hasUser uid := by
  simp only [DB.hasUser, DB.updateTimezone, Table.update, List.any_map]
  congr 1
  funext u
  simp only [Function.comp_apply]
  split <;> rfl

theorem DB.hasUser_deleteUser {id : Uuid} :
    (db.deleteUser id).hasUser uid = true ↔ db.hasUser uid = true ∧ uid ≠ id := by
  rw [DB.hasUser_iff, DB.hasUser_iff]
  constructor
  · rintro ⟨u, hu, rfl⟩
    obtain ⟨hu, hne⟩ := Table.mem_delete.mp hu
    exact ⟨⟨u, hu, rfl⟩, by simpa using hne⟩
  · rintro ⟨⟨u, hu, rfl⟩, hne⟩
    exact ⟨u, Table.mem_delete.mpr ⟨hu, by simpa using hne⟩, rfl⟩

end Accounts

/-- The five statements of runRetention, in order. -/
inductive RetentionStatement where
  | successLogs | failureLogs | screenshots | shifts | sessions
deriving DecidableEq

def runRetention : List RetentionStatement :=
  [.successLogs, .failureLogs, .screenshots, .shifts, .sessions]

def day : Int := 24 * 60 * 60

/-- One statement of a retention pass that read the clock at `now`. -/
def RetentionStatement.exec (now : Int) (db : DB) : RetentionStatement → DB
  | .successLogs =>
    { db with
      scrapeLogs := db.scrapeLogs.delete fun l =>
        l.status == .success && l.finishedAt.any fun t => decide (t < now - 7 * day) }
  | .failureLogs =>
    { db with
      scrapeLogs := db.scrapeLogs.delete fun l =>
        l.status == .failure && l.finishedAt.any fun t => decide (t < now - 30 * day) }
  | .screenshots =>
    { db with
      scrapeLogs := db.scrapeLogs.update
        (fun l => l.status == .failure && l.failureScreenshots.isSome &&
          l.finishedAt.any fun t => decide (t < now - 7 * day))
        (fun l => { l with failureScreenshots := none }) fun _ _ h => h }
  | .shifts => { db with shifts := db.shifts.delete fun sh => decide (sh.endTime < now - 30 * day) }
  | .sessions => { db with sessions := db.sessions.delete fun r => decide (r.expiresAt < now) }

end ScheduleSync
