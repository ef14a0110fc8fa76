import Mathlib.Data.Rat.Defs
import ScheduleSync.Table

/-! The SQLite schema: one structure for the rows of each table, the UNIQUE
constraints of each table, and the database. Times in rows are Unix seconds. -/
namespace ScheduleSync

/-- A UUID in the text form the tables and headers carry. -/
abbrev Uuid := String
abbrev Bytes := List UInt8

inductive ScrapeStatus where
  | running | success | failure
deriving DecidableEq

structure User where
  id : Uuid
  email : String
  isAdmin : Bool
  timezone : String
  icsToken : String
  createdAt : Int
  updatedAt : Int
deriving DecidableEq

structure Session where
  id : Uuid
  userID : Uuid
  tokenHash : Bytes
  expiresAt : Int
  createdAt : Int

structure UserDEK where
  userID : Uuid
  encryptedDEK : Bytes
  dekNonce : Bytes
  createdAt : Int

structure StarbucksCredentials where
  userID : Uuid
  encryptedUsername : Bytes
  usernameNonce : Bytes
  encryptedPassword : Bytes
  passwordNonce : Bytes
  encryptedSecurityQuestions : Bytes
  securityQuestionsNonce : Bytes
  createdAt : Int
  updatedAt : Int

structure Shift where
  id : Uuid
  userID : Uuid
  shiftIDExt : String
  jobName : String
  location : String
  startTime : Int
  endTime : Int
  netHours : Rat
  createdAt : Int
deriving DecidableEq

structure ScrapeLog where
  id : Uuid
  userID : Uuid
  startedAt : Int
  finishedAt : Option Int
  status : ScrapeStatus
  shiftsFound : Option Nat
  shiftsNew : Option Nat
  errorMessage : Option String
  containerID : Option String
  scrapeKey : Option String
  credentialsFetchedAt : Option Int
  logOutput : Option (List String)
  failureScreenshots : Option (List String)
  retryCount : Nat
  isAuto : Nat
deriving DecidableEq

structure ScrapeSchedule where
  userID : Uuid
  nextScrapeAt : Int
  lastScrapedAt : Option Int

instance : Keyed User where
  Clash a b := a.id = b.id ∨ a.email = b.email ∨ a.icsToken = b.icsToken
  clash_symm := by rintro a b (h | h | h) <;> simp [h]
  decClash := fun _ _ => inferInstanceAs (Decidable (_ ∨ _ ∨ _))

instance : Keyed Session where
  Clash a b := a.id = b.id
  clash_symm := Eq.symm
  decClash := fun _ _ => inferInstanceAs (Decidable (_ = _))

instance : Keyed UserDEK where
  Clash a b := a.userID = b.userID
  clash_symm := Eq.symm
  decClash := fun _ _ => inferInstanceAs (Decidable (_ = _))

instance : Keyed StarbucksCredentials where
  Clash a b := a.userID = b.userID
  clash_symm := Eq.symm
  decClash := fun _ _ => inferInstanceAs (Decidable (_ = _))

instance : Keyed Shift where
  Clash a b := a.id = b.id ∨ (a.userID = b.userID ∧ a.shiftIDExt = b.shiftIDExt)
  clash_symm := by rintro a b (h | ⟨h, h'⟩) <;> simp_all
  decClash := fun _ _ => inferInstanceAs (Decidable (_ ∨ _ ∧ _))

instance : Keyed ScrapeLog where
  Clash a b := a.id = b.id ∨ (a.scrapeKey = b.scrapeKey ∧ a.scrapeKey.isSome = true)
  clash_symm := by rintro a b (h | ⟨h, h'⟩) <;> simp_all
  decClash := fun _ _ => inferInstanceAs (Decidable (_ ∨ _ ∧ _))

instance : Keyed ScrapeSchedule where
  Clash a b := a.userID = b.userID
  clash_symm := Eq.symm
  decClash := fun _ _ => inferInstanceAs (Decidable (_ = _))

structure DB where
  users : Table User
  sessions : Table Session
  userDEKs : Table UserDEK
  starbucksCredentials : Table StarbucksCredentials
  shifts : Table Shift
  scrapeLogs : Table ScrapeLog
  scrapeSchedule : Table ScrapeSchedule

def DB.empty : DB :=
  ⟨.empty, .empty, .empty, .empty, .empty, .empty, .empty⟩

/-- The foreign key check of every child table. -/
def DB.hasUser (db : DB) (userID : Uuid) : Bool := db.users.rows.any fun u => u.id == userID

theorem DB.hasUser_iff {db : DB} {userID : Uuid} :
    db.hasUser userID = true ↔ ∃ u ∈ db.users, u.id = userID := by
  simp [DB.hasUser, Table.mem_def]

/-- Every identifier and scrape key in use, none of which is drawn again. -/
def DB.drawn (db : DB) : List Uuid :=
  db.users.rows.map User.id ++ db.sessions.rows.map Session.id ++ db.shifts.rows.map Shift.id ++
    db.scrapeLogs.rows.map ScrapeLog.id ++ db.scrapeLogs.rows.filterMap ScrapeLog.scrapeKey

end ScheduleSync
