import Mathlib.Data.Fintype.EquivFin
import ScheduleSync.Envelope
import ScheduleSync.PinStore
import ScheduleSync.ShiftTime
import ScheduleSync.Statements

/-! What all requests and goroutines share: the database, the in-memory stores,
the scrape semaphore and the Docker containers; and what the outside world
answers to one step of one of them. -/
namespace ScheduleSync

/-- An error answer: the status code and the text under "error". -/
structure HttpError where
  status : Nat
  error : String
deriving DecidableEq

/-- What is fixed for the life of the process: the keys, the configured image,
and the library functions the program does not define. -/
structure Env where
  crypto : EnvelopeCrypto
  json : QuestionsJSON
  toLower : String → String
  emailValid : String → Bool
  hashToken : String → Bytes
  loadLocation : String → Option Location
  scraperImage : String

inductive ContainerPhase where
  | created | running | exited
deriving DecidableEq

structure Container where
  id : String
  logID : Uuid
  scrapeKey : String
  timezone : String
  phase : ContainerPhase
  reported : Bool
  killed : Bool
deriving DecidableEq

/-- Started, and neither a terminal callback posted nor killed. -/
def Container.live (c : Container) : Bool := c.phase != .created && !c.reported && !c.killed

/-- A scrape_logs row as inserted, with the failed attempt it retries. -/
structure Attempt where
  log : ScrapeLog
  parent : Option Uuid
deriving DecidableEq

/-- What has happened so far, newest first. No step reads it. -/
structure Trace where
  attempts : List Attempt
  scheduled : List Uuid
  saved : List (Uuid × CredentialsInput)
  pinsStored : List (String × String)
  pinsMailed : List (String × String)
  sessionsOpened : List (User × String)

structure World where
  now : Int
  db : DB
  pins : PinStore
  credentialRL : RateLimiter
  scrapeRL : RateLimiter
  sem : Nat
  lastPull : Option Int
  containers : List Container
  drawn : List Uuid
  trace : Trace

/-- The process just started on the database `db`. -/
def World.boot (db : DB) (now : Int) : World where
  now := now
  db := db
  pins := .empty
  credentialRL := .new 1 (30 * second)
  scrapeRL := .new 10 (48 * hour)
  sem := 0
  lastPull := none
  containers := []
  drawn := db.drawn
  trace := ⟨[], [], [], [], [], []⟩

/-- What one step gets from outside: which of its calls fail and the values it
draws. A UUID or scrape key drawn before is not drawn again. -/
structure Outcome where
  sqlFails : Bool := false
  dockerFails : Bool := false
  randFails : Bool := false
  mailFails : Bool := false
  retentionTick : Bool := false
  message : String := ""
  uuid : Uuid := ""
  key : String := ""
  token : String := ""
  containerID : String := ""
  pin : Nat := 0
  dek : FreshKey := .zero
  dekNonce : Bytes := []
  nonces : Bytes × Bytes × Bytes := ([], [], [])
  jitter : Nat := 0

theorem exists_unused_string (used : List String) : ∃ s, s ∉ used := by
  obtain ⟨s, hs⟩ := Infinite.exists_notMem_finset used.toFinset
  exact ⟨s, by simpa using hs⟩

namespace World

/-- The result of a statement that the data alone can also refuse. -/
def exec (o : Outcome) (r : Option DB) : Option DB := if o.sqlFails then none else r

def execDropped (w : World) (o : Outcome) (db : DB) : World :=
  if o.sqlFails then w else { w with db := db }

/-- A SELECT: an error looks like an empty result to a caller that only tests err. -/
def select {α : Type} (o : Outcome) (r : Option α) : Option α := if o.sqlFails then none else r

/-- ScheduleNext, called for the user of the log `logID`. -/
def scheduleNext (w : World) (o : Outcome) (logID userID : Uuid) : World :=
  let w' := w.execDropped o
    (w.db.scheduleNext userID (unix (w.now + scrapeJitter o.jitter)) (unix w.now))
  { w' with trace := { w.trace with scheduled := logID :: w.trace.scheduled } }

end World
end ScheduleSync
