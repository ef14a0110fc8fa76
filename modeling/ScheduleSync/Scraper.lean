import ScheduleSync.World

/-! internal/scraper: one scrape from the semaphore to the started container,
the retry decision after a failure, and the scheduler goroutine with its due
query, reaper and retention passes. Each case of a step function runs at most
one SQL statement or Docker call. -/
namespace ScheduleSync

/-- The arguments of a scrapeForUser call. `polled` marks the goroutines that
processDueScrapes waits for; `parent` is the failed log this attempt retries. -/
structure ScrapeJob where
  userID : Uuid
  retryCount : Nat
  isAuto : Bool
  polled : Bool
  parent : Option Uuid
deriving DecidableEq

def boolToInt (b : Bool) : Nat := if b then 1 else 0

inductive ScrapePc where
  | acquire
  | insertLog
  | readTimezone (logID : Uuid) (scrapeKey : String)
  | pullImage (logID : Uuid) (scrapeKey tzName : String)
  | createContainer (logID : Uuid) (scrapeKey tzName : String)
  | saveContainerID (logID : Uuid) (containerID : String)
  | startContainer (logID : Uuid) (containerID : String)
  | markFailed (logID : Uuid) (err : String)
  | scheduleNext (logID : Uuid)
  | release
  | done
deriving DecidableEq

def ScrapeJob.newLog (job : ScrapeJob) (id : Uuid) (key : String) (now : Int) : ScrapeLog where
  id := id
  userID := job.userID
  startedAt := now
  finishedAt := none
  status := .running
  shiftsFound := none
  shiftsNew := none
  errorMessage := none
  containerID := none
  scrapeKey := some key
  credentialsFetchedAt := none
  logOutput := none
  failureScreenshots := none
  retryCount := job.retryCount
  isAuto := boolToInt job.isAuto

/-- The recursive call of scrapeForUser after a container that did not start. -/
def ScrapeJob.retryOf (job : ScrapeJob) (logID : Uuid) : ScrapeJob :=
  { job with retryCount := job.retryCount + 1, isAuto := true, parent := some logID }

/-- pullImage: only for images with a registry prefix, and at most once per interval. -/
def pullNeeded (env : Env) (w : World) : Bool :=
  env.scraperImage.toList.contains '/' &&
    w.lastPull.all fun t => decide (pullInterval ≤ w.now - t)

/-- scrapeForUser between the two semaphore operations, runScrapeContainer inlined. -/
def scrapeForUser (env : Env) (o : Outcome) (w : World) (job : ScrapeJob) :
    ScrapePc → Option (World × ScrapeJob × ScrapePc)
  | .acquire =>
    if w.sem < maxConcurrentScrapes then some ({ w with sem := w.sem + 1 }, job, .insertLog)
    else none
  | .insertLog =>
    if o.uuid ∈ w.drawn ∨ o.key ∈ w.drawn ∨ o.uuid = o.key then none
    else
      let log := job.newLog o.uuid o.key (unix w.now)
      let w' := { w with drawn := o.uuid :: o.key :: w.drawn }
      match World.exec o (w.db.insertScrapeLog log) with
      | none => some (w', job, .release)
      | some db =>
        some ({ w' with db := db, trace := { w.trace with attempts := ⟨log, job.parent⟩ :: w.trace.attempts } },
          job, .readTimezone o.uuid o.key)
  | .readTimezone logID key =>
    let tzName := match World.select o (w.db.user job.userID) with
      | some u => if (env.loadLocation u.timezone).isSome then u.timezone else "UTC"
      | none => "UTC"
    some (w, job, .pullImage logID key tzName)
  | .pullImage logID key tzName =>
    if pullNeeded env w then
      if o.dockerFails then some (w, job, .markFailed logID ("pull image: " ++ o.message))
      else some ({ w with lastPull := some w.now }, job, .createContainer logID key tzName)
    else some (w, job, .createContainer logID key tzName)
  | .createContainer logID key tzName =>
    if o.dockerFails then some (w, job, .markFailed logID ("create container: " ++ o.message))
    else if w.containers.any (fun c => c.id == o.containerID) then none
    else
      some ({ w with containers := ⟨o.containerID, logID, key, tzName, .created, false, false⟩ :: w.containers },
        job, .saveContainerID logID o.containerID)
  | .saveContainerID logID containerID =>
    some (w.execDropped o (w.db.setContainerID logID containerID), job, .startContainer logID containerID)
  | .startContainer logID containerID =>
    if o.dockerFails then some (w, job, .markFailed logID ("start container: " ++ o.message))
    else
      some ({ w with
        containers := w.containers.map fun c =>
          if c.id == containerID then { c with phase := .running } else c }, job, .release)
  | .markFailed logID err =>
    let w' := w.execDropped o (w.db.finishScrapeLog logID (.startFailed err) (unix w.now))
    if job.isAuto && decide (job.retryCount < maxRetries) then
      some (w', job.retryOf logID, .insertLog)
    else some (w', job, .scheduleNext logID)
  | .scheduleNext logID => some (w.scheduleNext o logID job.userID, job, .release)
  | .release => some ({ w with sem := w.sem - 1 }, job, .done)
  | .done => none

/-- The SELECT of HandleScrapeFailure: the retry to start, or none to call ScheduleNext. -/
def handleScrapeFailure (o : Outcome) (w : World) (logID userID : Uuid) : Option ScrapeJob :=
  match World.select o (w.db.scrapeLog logID) with
  | none => none
  | some l =>
    if l.isAuto == 1 && decide (l.retryCount < maxRetries) then
      some ⟨userID, l.retryCount + 1, true, false, some logID⟩
    else none

structure StaleEntry where
  logID : Uuid
  userID : Uuid
  containerID : String
deriving DecidableEq

def ScrapeLog.staleEntry (l : ScrapeLog) : StaleEntry :=
  ⟨l.id, l.userID, l.containerID.getD ""⟩

/-- ContainerKill with SIGKILL; an error on a container that is not running is dropped. -/
def killContainer (containerID : String) (cs : List Container) : List Container :=
  cs.map fun c =>
    if c.id == containerID && c.phase == .running then { c with phase := .exited, killed := true }
    else c

inductive Scheduler where
  | idle
  | due
  | waitScrapes
  | stale
  | reap (rest : List StaleEntry)
  | reapMark (e : StaleEntry) (rest : List StaleEntry)
  | reapRetry (e : StaleEntry) (rest : List StaleEntry)
  | reapSchedule (e : StaleEntry) (rest : List StaleEntry)
  | retention (now : Int) (rest : List RetentionStatement)
deriving DecidableEq

/-- RunScheduler: a pass of processDueScrapes and reapTimedOutContainers on each
poll tick, a retention pass at the start and on each retention tick. A tick may
come whenever the goroutine is idle. `waited` says the WaitGroup is at zero. -/
def runScheduler (o : Outcome) (w : World) (waited : Bool) :
    Scheduler → Option (World × Scheduler × List ScrapeJob)
  | .idle =>
    if o.retentionTick then some (w, .retention (unix w.now) runRetention, [])
    else some (w, .due, [])
  | .due =>
    if o.sqlFails then some (w, .stale, [])
    else
      some (w, .waitScrapes, (w.db.dueUsers (unix w.now)).map fun uid => ⟨uid, 0, true, true, none⟩)
  | .waitScrapes => if waited then some (w, .stale, []) else none
  | .stale =>
    if o.sqlFails then some (w, .idle, [])
    else
      some (w, .reap ((w.db.staleLogs (unix (w.now - scrapeTimeout))).map ScrapeLog.staleEntry), [])
  | .reap [] => some (w, .idle, [])
  | .reap (e :: rest) =>
    if e.containerID = "" ∨ o.dockerFails then some (w, .reapMark e rest, [])
    else some ({ w with containers := killContainer e.containerID w.containers }, .reapMark e rest, [])
  | .reapMark e rest =>
    some (w.execDropped o (w.db.finishScrapeLog e.logID .timedOut (unix w.now)), .reapRetry e rest, [])
  | .reapRetry e rest =>
    match handleScrapeFailure o w e.logID e.userID with
    | some job => some (w, .reap rest, [job])
    | none => some (w, .reapSchedule e rest, [])
  | .reapSchedule e rest => some (w.scheduleNext o e.logID e.userID, .reap rest, [])
  | .retention _ [] => some (w, .idle, [])
  | .retention now (stmt :: rest) =>
    some (w.execDropped o (stmt.exec now w.db), .retention now rest, [])

end ScheduleSync
