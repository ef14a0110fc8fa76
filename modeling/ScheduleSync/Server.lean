import ScheduleSync.Accounts
import ScheduleSync.Callbacks
import ScheduleSync.Transition

/-! The running server: the shared world, the scheduler goroutine and every
request and scrape goroutine in flight. Tasks interleave freely; the only atomic
unit is one statement, Docker call or locked section. -/
namespace ScheduleSync

inductive Task where
  | getCredentials (key : String) (pc : GetCredentialsPc)
  | submitShifts (key : String) (pc : SubmitShiftsPc)
  | submitFailure (key : String) (pc : SubmitFailurePc)
  | scrape (job : ScrapeJob) (pc : ScrapePc)
  | requestPin (email : String) (pc : RequestPinPc)
  | verifyPin (email pin : String) (pc : VerifyPinPc)
  | logout (token : String)
  | authed (token : String) (req : AuthedRequest)
  | writeCredentials (userID : Uuid) (pc : WriteCredentialsPc)
  | deleteAccount (userID : Uuid)
  | updateTimezone (userID : Uuid) (body : Except String String)
  | finished (r : Except HttpError Unit)

/-- A new goroutine waits for the semaphore first. -/
def ScrapeJob.task (job : ScrapeJob) : Task := .scrape job .acquire

/-- What authMiddleware passes on for the session's user. -/
def AuthedRequest.begin (u : User) : AuthedRequest → Task × List ScrapeJob
  | .writeCredentials body => (.writeCredentials u.id (.credentialLimit body), [])
  | .deleteAccount => (.deleteAccount u.id, [])
  | .updateTimezone body => (.updateTimezone u.id body, [])
  | .triggerScrape userID =>
    if !u.isAdmin then (.finished (.error ⟨403, "admin access required"⟩), [])
    else
      match userID with
      | .error _ => (.finished (.error ⟨400, "invalid user ID"⟩), [])
      | .ok id => (.finished (.ok ()), [⟨id, 0, false, false, none⟩])

/-- One step of one task: the world after it, the task's next state, and the
scrape goroutines it starts. A finished or blocked task has no step. -/
def runTask (env : Env) (o : Outcome) (w : World) : Task → Option (World × Task × List ScrapeJob)
  | .getCredentials key pc =>
    (scrapeGetCredentials env o w key pc).map fun (w', pc') => (w', .getCredentials key pc', [])
  | .submitShifts key pc =>
    (scrapeSubmitShifts env o w key pc).map fun (w', pc') => (w', .submitShifts key pc', [])
  | .submitFailure key pc =>
    (scrapeSubmitFailure o w key pc).map fun (w', pc', jobs) => (w', .submitFailure key pc', jobs)
  | .scrape job pc =>
    (scrapeForUser env o w job pc).map fun (w', job', pc') => (w', .scrape job' pc', [])
  | .requestPin email pc =>
    (requestPin env o w email pc).map fun (w', pc') => (w', .requestPin email pc', [])
  | .verifyPin email pin pc =>
    (verifyPin env o w email pin pc).map fun (w', pc') => (w', .verifyPin email pin pc', [])
  | .logout token => some (logout env o w token, .finished (.ok ()), [])
  | .authed token req =>
    if token = "" then some (w, .finished (.error ⟨401, "not authenticated"⟩), [])
    else
      match getSessionUser env o w token with
      | none => some (w, .finished (.error ⟨401, "session expired"⟩), [])
      | some u => some (w, req.begin u)
  | .writeCredentials userID pc =>
    (writeCredentials env o w userID pc).map fun (w', pc', jobs) =>
      (w', .writeCredentials userID pc', jobs)
  | .deleteAccount userID =>
    let (w', r) := deleteAccount o w userID
    some (w', .finished r, [])
  | .updateTimezone userID body =>
    let (w', r) := updateTimezone env o w userID body
    some (w', .finished r, [])
  | .finished _ => none

/-- The WaitGroup of processDueScrapes does not count this task any more. -/
def Task.waitedFor : Task → Bool
  | .scrape job pc => !job.polled || pc == .done
  | _ => true

structure Server extends World where
  scheduler : Scheduler
  tasks : List Task

/-- main: RunScheduler starts with a retention pass. -/
def Server.boot (db : DB) (now : Int) : Server where
  toWorld := .boot db now
  scheduler := .retention (unix now) runRetention
  tasks := []

inductive Request where
  | getCredentials (key : String)
  | submitShifts (key : String) (body : Except String (List CallbackShift))
  | submitFailure (key : String) (body : Except String FailureReport)
  | requestPin (email : String)
  | verifyPin (email pin : String)
  | logout (token : String)
  | authed (token : String) (req : AuthedRequest)

def Request.task : Request → Task
  | .getCredentials key => .getCredentials key .lookup
  | .submitShifts key body => .submitShifts key (.lookup body)
  | .submitFailure key body => .submitFailure key (.lookup body)
  | .requestPin email => .requestPin email .store
  | .verifyPin email pin => .verifyPin email pin .verify
  | .logout token => .logout token
  | .authed token req => .authed token req

def Request.reports : Request → Option String
  | .submitShifts key _ => some key
  | .submitFailure key _ => some key
  | _ => none

def markReported (key : Option String) (cs : List Container) : List Container :=
  cs.map fun c => if key == some c.scrapeKey then { c with reported := true } else c

/-- What can happen next: time passes, a request arrives, one task or the
scheduler makes a step, a container ends by itself, or a background goroutine of
the auth package makes a pass. -/
inductive Action where
  | advance (d : Nat)
  | arrive (r : Request)
  | run (i : Nat) (o : Outcome)
  | schedule (o : Outcome)
  | containerExit (id : String)
  | cleanupPins
  | sweepLimiters

def Server.step (env : Env) (s : Server) : Action → Option Server
  | .advance d => some { s with now := s.now + d }
  | .arrive r =>
    some { s with containers := markReported r.reports s.containers, tasks := s.tasks ++ [r.task] }
  | .run i o =>
    match s.tasks[i]? with
    | none => none
    | some t =>
      match runTask env o s.toWorld t with
      | none => none
      | some (w, t', jobs) =>
        some { s with toWorld := w, tasks := pooled s.tasks i t' (jobs.map ScrapeJob.task) }
  | .schedule o =>
    match runScheduler o s.toWorld (s.tasks.all Task.waitedFor) s.scheduler with
    | none => none
    | some (w, sch, jobs) =>
      some { s with toWorld := w, scheduler := sch, tasks := s.tasks ++ jobs.map ScrapeJob.task }
  | .containerExit id =>
    some { s with
      containers := s.containers.map fun c =>
        if c.id == id && c.phase == .running then { c with phase := .exited } else c }
  | .cleanupPins => some { s with pins := s.pins.cleanup s.now }
  | .sweepLimiters =>
    some { s with credentialRL := s.credentialRL.sweep s.now, scrapeRL := s.scrapeRL.sweep s.now }

namespace Server

/-- Only task `i` runs; time may pass. -/
def solo (i : Nat) (_ : Server) : Action → Bool
  | .run j _ => j == i
  | .advance _ => true
  | _ => false

def isStepOf (i : Nat) : Action → Bool
  | .run j _ => j == i
  | _ => false

variable {env : Env} {s s' : Server} {o : Outcome}

theorem step_run {i : Nat} (h : s.step env (.run i o) = some s') :
    ∃ t w t' jobs, s.tasks[i]? = some t ∧ runTask env o s.toWorld t = some (w, t', jobs) ∧
      s' = { s with toWorld := w, tasks := pooled s.tasks i t' (jobs.map ScrapeJob.task) } := by
  simp only [step] at h
  split at h
  · cases h
  · rename_i t ht
    split at h
    · cases h
    · rename_i w t' jobs hrun
      exact ⟨t, w, t', jobs, ht, hrun, (Option.some.inj h).symm⟩

theorem step_task {i : Nat} {t : Task} (ht : s.tasks[i]? = some t)
    (h : s.step env (.run i o) = some s') :
    ∃ w t' jobs, runTask env o s.toWorld t = some (w, t', jobs) ∧
      s' = { s with toWorld := w, tasks := pooled s.tasks i t' (jobs.map ScrapeJob.task) } := by
  obtain ⟨t₁, w, t', jobs, ht₁, hrun, rfl⟩ := step_run h
  obtain rfl := Option.some.inj (ht.symm.trans ht₁)
  exact ⟨w, t', jobs, hrun, rfl⟩

theorem step_schedule (h : s.step env (.schedule o) = some s') :
    ∃ w sch jobs,
      runScheduler o s.toWorld (s.tasks.all Task.waitedFor) s.scheduler = some (w, sch, jobs) ∧
      s' = { s with toWorld := w, scheduler := sch, tasks := s.tasks ++ jobs.map ScrapeJob.task } := by
  simp only [step] at h
  split at h
  · cases h
  · rename_i w sch jobs hrun
    exact ⟨w, sch, jobs, hrun, (Option.some.inj h).symm⟩

theorem task_kept {a : Action} {i : Nat} {t : Task} (ht : s.tasks[i]? = some t)
    (h : s.step env a = some s') : (∃ o, a = .run i o) ∨ s'.tasks[i]? = some t := by
  have happend : ∀ us : List Task, (s.tasks ++ us)[i]? = some t := by
    intro us
    obtain ⟨hlt, _⟩ := List.getElem?_eq_some_iff.mp ht
    rw [List.getElem?_append_left hlt]
    exact ht
  cases a with
  | run j o =>
    by_cases hj : j = i
    · subst hj
      exact .inl ⟨o, rfl⟩
    · obtain ⟨_, _, _, _, _, _, rfl⟩ := step_run h
      exact .inr (getElem?_pooled_of_ne ht hj _ _)
  | schedule o =>
    obtain ⟨_, _, _, _, rfl⟩ := step_schedule h
    exact .inr (happend _)
  | arrive r =>
    cases h
    exact .inr (happend _)
  | _ =>
    cases h
    exact .inr ht

end Server

/-! A small installation on which runs can be executed: one user, due at once. -/

def sampleEnv : Env where
  crypto := ⟨.tagging, List.replicate 32 7, rfl⟩
  json := .packed
  toLower s := String.ofList (s.toList.map Char.toLower)
  emailValid s := s.toList.contains '@'
  hashToken s := s.toList.map fun c => c.toNat.toUInt8
  loadLocation s := if s = "UTC" then some .utc else none
  scraperImage := "sbuxsync-scraper"

def sampleUser : User := ⟨"u1", "a@x.com", false, "UTC", "ics1", 0, 0⟩

def sampleDB : DB :=
  { DB.empty with
    users := ⟨[sampleUser], List.pairwise_singleton _ _⟩
    scrapeSchedule := ⟨[⟨"u1", 0, none⟩], List.pairwise_singleton _ _⟩ }

def firstPoll : List Action := List.replicate 8 (.schedule {})

def statements (i n : Nat) : List Action := List.replicate n (.run i {})

def polls (n : Nat) : List Action := List.replicate n (.schedule {})

/-- The attempt of task `i` from the semaphore to the started container. -/
def launch (i : Nat) (logID key containerID : String) : List Action :=
  [.run i {}, .run i { uuid := logID, key := key }, .run i {}, .run i {},
    .run i { containerID := containerID }, .run i {}, .run i {}, .run i {}]

def sessionDB : DB :=
  { sampleDB with
    sessions := ⟨[⟨"s1", "u1", sampleEnv.hashToken "tok", 1000000, 0⟩], List.pairwise_singleton _ _⟩ }

def sampleInput : CredentialsInput := ⟨"barista", "siren", [⟨"first store", "pike place"⟩]⟩

def firstSave : List Action :=
  .arrive (.authed "tok" (.writeCredentials (.ok sampleInput))) :: List.replicate 7 (.run 0 {})

def uneventful : Outcome := {}

end ScheduleSync
