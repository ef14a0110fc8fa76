import ScheduleSync.Server

/-! What one step of each handler can do, branch by branch, with the checks it has
passed. Whoever follows a handler looks at these cases and not at its code. -/
namespace ScheduleSync

section Executed
variable {o : Outcome} (hsql : o.sqlFails = false)
include hsql

theorem exec_executed (r : Option DB) : World.exec o r = r := by simp [World.exec, hsql]

theorem execDropped_executed (w : World) (db : DB) : w.execDropped o db = { w with db := db } := by
  simp [World.execDropped, hsql]

theorem select_executed {α : Type} (r : Option α) : World.select o r = r := by simp [World.select, hsql]

end Executed

theorem exec_eq_some {o : Outcome} {r : Option DB} {db : DB} (h : World.exec o r = some db) :
    r = some db := by
  unfold World.exec at h
  split at h
  · cases h
  · exact h

theorem select_eq_some {α : Type} {o : Outcome} {r : Option α} {a : α}
    (h : World.select o r = some a) : r = some a := by
  unfold World.select at h
  split at h
  · cases h
  · exact h

/-! The scrape goroutine. -/

inductive ScrapeStep (env : Env) (o : Outcome) (w : World) (job : ScrapeJob) :
    World → ScrapeJob → ScrapePc → ScrapePc → Prop
  | acquire (hsem : w.sem < maxConcurrentScrapes) :
      ScrapeStep env o w job { w with sem := w.sem + 1 } job .acquire .insertLog
  | insertFailed (hid : o.uuid ∉ w.drawn) (hkey : o.key ∉ w.drawn) (hne : o.uuid ≠ o.key)
      (hexec : World.exec o (w.db.insertScrapeLog (job.newLog o.uuid o.key (unix w.now))) = none) :
      ScrapeStep env o w job { w with drawn := o.uuid :: o.key :: w.drawn } job .insertLog .release
  | inserted (hid : o.uuid ∉ w.drawn) (hkey : o.key ∉ w.drawn) (hne : o.uuid ≠ o.key) {db : DB}
      (hexec : World.exec o (w.db.insertScrapeLog (job.newLog o.uuid o.key (unix w.now))) = some db) :
      ScrapeStep env o w job
        { w with
          drawn := o.uuid :: o.key :: w.drawn
          db := db
          trace := { w.trace with
            attempts := ⟨job.newLog o.uuid o.key (unix w.now), job.parent⟩ :: w.trace.attempts } }
        job .insertLog (.readTimezone o.uuid o.key)
  | readTimezone {logID : Uuid} {key : String} :
      ScrapeStep env o w job w job (.readTimezone logID key)
        (.pullImage logID key (match World.select o (w.db.user job.userID) with
          | some u => if (env.loadLocation u.timezone).isSome then u.timezone else "UTC"
          | none => "UTC"))
  | pullSkipped {logID : Uuid} {key tzName : String} (hneeded : pullNeeded env w = false) :
      ScrapeStep env o w job w job (.pullImage logID key tzName) (.createContainer logID key tzName)
  | pullFailed {logID : Uuid} {key tzName : String} (hneeded : pullNeeded env w = true)
      (hdocker : o.dockerFails = true) :
      ScrapeStep env o w job w job (.pullImage logID key tzName)
        (.markFailed logID ("pull image: " ++ o.message))
  | pulled {logID : Uuid} {key tzName : String} (hneeded : pullNeeded env w = true)
      (hdocker : o.dockerFails = false) :
      ScrapeStep env o w job { w with lastPull := some w.now } job (.pullImage logID key tzName)
        (.createContainer logID key tzName)
  | createFailed {logID : Uuid} {key tzName : String} (hdocker : o.dockerFails = true) :
      ScrapeStep env o w job w job (.createContainer logID key tzName)
        (.markFailed logID ("create container: " ++ o.message))
  | created {logID : Uuid} {key tzName : String} (hdocker : o.dockerFails = false)
      (hnew : ∀ c ∈ w.containers, c.id ≠ o.containerID) :
      ScrapeStep env o w job
        { w with
          containers := ⟨o.containerID, logID, key, tzName, .created, false, false⟩ :: w.containers }
        job (.createContainer logID key tzName) (.saveContainerID logID o.containerID)
  | saveContainerID {logID : Uuid} {containerID : String} :
      ScrapeStep env o w job (w.execDropped o (w.db.setContainerID logID containerID)) job
        (.saveContainerID logID containerID) (.startContainer logID containerID)
  | startFailed {logID : Uuid} {containerID : String} (hdocker : o.dockerFails = true) :
      ScrapeStep env o w job w job (.startContainer logID containerID)
        (.markFailed logID ("start container: " ++ o.message))
  | started {logID : Uuid} {containerID : String} (hdocker : o.dockerFails = false) :
      ScrapeStep env o w job
        { w with
          containers := w.containers.map fun c =>
            if c.id == containerID then { c with phase := .running } else c }
        job (.startContainer logID containerID) .release
  | retried {logID : Uuid} {err : String} (hauto : job.isAuto = true)
      (hcount : job.retryCount < maxRetries) :
      ScrapeStep env o w job
        (w.execDropped o (w.db.finishScrapeLog logID (.startFailed err) (unix w.now)))
        (job.retryOf logID) (.markFailed logID err) .insertLog
  | gaveUp {logID : Uuid} {err : String} (hlast : job.isAuto = true → maxRetries ≤ job.retryCount) :
      ScrapeStep env o w job
        (w.execDropped o (w.db.finishScrapeLog logID (.startFailed err) (unix w.now))) job
        (.markFailed logID err) (.scheduleNext logID)
  | scheduleNext {logID : Uuid} :
      ScrapeStep env o w job (w.scheduleNext o logID job.userID) job (.scheduleNext logID) .release
  | release : ScrapeStep env o w job { w with sem := w.sem - 1 } job .release .done

section Scraper
variable {env : Env} {o : Outcome} {w w' : World}

theorem scrapeForUser_cases {job job' : ScrapeJob} {pc pc' : ScrapePc}
    (h : scrapeForUser env o w job pc = some (w', job', pc')) :
    ScrapeStep env o w job w' job' pc pc' := by
  cases pc with
  | acquire =>
    simp only [scrapeForUser] at h
    split_ifs at h with hsem
    cases h
    exact .acquire hsem
  | insertLog =>
    simp only [scrapeForUser] at h
    split at h
    · cases h
    · rename_i hdrawn
      obtain ⟨hid, hkey, hne⟩ : o.uuid ∉ w.drawn ∧ o.key ∉ w.drawn ∧ o.uuid ≠ o.key := by
        simpa only [not_or] using hdrawn
      split at h
      · rename_i hexec
        cases h
        exact .insertFailed hid hkey hne hexec
      · rename_i db hexec
        cases h
        exact .inserted hid hkey hne hexec
  | readTimezone logID key =>
    cases h
    exact .readTimezone
  | pullImage logID key tzName =>
    simp only [scrapeForUser] at h
    split_ifs at h with hneeded hdocker
    · cases h
      exact .pullFailed hneeded hdocker
    · cases h
      exact .pulled hneeded (Bool.eq_false_iff.mpr hdocker)
    · cases h
      exact .pullSkipped (Bool.eq_false_iff.mpr hneeded)
  | createContainer logID key tzName =>
    simp only [scrapeForUser] at h
    split_ifs at h with hdocker hused
    · cases h
      exact .createFailed hdocker
    · cases h
      refine .created (Bool.eq_false_iff.mpr hdocker) fun c hc hid => hused ?_
      exact List.any_eq_true.mpr ⟨c, hc, beq_iff_eq.mpr hid⟩
  | saveContainerID logID containerID =>
    cases h
    exact .saveContainerID
  | startContainer logID containerID =>
    simp only [scrapeForUser] at h
    split_ifs at h with hdocker
    · cases h
      exact .startFailed hdocker
    · cases h
      exact .started (Bool.eq_false_iff.mpr hdocker)
  | markFailed logID err =>
    simp only [scrapeForUser] at h
    split_ifs at h with hretry
    · cases h
      simp only [Bool.and_eq_true, decide_eq_true_eq] at hretry
      exact .retried hretry.1 hretry.2
    · cases h
      refine .gaveUp fun hauto => ?_
      simpa [hauto] using hretry
  | scheduleNext logID =>
    cases h
    exact .scheduleNext
  | release =>
    cases h
    exact .release
  | done => cases h

theorem handleScrapeFailure_some {logID userID : Uuid} {job : ScrapeJob}
    (h : handleScrapeFailure o w logID userID = some job) :
    ∃ l, w.db.scrapeLog logID = some l ∧ l.isAuto = 1 ∧ l.retryCount < maxRetries ∧
      job = ⟨userID, l.retryCount + 1, true, false, some logID⟩ := by
  unfold handleScrapeFailure at h
  split at h
  · cases h
  · rename_i l hsel
    split_ifs at h with hretry
    simp only [Bool.and_eq_true, beq_iff_eq, decide_eq_true_eq] at hretry
    cases h
    exact ⟨l, select_eq_some hsel, hretry.1, hretry.2, rfl⟩

end Scraper

inductive SchedulerStep (o : Outcome) (w : World) (waited : Bool) :
    World → Scheduler → Scheduler → List ScrapeJob → Prop
  | retentionTick (htick : o.retentionTick = true) :
      SchedulerStep o w waited w .idle (.retention (unix w.now) runRetention) []
  | pollTick (htick : o.retentionTick = false) : SchedulerStep o w waited w .idle .due []
  | dueFailed (hsql : o.sqlFails = true) : SchedulerStep o w waited w .due .stale []
  | due (hsql : o.sqlFails = false) :
      SchedulerStep o w waited w .due .waitScrapes
        ((w.db.dueUsers (unix w.now)).map fun uid => ⟨uid, 0, true, true, none⟩)
  | waitScrapes (hwaited : waited = true) : SchedulerStep o w waited w .waitScrapes .stale []
  | staleFailed (hsql : o.sqlFails = true) : SchedulerStep o w waited w .stale .idle []
  | stale (hsql : o.sqlFails = false) :
      SchedulerStep o w waited w .stale
        (.reap ((w.db.staleLogs (unix (w.now - scrapeTimeout))).map ScrapeLog.staleEntry)) []
  | reaped : SchedulerStep o w waited w (.reap []) .idle []
  | notKilled {e : StaleEntry} {rest : List StaleEntry} (hskip : e.containerID = "" ∨ o.dockerFails = true) :
      SchedulerStep o w waited w (.reap (e :: rest)) (.reapMark e rest) []
  | killed {e : StaleEntry} {rest : List StaleEntry} (hnamed : e.containerID ≠ "")
      (hdocker : o.dockerFails = false) :
      SchedulerStep o w waited { w with containers := killContainer e.containerID w.containers }
        (.reap (e :: rest)) (.reapMark e rest) []
  | reapMark {e : StaleEntry} {rest : List StaleEntry} :
      SchedulerStep o w waited (w.execDropped o (w.db.finishScrapeLog e.logID .timedOut (unix w.now)))
        (.reapMark e rest) (.reapRetry e rest) []
  | reapRetry {e : StaleEntry} {rest : List StaleEntry} {job : ScrapeJob}
      (hretry : handleScrapeFailure o w e.logID e.userID = some job) :
      SchedulerStep o w waited w (.reapRetry e rest) (.reap rest) [job]
  | reapLast {e : StaleEntry} {rest : List StaleEntry}
      (hlast : handleScrapeFailure o w e.logID e.userID = none) :
      SchedulerStep o w waited w (.reapRetry e rest) (.reapSchedule e rest) []
  | reapSchedule {e : StaleEntry} {rest : List StaleEntry} :
      SchedulerStep o w waited (w.scheduleNext o e.logID e.userID) (.reapSchedule e rest) (.reap rest) []
  | retained {now : Int} : SchedulerStep o w waited w (.retention now []) .idle []
  | retention {now : Int} {stmt : RetentionStatement} {rest : List RetentionStatement} :
      SchedulerStep o w waited (w.execDropped o (stmt.exec now w.db)) (.retention now (stmt :: rest))
        (.retention now rest) []

theorem runScheduler_cases {o : Outcome} {w w' : World} {waited : Bool} {sch sch' : Scheduler}
    {jobs : List ScrapeJob} (h : runScheduler o w waited sch = some (w', sch', jobs)) :
    SchedulerStep o w waited w' sch sch' jobs := by
  cases sch with
  | idle =>
    simp only [runScheduler] at h
    split_ifs at h with htick
    · cases h
      exact .retentionTick htick
    · cases h
      exact .pollTick (Bool.eq_false_iff.mpr htick)
  | due =>
    simp only [runScheduler] at h
    split_ifs at h with hsql
    · cases h
      exact .dueFailed hsql
    · cases h
      exact .due (Bool.eq_false_iff.mpr hsql)
  | waitScrapes =>
    simp only [runScheduler] at h
    split_ifs at h with hwaited
    cases h
    exact .waitScrapes hwaited
  | stale =>
    simp only [runScheduler] at h
    split_ifs at h with hsql
    · cases h
      exact .staleFailed hsql
    · cases h
      exact .stale (Bool.eq_false_iff.mpr hsql)
  | reap stale =>
    cases stale with
    | nil =>
      cases h
      exact .reaped
    | cons e rest =>
      simp only [runScheduler] at h
      split_ifs at h with hskip
      · cases h
        exact .notKilled hskip
      · cases h
        rw [not_or] at hskip
        exact .killed hskip.1 (Bool.eq_false_iff.mpr hskip.2)
  | reapMark e rest =>
    cases h
    exact .reapMark
  | reapRetry e rest =>
    simp only [runScheduler] at h
    split at h
    · rename_i job hretry
      cases h
      exact .reapRetry hretry
    · rename_i hlast
      cases h
      exact .reapLast hlast
  | reapSchedule e rest =>
    cases h
    exact .reapSchedule
  | retention now stmts =>
    cases stmts with
    | nil =>
      cases h
      exact .retained
    | cons stmt rest =>
      cases h
      exact .retention

/-! The callbacks of the scraper. -/

inductive GetCredentialsStep (env : Env) (o : Outcome) (w : World) (key : String) :
    World → GetCredentialsPc → GetCredentialsPc → Prop
  | noKey (hkey : key = "") :
      GetCredentialsStep env o w key w .lookup (.answered (.error missingKey))
  | notFound (hsel : World.select o (w.db.runningLog key) = none) :
      GetCredentialsStep env o w key w .lookup (.answered (.error invalidKey))
  | fetched {l : ScrapeLog} (hsel : World.select o (w.db.runningLog key) = some l)
      (hfetched : l.credentialsFetchedAt.isSome = true) :
      GetCredentialsStep env o w key w .lookup (.answered (.error alreadyFetched))
  | found {l : ScrapeLog} (hsel : World.select o (w.db.runningLog key) = some l)
      (hfetched : l.credentialsFetchedAt.isSome = false) :
      GetCredentialsStep env o w key w .lookup (.loadDEK l.userID)
  | noDEK {userID : Uuid}
      (hdek : (World.select o (w.db.userDEK userID)).bind env.crypto.decryptDEK = none) :
      GetCredentialsStep env o w key w (.loadDEK userID) (.answered (.error couldNotLoad))
  | loadDEK {userID : Uuid} {plainDEK : Bytes}
      (hdek : (World.select o (w.db.userDEK userID)).bind env.crypto.decryptDEK = some plainDEK) :
      GetCredentialsStep env o w key w (.loadDEK userID) (.loadRow userID plainDEK)
  | noRow {userID : Uuid} {plainDEK : Bytes}
      (hsel : World.select o (w.db.credentials userID) = none) :
      GetCredentialsStep env o w key w (.loadRow userID plainDEK) (.answered (.error couldNotLoad))
  | notOpened {userID : Uuid} {plainDEK : Bytes} {row : StarbucksCredentials} {err : LoadError}
      (hsel : World.select o (w.db.credentials userID) = some row)
      (hopen : openCredentials env.crypto env.json plainDEK row = .error err) :
      GetCredentialsStep env o w key w (.loadRow userID plainDEK) (.answered (.error couldNotLoad))
  | loadRow {userID : Uuid} {plainDEK : Bytes} {row : StarbucksCredentials} {creds : CredentialsInput}
      (hsel : World.select o (w.db.credentials userID) = some row)
      (hopen : openCredentials env.crypto env.json plainDEK row = .ok creds) :
      GetCredentialsStep env o w key w (.loadRow userID plainDEK) (.markFetched creds)
  | markFetched {creds : CredentialsInput} :
      GetCredentialsStep env o w key (w.execDropped o (w.db.setCredentialsFetchedAt key (unix w.now)))
        (.markFetched creds) (.answered (.ok creds))

inductive SubmitShiftsStep (env : Env) (o : Outcome) (w : World) (key : String) :
    World → SubmitShiftsPc → SubmitShiftsPc → Prop
  | noKey {body : Except String (List CallbackShift)} (hkey : key = "") :
      SubmitShiftsStep env o w key w (.lookup body) (.answered (.error missingKey))
  | notFound {body : Except String (List CallbackShift)}
      (hsel : World.select o (w.db.runningLog key) = none) :
      SubmitShiftsStep env o w key w (.lookup body) (.answered (.error invalidKey))
  | badBody {l : ScrapeLog} {msg : String} (hsel : World.select o (w.db.runningLog key) = some l) :
      SubmitShiftsStep env o w key w (.lookup (.error msg)) (.answered (.error ⟨400, msg⟩))
  | found {l : ScrapeLog} {shifts : List CallbackShift}
      (hsel : World.select o (w.db.runningLog key) = some l) :
      SubmitShiftsStep env o w key w (.lookup (.ok shifts)) (.readTimezone l.id l.userID shifts)
  | readTimezone {logID userID : Uuid} {shifts : List CallbackShift} :
      SubmitShiftsStep env o w key w (.readTimezone logID userID shifts)
        (.count ⟨logID, userID, (env.loadLocation (match World.select o (w.db.user userID) with
          | some u => u.timezone
          | none => "UTC")).getD .utc, shifts.length, shifts, 0⟩)
  | finished {i : Ingest} (hrest : i.rest = []) :
      SubmitShiftsStep env o w key
        (w.execDropped o
          (w.db.finishScrapeLog i.logID (.reportedShifts i.found i.newCount) (unix w.now)))
        (.count i) (.scheduleNext i.logID i.userID ⟨i.found, i.newCount⟩)
  | skipped {i : Ingest} {sh : CallbackShift} {rest : List CallbackShift} (hrest : i.rest = sh :: rest)
      (hparse : parseShiftTime sh.start i.loc = none ∨ parseShiftTime sh.stop i.loc = none) :
      SubmitShiftsStep env o w key w (.count i) (.count { i with rest := rest })
  | counted {i : Ingest} {sh : CallbackShift} {rest : List CallbackShift} {start stop : Int}
      (hrest : i.rest = sh :: rest) (hstart : parseShiftTime sh.start i.loc = some start)
      (hstop : parseShiftTime sh.stop i.loc = some stop) :
      SubmitShiftsStep env o w key w (.count i)
        (.insert { i with rest := rest } sh start stop
          ((World.select o (some (w.db.countShifts i.userID sh.shiftIDExt))).getD 0))
  | insertFailed {i : Ingest} {sh : CallbackShift} {start stop : Int} {already : Nat}
      (hid : o.uuid ∉ w.drawn)
      (hexec : World.exec o
        (w.db.insertShift (sh.row o.uuid i.userID start stop (unix w.now))) = none) :
      SubmitShiftsStep env o w key { w with drawn := o.uuid :: w.drawn }
        (.insert i sh start stop already) (.count i)
  | inserted {i : Ingest} {sh : CallbackShift} {start stop : Int} {already : Nat} {db : DB}
      (hid : o.uuid ∉ w.drawn)
      (hexec : World.exec o
        (w.db.insertShift (sh.row o.uuid i.userID start stop (unix w.now))) = some db) :
      SubmitShiftsStep env o w key { w with drawn := o.uuid :: w.drawn, db := db }
        (.insert i sh start stop already)
        (.count { i with newCount := if already = 0 then i.newCount + 1 else i.newCount })
  | scheduleNext {logID userID : Uuid} {answer : ShiftsAnswer} :
      SubmitShiftsStep env o w key (w.scheduleNext o logID userID) (.scheduleNext logID userID answer)
        (.answered (.ok answer))

inductive SubmitFailureStep (o : Outcome) (w : World) (key : String) :
    World → SubmitFailurePc → SubmitFailurePc → List ScrapeJob → Prop
  | noKey {body : Except String FailureReport} (hkey : key = "") :
      SubmitFailureStep o w key w (.lookup body) (.answered (.error missingKey)) []
  | notFound {body : Except String FailureReport}
      (hsel : World.select o (w.db.runningLog key) = none) :
      SubmitFailureStep o w key w (.lookup body) (.answered (.error invalidKey)) []
  | badBody {l : ScrapeLog} {msg : String} (hsel : World.select o (w.db.runningLog key) = some l) :
      SubmitFailureStep o w key w (.lookup (.error msg)) (.answered (.error ⟨400, msg⟩)) []
  | found {l : ScrapeLog} {report : FailureReport}
      (hsel : World.select o (w.db.runningLog key) = some l) :
      SubmitFailureStep o w key w (.lookup (.ok report)) (.markFailed l.id l.userID report) []
  | markFailed {logID userID : Uuid} {report : FailureReport} :
      SubmitFailureStep o w key
        (w.execDropped o
          (w.db.finishScrapeLog logID (.reportedFailure report.logs report.screenshots) (unix w.now)))
        (.markFailed logID userID report) (.handleFailure logID userID) []
  | retried {logID userID : Uuid} {job : ScrapeJob}
      (hretry : handleScrapeFailure o w logID userID = some job) :
      SubmitFailureStep o w key w (.handleFailure logID userID) (.answered (.ok ())) [job]
  | gaveUp {logID userID : Uuid} (hlast : handleScrapeFailure o w logID userID = none) :
      SubmitFailureStep o w key w (.handleFailure logID userID) (.scheduleNext logID userID) []
  | scheduleNext {logID userID : Uuid} :
      SubmitFailureStep o w key (w.scheduleNext o logID userID) (.scheduleNext logID userID)
        (.answered (.ok ())) []

section Callbacks
variable {env : Env} {o : Outcome} {w w' : World} {key : String}

theorem scrapeGetCredentials_cases {pc pc' : GetCredentialsPc}
    (h : scrapeGetCredentials env o w key pc = some (w', pc')) :
    GetCredentialsStep env o w key w' pc pc' := by
  cases pc with
  | lookup =>
    simp only [scrapeGetCredentials] at h
    split at h
    · rename_i hkey
      cases h
      exact .noKey hkey
    · split at h
      · rename_i hsel
        cases h
        exact .notFound hsel
      · rename_i l hsel
        split at h
        · rename_i hfetched
          cases h
          exact .fetched hsel hfetched
        · rename_i hfetched
          cases h
          exact .found hsel (Bool.eq_false_iff.mpr hfetched)
  | loadDEK userID =>
    simp only [scrapeGetCredentials] at h
    split at h
    · rename_i hdek
      cases h
      exact .noDEK hdek
    · rename_i plainDEK hdek
      cases h
      exact .loadDEK hdek
  | loadRow userID plainDEK =>
    simp only [scrapeGetCredentials] at h
    split at h
    · rename_i hsel
      cases h
      exact .noRow hsel
    · rename_i row hsel
      split at h
      · rename_i err hopen
        cases h
        exact .notOpened hsel hopen
      · rename_i creds hopen
        cases h
        exact .loadRow hsel hopen
  | markFetched creds =>
    cases h
    exact .markFetched
  | answered r => cases h

theorem scrapeSubmitShifts_cases {pc pc' : SubmitShiftsPc}
    (h : scrapeSubmitShifts env o w key pc = some (w', pc')) :
    SubmitShiftsStep env o w key w' pc pc' := by
  cases pc with
  | lookup body =>
    simp only [scrapeSubmitShifts] at h
    split at h
    · rename_i hkey
      cases h
      exact .noKey hkey
    · split at h
      · rename_i hsel
        cases h
        exact .notFound hsel
      · rename_i l hsel
        cases body with
        | error msg =>
          cases h
          exact .badBody hsel
        | ok shifts =>
          cases h
          exact .found hsel
  | readTimezone logID userID shifts =>
    cases h
    exact .readTimezone
  | count i =>
    simp only [scrapeSubmitShifts] at h
    split at h
    · rename_i hrest
      cases h
      exact .finished hrest
    · rename_i sh rest hrest
      split at h
      · rename_i start stop hstart hstop
        cases h
        exact .counted hrest hstart hstop
      · rename_i hparse
        cases h
        refine .skipped hrest ?_
        cases hstart : parseShiftTime sh.start i.loc with
        | none => exact .inl rfl
        | some start =>
          cases hstop : parseShiftTime sh.stop i.loc with
          | none => exact .inr rfl
          | some stop => exact absurd hstop (hparse start stop hstart)
  | insert i sh start stop already =>
    simp only [scrapeSubmitShifts] at h
    split at h
    · cases h
    · rename_i hid
      split at h
      · rename_i hexec
        cases h
        exact .insertFailed hid hexec
      · rename_i db hexec
        cases h
        exact .inserted hid hexec
  | scheduleNext logID userID answer =>
    cases h
    exact .scheduleNext
  | answered r => cases h

theorem scrapeSubmitFailure_cases {pc pc' : SubmitFailurePc} {jobs : List ScrapeJob}
    (h : scrapeSubmitFailure o w key pc = some (w', pc', jobs)) :
    SubmitFailureStep o w key w' pc pc' jobs := by
  cases pc with
  | lookup body =>
    simp only [scrapeSubmitFailure] at h
    split at h
    · rename_i hkey
      cases h
      exact .noKey hkey
    · split at h
      · rename_i hsel
        cases h
        exact .notFound hsel
      · rename_i l hsel
        cases body with
        | error msg =>
          cases h
          exact .badBody hsel
        | ok report =>
          cases h
          exact .found hsel
  | markFailed logID userID report =>
    cases h
    exact .markFailed
  | handleFailure logID userID =>
    simp only [scrapeSubmitFailure] at h
    split at h
    · rename_i job hretry
      cases h
      exact .retried hretry
    · rename_i hlast
      cases h
      exact .gaveUp hlast
  | scheduleNext logID userID =>
    cases h
    exact .scheduleNext
  | answered r => cases h

end Callbacks

/-! The requests of users. -/

inductive FindUserStep (o : Outcome) (w : World) (email : String) :
    World → FindUserPc → FindUserResult → Prop
  | selectFailed (hsql : o.sqlFails = true) : FindUserStep o w email w .select .failed
  | known {u : User} (hsql : o.sqlFails = false) (hu : w.db.userByEmail email = some u) :
      FindUserStep o w email w .select (.found u)
  | unknown (hsql : o.sqlFails = false) (hu : w.db.userByEmail email = none) :
      FindUserStep o w email w .select (.more .insert)
  | noToken (hrand : o.randFails = true) : FindUserStep o w email w .insert .failed
  | insertFailed (hrand : o.randFails = false) (hid : o.uuid ∉ w.drawn)
      (hexec : World.exec o (w.db.insertUser
        ⟨o.uuid, email, false, "America/Chicago", o.token, unix w.now, unix w.now⟩) = none) :
      FindUserStep o w email { w with drawn := o.uuid :: w.drawn } .insert (.more .reload)
  | inserted {db : DB} (hrand : o.randFails = false) (hid : o.uuid ∉ w.drawn)
      (hexec : World.exec o (w.db.insertUser
        ⟨o.uuid, email, false, "America/Chicago", o.token, unix w.now, unix w.now⟩) = some db) :
      FindUserStep o w email { w with drawn := o.uuid :: w.drawn, db := db } .insert (.more .reload)
  | reload {u : User} (hsel : World.select o (w.db.userByEmail email) = some u) :
      FindUserStep o w email w .reload (.found u)
  | reloadFailed (hsel : World.select o (w.db.userByEmail email) = none) :
      FindUserStep o w email w .reload .failed

inductive RequestPinStep (env : Env) (o : Outcome) (w : World) (email : String) :
    World → RequestPinPc → RequestPinPc → Prop
  | invalid (hvalid : env.emailValid email = false) :
      RequestPinStep env o w email w .store (.answered (.error ⟨400, o.message⟩))
  | noPin (hvalid : env.emailValid email = true) (hrand : o.randFails = true) :
      RequestPinStep env o w email w .store (.answered (.error ⟨500, "could not generate PIN"⟩))
  | store (hvalid : env.emailValid email = true) (hrand : o.randFails = false) :
      RequestPinStep env o w email
        { w with
          pins := w.pins.store env.toLower w.now email (pinText o.pin)
          trace := { w.trace with pinsStored := (email, pinText o.pin) :: w.trace.pinsStored } }
        .store (.find (pinText o.pin) .select)
  | find {w' : World} {pin : String} {pc pc' : FindUserPc}
      (hfind : findOrCreateUser o w email pc = some (w', .more pc')) :
      RequestPinStep env o w email w' (.find pin pc) (.find pin pc')
  | found {w' : World} {pin : String} {pc : FindUserPc} {u : User}
      (hfind : findOrCreateUser o w email pc = some (w', .found u)) :
      RequestPinStep env o w email w' (.find pin pc) (.mail pin)
  | notFound {w' : World} {pin : String} {pc : FindUserPc}
      (hfind : findOrCreateUser o w email pc = some (w', .failed)) :
      RequestPinStep env o w email w' (.find pin pc)
        (.answered (.error ⟨500, "could not process request"⟩))
  | mailFailed {pin : String} (hmail : o.mailFails = true) :
      RequestPinStep env o w email w (.mail pin)
        (.answered (.error ⟨500, "could not send PIN email"⟩))
  | mail {pin : String} (hmail : o.mailFails = false) :
      RequestPinStep env o w email
        { w with trace := { w.trace with pinsMailed := (email, pin) :: w.trace.pinsMailed } }
        (.mail pin) (.answered (.ok ()))

inductive VerifyPinStep (env : Env) (o : Outcome) (w : World) (email pin : String) :
    World → VerifyPinPc → VerifyPinPc → Prop
  | invalid (hvalid : (!env.emailValid email || pin == "") = true) :
      VerifyPinStep env o w email pin w .verify (.answered (.error ⟨400, o.message⟩))
  | refused {pins : PinStore} {err : PinError}
      (hvalid : (!env.emailValid email || pin == "") = false)
      (hverify : w.pins.verify env.toLower w.now email pin = (pins, some err)) :
      VerifyPinStep env o w email pin { w with pins := pins } .verify
        (.answered (.error ⟨401, err.message⟩))
  | verify {pins : PinStore} (hvalid : (!env.emailValid email || pin == "") = false)
      (hverify : w.pins.verify env.toLower w.now email pin = (pins, none)) :
      VerifyPinStep env o w email pin { w with pins := pins } .verify (.find .select)
  | find {w' : World} {pc pc' : FindUserPc}
      (hfind : findOrCreateUser o w email pc = some (w', .more pc')) :
      VerifyPinStep env o w email pin w' (.find pc) (.find pc')
  | found {w' : World} {pc : FindUserPc} {u : User}
      (hfind : findOrCreateUser o w email pc = some (w', .found u)) :
      VerifyPinStep env o w email pin w' (.find pc) (.createSession u)
  | notFound {w' : World} {pc : FindUserPc}
      (hfind : findOrCreateUser o w email pc = some (w', .failed)) :
      VerifyPinStep env o w email pin w' (.find pc) (.answered (.error ⟨500, "could not create user"⟩))
  | sessionFailed {u : User} (hid : o.uuid ∉ w.drawn)
      (hexec : (if o.randFails then none else World.exec o (w.db.insertSession
        ⟨o.uuid, u.id, env.hashToken o.token, unix (w.now + sessionDuration), unix w.now⟩)) = none) :
      VerifyPinStep env o w email pin { w with drawn := o.uuid :: w.drawn } (.createSession u)
        (.answered (.error ⟨500, "could not create session"⟩))
  | createSession {u : User} {db : DB} (hid : o.uuid ∉ w.drawn) (hrand : o.randFails = false)
      (hexec : World.exec o (w.db.insertSession
        ⟨o.uuid, u.id, env.hashToken o.token, unix (w.now + sessionDuration), unix w.now⟩) = some db) :
      VerifyPinStep env o w email pin
        { w with
          drawn := o.uuid :: w.drawn
          db := db
          trace := { w.trace with sessionsOpened := (u, pin) :: w.trace.sessionsOpened } }
        (.createSession u) (.answered (.ok u))

inductive WriteCredentialsStep (env : Env) (o : Outcome) (w : World) (userID : Uuid) :
    World → WriteCredentialsPc → WriteCredentialsPc → List ScrapeJob → Prop
  | credentialLimited {body : Except String CredentialsInput} {rl : RateLimiter}
      (hallow : w.credentialRL.allow w.now userID = (rl, false)) :
      WriteCredentialsStep env o w userID { w with credentialRL := rl } (.credentialLimit body)
        (.answered (.error ⟨429, "please wait before updating credentials again"⟩)) []
  | credentialLimit {body : Except String CredentialsInput} {rl : RateLimiter}
      (hallow : w.credentialRL.allow w.now userID = (rl, true)) :
      WriteCredentialsStep env o w userID { w with credentialRL := rl } (.credentialLimit body)
        (.scrapeLimit body) []
  | scrapeLimited {body : Except String CredentialsInput} {rl : RateLimiter}
      (hallow : w.scrapeRL.allow w.now userID = (rl, false)) :
      WriteCredentialsStep env o w userID { w with scrapeRL := rl } (.scrapeLimit body)
        (.answered (.error ⟨429, "scrape limit reached (10 per 48 hours), try again later"⟩)) []
  | badBody {msg : String} {rl : RateLimiter}
      (hallow : w.scrapeRL.allow w.now userID = (rl, true)) :
      WriteCredentialsStep env o w userID { w with scrapeRL := rl } (.scrapeLimit (.error msg))
        (.answered (.error ⟨400, msg⟩)) []
  | scrapeLimit {input : CredentialsInput} {rl : RateLimiter}
      (hallow : w.scrapeRL.allow w.now userID = (rl, true)) :
      WriteCredentialsStep env o w userID { w with scrapeRL := rl } (.scrapeLimit (.ok input))
        (.selectDEK input) []
  | selectFailed {input : CredentialsInput} (hsql : o.sqlFails = true) :
      WriteCredentialsStep env o w userID w (.selectDEK input) (.answered (.error encryptionError)) []
  | noDEK {input : CredentialsInput} (hsql : o.sqlFails = false) (hdek : w.db.userDEK userID = none) :
      WriteCredentialsStep env o w userID w (.selectDEK input) (.insertDEK input) []
  | notDecrypted {input : CredentialsInput} {dek : UserDEK} (hsql : o.sqlFails = false)
      (hdek : w.db.userDEK userID = some dek) (hplain : env.crypto.decryptDEK dek = none) :
      WriteCredentialsStep env o w userID w (.selectDEK input) (.answered (.error encryptionError)) []
  | selectDEK {input : CredentialsInput} {dek : UserDEK} {plainDEK : Bytes} (hsql : o.sqlFails = false)
      (hdek : w.db.userDEK userID = some dek) (hplain : env.crypto.decryptDEK dek = some plainDEK) :
      WriteCredentialsStep env o w userID w (.selectDEK input) (.upsert input plainDEK) []
  | notGenerated {input : CredentialsInput}
      (hgen : (if o.randFails then none else env.crypto.generateDEK o.dek o.dekNonce) = none) :
      WriteCredentialsStep env o w userID w (.insertDEK input) (.answered (.error encryptionError)) []
  | insertFailed {input : CredentialsInput} {plainDEK encDEK : Bytes} (hrand : o.randFails = false)
      (hgen : env.crypto.generateDEK o.dek o.dekNonce = some (plainDEK, encDEK))
      (hexec : World.exec o (w.db.insertDEK ⟨userID, encDEK, o.dekNonce, unix w.now⟩) = none) :
      WriteCredentialsStep env o w userID w (.insertDEK input) (.answered (.error encryptionError)) []
  | insertDEK {input : CredentialsInput} {plainDEK encDEK : Bytes} {db : DB}
      (hrand : o.randFails = false)
      (hgen : env.crypto.generateDEK o.dek o.dekNonce = some (plainDEK, encDEK))
      (hexec : World.exec o (w.db.insertDEK ⟨userID, encDEK, o.dekNonce, unix w.now⟩) = some db) :
      WriteCredentialsStep env o w userID { w with db := db } (.insertDEK input)
        (.upsert input plainDEK) []
  | notSealed {input : CredentialsInput} {plainDEK : Bytes}
      (hseal : (if o.randFails then none
        else sealCredentials env.crypto env.json plainDEK o.nonces userID input (unix w.now)) = none) :
      WriteCredentialsStep env o w userID w (.upsert input plainDEK)
        (.answered (.error encryptionError)) []
  | upsertFailed {input : CredentialsInput} {plainDEK : Bytes} {row : StarbucksCredentials}
      (hrand : o.randFails = false)
      (hseal : sealCredentials env.crypto env.json plainDEK o.nonces userID input (unix w.now) = some row)
      (hexec : World.exec o (w.db.upsertCredentials row) = none) :
      WriteCredentialsStep env o w userID w (.upsert input plainDEK)
        (.answered (.error ⟨500, "could not store credentials"⟩)) []
  | upsert {input : CredentialsInput} {plainDEK : Bytes} {row : StarbucksCredentials} {db : DB}
      (hrand : o.randFails = false)
      (hseal : sealCredentials env.crypto env.json plainDEK o.nonces userID input (unix w.now) = some row)
      (hexec : World.exec o (w.db.upsertCredentials row) = some db) :
      WriteCredentialsStep env o w userID
        { w with db := db, trace := { w.trace with saved := (userID, input) :: w.trace.saved } }
        (.upsert input plainDEK) (.schedule (unix w.now)) []
  | scheduleFailed {now : Int} (hexec : World.exec o (w.db.upsertSchedule userID now) = none) :
      WriteCredentialsStep env o w userID w (.schedule now) (.answered (.ok ()))
        [⟨userID, 0, false, false, none⟩]
  | schedule {now : Int} {db : DB} (hexec : World.exec o (w.db.upsertSchedule userID now) = some db) :
      WriteCredentialsStep env o w userID { w with db := db } (.schedule now) (.answered (.ok ()))
        [⟨userID, 0, false, false, none⟩]

section Accounts
variable {env : Env} {o : Outcome} {w w' : World}

theorem findOrCreateUser_cases {email : String} {pc : FindUserPc} {r : FindUserResult}
    (h : findOrCreateUser o w email pc = some (w', r)) : FindUserStep o w email w' pc r := by
  cases pc with
  | select =>
    simp only [findOrCreateUser] at h
    split at h
    · rename_i hsql
      cases h
      exact .selectFailed hsql
    · rename_i hsql
      have hsql' : o.sqlFails = false := Bool.eq_false_iff.mpr hsql
      split at h
      · rename_i u hu
        cases h
        exact .known hsql' hu
      · rename_i hu
        cases h
        exact .unknown hsql' hu
  | insert =>
    simp only [findOrCreateUser] at h
    split at h
    · rename_i hrand
      cases h
      exact .noToken hrand
    · rename_i hrand
      have hrand' : o.randFails = false := Bool.eq_false_iff.mpr hrand
      split at h
      · cases h
      · rename_i hid
        split at h
        · rename_i hexec
          cases h
          exact .insertFailed hrand' hid hexec
        · rename_i db hexec
          cases h
          exact .inserted hrand' hid hexec
  | reload =>
    simp only [findOrCreateUser] at h
    split at h
    · rename_i u hsel
      cases h
      exact .reload hsel
    · rename_i hsel
      cases h
      exact .reloadFailed hsel

theorem requestPin_cases {email : String} {pc pc' : RequestPinPc}
    (h : requestPin env o w email pc = some (w', pc')) : RequestPinStep env o w email w' pc pc' := by
  cases pc with
  | store =>
    simp only [requestPin] at h
    split_ifs at h with hvalid hrand
    · cases h
      exact .invalid (by simpa using hvalid)
    · cases h
      exact .noPin (by simpa using hvalid) hrand
    · cases h
      exact .store (by simpa using hvalid) (Bool.eq_false_iff.mpr hrand)
  | find pin pc =>
    simp only [requestPin] at h
    split at h
    · cases h
    · rename_i pc' hfind
      cases h
      exact .find hfind
    · rename_i u hfind
      cases h
      exact .found hfind
    · rename_i hfind
      cases h
      exact .notFound hfind
  | mail pin =>
    simp only [requestPin] at h
    split_ifs at h with hmail
    · cases h
      exact .mailFailed hmail
    · cases h
      exact .mail (Bool.eq_false_iff.mpr hmail)
  | answered r => cases h

theorem verifyPin_cases {email pin : String} {pc pc' : VerifyPinPc}
    (h : verifyPin env o w email pin pc = some (w', pc')) :
    VerifyPinStep env o w email pin w' pc pc' := by
  cases pc with
  | verify =>
    simp only [verifyPin] at h
    split at h
    · rename_i hvalid
      cases h
      exact .invalid hvalid
    · rename_i hvalid
      have hvalid' : (!env.emailValid email || pin == "") = false := Bool.eq_false_iff.mpr hvalid
      split at h
      · rename_i pins err hverify
        cases h
        exact .refused hvalid' hverify
      · rename_i pins hverify
        cases h
        exact .verify hvalid' hverify
  | find pc =>
    simp only [verifyPin] at h
    split at h
    · cases h
    · rename_i pc' hfind
      cases h
      exact .find hfind
    · rename_i u hfind
      cases h
      exact .found hfind
    · rename_i hfind
      cases h
      exact .notFound hfind
  | createSession u =>
    simp only [verifyPin] at h
    split at h
    · cases h
    · rename_i hid
      split at h
      · rename_i hexec
        cases h
        exact .sessionFailed hid hexec
      · rename_i db hexec
        cases h
        split at hexec
        · cases hexec
        · rename_i hrand
          exact .createSession hid (Bool.eq_false_iff.mpr hrand) hexec
  | answered r => cases h

theorem writeCredentials_cases {userID : Uuid} {pc pc' : WriteCredentialsPc} {jobs : List ScrapeJob}
    (h : writeCredentials env o w userID pc = some (w', pc', jobs)) :
    WriteCredentialsStep env o w userID w' pc pc' jobs := by
  cases pc with
  | credentialLimit body =>
    simp only [writeCredentials] at h
    split at h
    · rename_i rl hallow
      cases h
      exact .credentialLimit hallow
    · rename_i rl hallow
      cases h
      exact .credentialLimited hallow
  | scrapeLimit body =>
    simp only [writeCredentials] at h
    split at h
    · rename_i rl hallow
      cases h
      exact .scrapeLimited hallow
    · rename_i rl hallow
      cases body with
      | error msg =>
        cases h
        exact .badBody hallow
      | ok input =>
        cases h
        exact .scrapeLimit hallow
  | selectDEK input =>
    simp only [writeCredentials] at h
    split at h
    · rename_i hsql
      cases h
      exact .selectFailed hsql
    · rename_i hsql
      have hsql' : o.sqlFails = false := Bool.eq_false_iff.mpr hsql
      split at h
      · rename_i hdek
        cases h
        exact .noDEK hsql' hdek
      · rename_i dek hdek
        split at h
        · rename_i hplain
          cases h
          exact .notDecrypted hsql' hdek hplain
        · rename_i plainDEK hplain
          cases h
          exact .selectDEK hsql' hdek hplain
  | insertDEK input =>
    simp only [writeCredentials] at h
    split at h
    · rename_i hgen
      cases h
      exact .notGenerated hgen
    · rename_i plainDEK encDEK hgen
      split at hgen
      · cases hgen
      · rename_i hrand
        have hrand' : o.randFails = false := Bool.eq_false_iff.mpr hrand
        split at h
        · rename_i hexec
          cases h
          exact .insertFailed hrand' hgen hexec
        · rename_i db hexec
          cases h
          exact .insertDEK hrand' hgen hexec
  | upsert input plainDEK =>
    simp only [writeCredentials] at h
    split at h
    · rename_i hseal
      cases h
      exact .notSealed hseal
    · rename_i row hseal
      split at hseal
      · cases hseal
      · rename_i hrand
        have hrand' : o.randFails = false := Bool.eq_false_iff.mpr hrand
        split at h
        · rename_i hexec
          cases h
          exact .upsertFailed hrand' hseal hexec
        · rename_i db hexec
          cases h
          exact .upsert hrand' hseal hexec
  | schedule now =>
    simp only [writeCredentials] at h
    split at h
    · rename_i hexec
      cases h
      exact .scheduleFailed hexec
    · rename_i db hexec
      cases h
      exact .schedule hexec
  | answered r => cases h

end Accounts

/-! Tasks. -/

section Tasks
variable {env : Env} {o : Outcome} {w w' : World}

/-- What authMiddleware can pass a request of `u` on to. -/
inductive AuthedRequest.Begun (u : User) : Task → Prop
  | writeCredentials (body : Except String CredentialsInput) :
      Begun u (.writeCredentials u.id (.credentialLimit body))
  | deleteAccount : Begun u (.deleteAccount u.id)
  | updateTimezone (body : Except String String) : Begun u (.updateTimezone u.id body)
  | finished (r : Except HttpError Unit) : Begun u (.finished r)

theorem AuthedRequest.begin_cases {u : User} {req : AuthedRequest} {t : Task} {jobs : List ScrapeJob}
    (h : req.begin u = (t, jobs)) : Begun u t := by
  have ht : t = (req.begin u).1 := congrArg Prod.fst h.symm
  rw [ht]
  cases req with
  | writeCredentials body => exact .writeCredentials body
  | deleteAccount => exact .deleteAccount
  | updateTimezone body => exact .updateTimezone body
  | triggerScrape userID =>
    simp only [AuthedRequest.begin]
    split_ifs
    · exact .finished _
    · cases userID with
      | error _ => exact .finished _
      | ok _ => exact .finished _

/-- A step of a task is a step of its handler; only authMiddleware turns a task
into one of another kind. -/
inductive TaskStep (env : Env) (o : Outcome) (w : World) :
    World → Task → Task → List ScrapeJob → Prop
  | getCredentials {w' : World} {key : String} {pc pc' : GetCredentialsPc}
      (h : scrapeGetCredentials env o w key pc = some (w', pc')) :
      TaskStep env o w w' (.getCredentials key pc) (.getCredentials key pc') []
  | submitShifts {w' : World} {key : String} {pc pc' : SubmitShiftsPc}
      (h : scrapeSubmitShifts env o w key pc = some (w', pc')) :
      TaskStep env o w w' (.submitShifts key pc) (.submitShifts key pc') []
  | submitFailure {w' : World} {key : String} {pc pc' : SubmitFailurePc} {jobs : List ScrapeJob}
      (h : scrapeSubmitFailure o w key pc = some (w', pc', jobs)) :
      TaskStep env o w w' (.submitFailure key pc) (.submitFailure key pc') jobs
  | scrape {w' : World} {job job' : ScrapeJob} {pc pc' : ScrapePc}
      (h : scrapeForUser env o w job pc = some (w', job', pc')) :
      TaskStep env o w w' (.scrape job pc) (.scrape job' pc') []
  | requestPin {w' : World} {email : String} {pc pc' : RequestPinPc}
      (h : requestPin env o w email pc = some (w', pc')) :
      TaskStep env o w w' (.requestPin email pc) (.requestPin email pc') []
  | verifyPin {w' : World} {email pin : String} {pc pc' : VerifyPinPc}
      (h : verifyPin env o w email pin pc = some (w', pc')) :
      TaskStep env o w w' (.verifyPin email pin pc) (.verifyPin email pin pc') []
  | logout {token : String} :
      TaskStep env o w (logout env o w token) (.logout token) (.finished (.ok ())) []
  | refused {token : String} {req : AuthedRequest} (err : HttpError) :
      TaskStep env o w w (.authed token req) (.finished (.error err)) []
  | begun {token : String} {req : AuthedRequest} {u : User} {t : Task} {jobs : List ScrapeJob}
      (h : req.begin u = (t, jobs)) : TaskStep env o w w (.authed token req) t jobs
  | writeCredentials {w' : World} {userID : Uuid} {pc pc' : WriteCredentialsPc}
      {jobs : List ScrapeJob} (h : writeCredentials env o w userID pc = some (w', pc', jobs)) :
      TaskStep env o w w' (.writeCredentials userID pc) (.writeCredentials userID pc') jobs
  | deleteAccount {userID : Uuid} {r : Except HttpError Unit} :
      TaskStep env o w (deleteAccount o w userID).1 (.deleteAccount userID) (.finished r) []
  | updateTimezone {userID : Uuid} {body : Except String String} {r : Except HttpError Unit} :
      TaskStep env o w (updateTimezone env o w userID body).1 (.updateTimezone userID body)
        (.finished r) []

theorem runTask_cases {t t' : Task} {jobs : List ScrapeJob}
    (h : runTask env o w t = some (w', t', jobs)) : TaskStep env o w w' t t' jobs := by
  cases t with
  | getCredentials key pc =>
    obtain ⟨r, hr, heq⟩ := Option.map_eq_some_iff.mp h
    cases heq
    exact .getCredentials hr
  | submitShifts key pc =>
    obtain ⟨r, hr, heq⟩ := Option.map_eq_some_iff.mp h
    cases heq
    exact .submitShifts hr
  | submitFailure key pc =>
    obtain ⟨r, hr, heq⟩ := Option.map_eq_some_iff.mp h
    cases heq
    exact .submitFailure hr
  | scrape job pc =>
    obtain ⟨r, hr, heq⟩ := Option.map_eq_some_iff.mp h
    cases heq
    exact .scrape hr
  | requestPin email pc =>
    obtain ⟨r, hr, heq⟩ := Option.map_eq_some_iff.mp h
    cases heq
    exact .requestPin hr
  | verifyPin email pin pc =>
    obtain ⟨r, hr, heq⟩ := Option.map_eq_some_iff.mp h
    cases heq
    exact .verifyPin hr
  | logout token =>
    cases h
    exact .logout
  | authed token req =>
    simp only [runTask] at h
    split_ifs at h
    · cases h
      exact .refused _
    · split at h
      · cases h
        exact .refused _
      · obtain ⟨rfl, hb⟩ := Prod.mk.inj (Option.some.inj h)
        exact .begun hb
  | writeCredentials userID pc =>
    obtain ⟨r, hr, heq⟩ := Option.map_eq_some_iff.mp h
    cases heq
    exact .writeCredentials hr
  | deleteAccount userID =>
    cases h
    exact .deleteAccount
  | updateTimezone userID body =>
    cases h
    exact .updateTimezone
  | finished r => cases h

end Tasks

end ScheduleSync
