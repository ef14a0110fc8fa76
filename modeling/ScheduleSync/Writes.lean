import ScheduleSync.Standing

/-! The statements that change the database, as data: which one a step runs, and
that a step changes the database by that statement or not at all. What a fact about
the tables needs is then one case for each statement, not for each step. -/
namespace ScheduleSync

inductive Write where
  | insertScrapeLog (l : ScrapeLog)
  | finishScrapeLog (id : Uuid) (v : Verdict) (now : Int)
  | setContainerID (id : Uuid) (containerID : String)
  | setCredentialsFetchedAt (key : String) (now : Int)
  | insertShift (sh : Shift)
  | scheduleNext (userID : Uuid) (nextScrapeAt now : Int)
  | upsertSchedule (userID : Uuid) (nextScrapeAt : Int)
  | insertDEK (dek : UserDEK)
  | upsertCredentials (row : StarbucksCredentials)
  | insertUser (u : User)
  | updateTimezone (id : Uuid) (timezone : String) (now : Int)
  | deleteUser (id : Uuid)
  | insertSession (r : Session)
  | deleteSession (tokenHash : Bytes)
  | retention (now : Int) (stmt : RetentionStatement)

def Write.exec (db : DB) : Write → Option DB
  | .insertScrapeLog l => db.insertScrapeLog l
  | .finishScrapeLog id v now => some (db.finishScrapeLog id v now)
  | .setContainerID id containerID => some (db.setContainerID id containerID)
  | .setCredentialsFetchedAt key now => some (db.setCredentialsFetchedAt key now)
  | .insertShift sh => db.insertShift sh
  | .scheduleNext userID nextScrapeAt now => some (db.scheduleNext userID nextScrapeAt now)
  | .upsertSchedule userID nextScrapeAt => db.upsertSchedule userID nextScrapeAt
  | .insertDEK dek => db.insertDEK dek
  | .upsertCredentials row => db.upsertCredentials row
  | .insertUser u => db.insertUser u
  | .updateTimezone id timezone now => some (db.updateTimezone id timezone now)
  | .deleteUser id => some (db.deleteUser id)
  | .insertSession r => db.insertSession r
  | .deleteSession tokenHash => some (db.deleteSession tokenHash)
  | .retention now stmt => some (stmt.exec now db)

def Write.draws : Write → List Uuid
  | .insertScrapeLog l => l.id :: l.scrapeKey.toList
  | .insertShift sh => [sh.id]
  | .insertUser u => [u.id]
  | .insertSession r => [r.id]
  | _ => []

section Statement
variable (env : Env) (o : Outcome) (w : World)

def World.nextWrite (userID : Uuid) : Write :=
  .scheduleNext userID (unix (w.now + scrapeJitter o.jitter)) (unix w.now)

def ScrapePc.write (job : ScrapeJob) : ScrapePc → Option Write
  | .insertLog => some (.insertScrapeLog (job.newLog o.uuid o.key (unix w.now)))
  | .saveContainerID logID containerID => some (.setContainerID logID containerID)
  | .markFailed logID err => some (.finishScrapeLog logID (.startFailed err) (unix w.now))
  | .scheduleNext _ => some (w.nextWrite o job.userID)
  | _ => none

def GetCredentialsPc.write (key : String) : GetCredentialsPc → Option Write
  | .markFetched _ => some (.setCredentialsFetchedAt key (unix w.now))
  | _ => none

def SubmitShiftsPc.write : SubmitShiftsPc → Option Write
  | .count i =>
    if i.rest.isEmpty then
      some (.finishScrapeLog i.logID (.reportedShifts i.found i.newCount) (unix w.now))
    else none
  | .insert i sh start stop _ => some (.insertShift (sh.row o.uuid i.userID start stop (unix w.now)))
  | .scheduleNext _ userID _ => some (w.nextWrite o userID)
  | _ => none

def SubmitFailurePc.write : SubmitFailurePc → Option Write
  | .markFailed logID _ report =>
    some (.finishScrapeLog logID (.reportedFailure report.logs report.screenshots) (unix w.now))
  | .scheduleNext _ userID => some (w.nextWrite o userID)
  | _ => none

def FindUserPc.write (email : String) : FindUserPc → Option Write
  | .insert =>
    some (.insertUser ⟨o.uuid, email, false, "America/Chicago", o.token, unix w.now, unix w.now⟩)
  | _ => none

def VerifyPinPc.write (email : String) : VerifyPinPc → Option Write
  | .find pc => pc.write o w email
  | .createSession u =>
    some (.insertSession
      ⟨o.uuid, u.id, env.hashToken o.token, unix (w.now + sessionDuration), unix w.now⟩)
  | _ => none

def RequestPinPc.write (email : String) : RequestPinPc → Option Write
  | .find _ pc => pc.write o w email
  | _ => none

def WriteCredentialsPc.write (userID : Uuid) : WriteCredentialsPc → Option Write
  | .insertDEK _ =>
    (env.crypto.generateDEK o.dek o.dekNonce).map fun p =>
      .insertDEK ⟨userID, p.2, o.dekNonce, unix w.now⟩
  | .upsert input plainDEK =>
    (sealCredentials env.crypto env.json plainDEK o.nonces userID input (unix w.now)).map
      .upsertCredentials
  | .schedule now => some (.upsertSchedule userID now)
  | _ => none

/-- The statement that changes the database in the next step of a task. -/
def Task.write : Task → Option Write
  | .getCredentials key pc => pc.write w key
  | .submitShifts _ pc => pc.write o w
  | .submitFailure _ pc => pc.write o w
  | .scrape job pc => pc.write o w job
  | .requestPin email pc => pc.write o w email
  | .verifyPin email _ pc => pc.write env o w email
  | .logout token => if token = "" then none else some (.deleteSession (env.hashToken token))
  | .authed _ _ => none
  | .writeCredentials userID pc => pc.write env o w userID
  | .deleteAccount userID => some (.deleteUser userID)
  | .updateTimezone userID body =>
    match body with
    | .error _ => none
    | .ok tz => some (.updateTimezone userID tz (unix w.now))
  | .finished _ => none

def Scheduler.write : Scheduler → Option Write
  | .reapMark e _ => some (.finishScrapeLog e.logID .timedOut (unix w.now))
  | .reapSchedule e _ => some (w.nextWrite o e.userID)
  | .retention now (stmt :: _) => some (.retention now stmt)
  | _ => none

end Statement

/-- The database is as it was, or as the statement makes it; what the statement
brings in was not drawn before. -/
inductive Wrote (wr : Option Write) (w w' : World) : Prop
  | same (hdb : w'.db = w.db)
  | exec (x : Write) (hwr : wr = some x) (hexec : x.exec w.db = some w'.db)
      (hdraws : ∀ id ∈ x.draws, id ∉ w.drawn ∧ id ∈ w'.drawn)

section Handlers
variable {env : Env} {o : Outcome} {w w' : World}

theorem Wrote.dropped (o : Outcome) {x : Write} {db : DB} (hexec : x.exec w.db = some db)
    (hdraws : x.draws = []) : Wrote (some x) w (w.execDropped o db) := by
  unfold World.execDropped
  split
  · exact .same rfl
  · exact .exec x rfl hexec (by simp [hdraws])

theorem Wrote.scheduleNext (logID userID : Uuid) :
    Wrote (some (w.nextWrite o userID)) w (w.scheduleNext o logID userID) := by
  unfold World.scheduleNext World.execDropped
  split
  · exact .same rfl
  · exact .exec (w.nextWrite o userID) rfl rfl (by simp [World.nextWrite, Write.draws])

theorem scrapeForUser_wrote {job job' : ScrapeJob} {pc pc' : ScrapePc}
    (h : scrapeForUser env o w job pc = some (w', job', pc')) : Wrote (pc.write o w job) w w' := by
  cases scrapeForUser_cases h with
  | inserted hid hkey hne hexec =>
    refine .exec _ rfl (exec_eq_some hexec) ?_
    intro id hdraw
    have hcases : id = o.uuid ∨ id = o.key := by
      simpa [Write.draws, ScrapeJob.newLog] using hdraw
    cases hcases with
    | inl heq => exact ⟨heq ▸ hid, by simp [heq]⟩
    | inr heq => exact ⟨heq ▸ hkey, by simp [heq]⟩
  | saveContainerID => exact .dropped o rfl rfl
  | retried => exact .dropped o rfl rfl
  | gaveUp => exact .dropped o rfl rfl
  | @scheduleNext logID => exact .scheduleNext logID job.userID
  | _ => exact .same rfl

theorem scrapeGetCredentials_wrote {key : String} {pc pc' : GetCredentialsPc}
    (h : scrapeGetCredentials env o w key pc = some (w', pc')) : Wrote (pc.write w key) w w' := by
  cases scrapeGetCredentials_cases h with
  | markFetched => exact .dropped o rfl rfl
  | _ => exact .same rfl

theorem scrapeSubmitShifts_wrote {key : String} {pc pc' : SubmitShiftsPc}
    (h : scrapeSubmitShifts env o w key pc = some (w', pc')) : Wrote (pc.write o w) w w' := by
  cases scrapeSubmitShifts_cases h with
  | finished hrest =>
    simp only [SubmitShiftsPc.write, hrest, List.isEmpty_nil, if_true]
    exact .dropped o rfl rfl
  | inserted hid hexec =>
    refine .exec _ rfl (exec_eq_some hexec) ?_
    intro id hdraw
    have heq : id = o.uuid := by simpa [Write.draws, CallbackShift.row] using hdraw
    exact ⟨heq ▸ hid, by simp [heq]⟩
  | @scheduleNext logID userID answer => exact .scheduleNext logID userID
  | _ => exact .same rfl

theorem scrapeSubmitFailure_wrote {key : String} {pc pc' : SubmitFailurePc} {jobs : List ScrapeJob}
    (h : scrapeSubmitFailure o w key pc = some (w', pc', jobs)) : Wrote (pc.write o w) w w' := by
  cases scrapeSubmitFailure_cases h with
  | markFailed => exact .dropped o rfl rfl
  | @scheduleNext logID userID => exact .scheduleNext logID userID
  | _ => exact .same rfl

theorem findOrCreateUser_wrote {email : String} {pc : FindUserPc} {r : FindUserResult}
    (h : findOrCreateUser o w email pc = some (w', r)) : Wrote (pc.write o w email) w w' := by
  cases findOrCreateUser_cases h with
  | inserted _ hid hexec =>
    refine .exec _ rfl (exec_eq_some hexec) ?_
    intro id hdraw
    have heq : id = o.uuid := by simpa [Write.draws] using hdraw
    exact ⟨heq ▸ hid, by simp [heq]⟩
  | _ => exact .same rfl

theorem requestPin_wrote {email : String} {pc pc' : RequestPinPc}
    (h : requestPin env o w email pc = some (w', pc')) : Wrote (pc.write o w email) w w' := by
  cases requestPin_cases h with
  | find hfind => exact findOrCreateUser_wrote hfind
  | found hfind => exact findOrCreateUser_wrote hfind
  | notFound hfind => exact findOrCreateUser_wrote hfind
  | _ => exact .same rfl

theorem verifyPin_wrote {email pin : String} {pc pc' : VerifyPinPc}
    (h : verifyPin env o w email pin pc = some (w', pc')) : Wrote (pc.write env o w email) w w' := by
  cases verifyPin_cases h with
  | find hfind => exact findOrCreateUser_wrote hfind
  | found hfind => exact findOrCreateUser_wrote hfind
  | notFound hfind => exact findOrCreateUser_wrote hfind
  | @createSession u db hid hrand hexec =>
    refine .exec (.insertSession ⟨o.uuid, u.id, env.hashToken o.token,
      unix (w.now + sessionDuration), unix w.now⟩) rfl (exec_eq_some hexec) ?_
    intro id hdraw
    have heq : id = o.uuid := by simpa [Write.draws] using hdraw
    exact ⟨heq ▸ hid, by simp [heq]⟩
  | _ => exact .same rfl

theorem writeCredentials_wrote {userID : Uuid} {pc pc' : WriteCredentialsPc} {jobs : List ScrapeJob}
    (h : writeCredentials env o w userID pc = some (w', pc', jobs)) :
    Wrote (pc.write env o w userID) w w' := by
  cases writeCredentials_cases h with
  | @insertDEK _ plainDEK encDEK _ hrand hgen hexec =>
    refine .exec (.insertDEK ⟨userID, encDEK, o.dekNonce, unix w.now⟩) ?_ (exec_eq_some hexec)
      (by simp [Write.draws])
    simp [WriteCredentialsPc.write, hgen]
  | @upsert _ plainDEK row _ hrand hseal hexec =>
    refine .exec (.upsertCredentials row) ?_ (exec_eq_some hexec) (by simp [Write.draws])
    simp [WriteCredentialsPc.write, hseal]
  | @schedule now _ hexec =>
    exact .exec (.upsertSchedule userID now) rfl (exec_eq_some hexec) (by simp [Write.draws])
  | _ => exact .same rfl

theorem runTask_wrote {t t' : Task} {jobs : List ScrapeJob}
    (h : runTask env o w t = some (w', t', jobs)) : Wrote (t.write env o w) w w' := by
  cases runTask_cases h with
  | getCredentials hr => exact scrapeGetCredentials_wrote hr
  | submitShifts hr => exact scrapeSubmitShifts_wrote hr
  | submitFailure hr => exact scrapeSubmitFailure_wrote hr
  | scrape hr => exact scrapeForUser_wrote hr
  | requestPin hr => exact requestPin_wrote hr
  | verifyPin hr => exact verifyPin_wrote hr
  | logout =>
    simp only [Task.write, logout]
    split_ifs
    · exact .same rfl
    · exact .dropped o rfl rfl
  | refused err => exact .same rfl
  | begun hb => exact .same rfl
  | writeCredentials hr => exact writeCredentials_wrote hr
  | deleteAccount =>
    simp only [deleteAccount]
    split_ifs
    · exact .same rfl
    · exact .exec _ rfl rfl (by simp [Write.draws])
  | @updateTimezone userID body r =>
    cases body with
    | error msg => exact .same rfl
    | ok tz =>
      simp only [updateTimezone]
      split_ifs
      · exact .same rfl
      · exact .same rfl
      · exact .exec _ rfl rfl (by simp [Write.draws])

theorem runScheduler_wrote {waited : Bool} {sch sch' : Scheduler} {jobs : List ScrapeJob}
    (h : runScheduler o w waited sch = some (w', sch', jobs)) : Wrote (sch.write o w) w w' := by
  cases runScheduler_cases h with
  | reapMark => exact .dropped o rfl rfl
  | @reapSchedule e rest => exact .scheduleNext e.logID e.userID
  | retention => exact .dropped o rfl rfl
  | _ => exact .same rfl

end Handlers

/-! A statement that fails leaves the tables alone. -/

section Failing
variable {env : Env} {o : Outcome} {w w' : World} (hsql : o.sqlFails = true)
include hsql

theorem exec_failed (r : Option DB) : World.exec o r = none := by simp [World.exec, hsql]

theorem execDropped_failed (db : DB) : (w.execDropped o db).db = w.db := by
  simp [World.execDropped, hsql]

theorem scheduleNext_failed (logID userID : Uuid) : (w.scheduleNext o logID userID).db = w.db :=
  execDropped_failed hsql _

theorem scrapeForUser_failed {job job' : ScrapeJob} {pc pc' : ScrapePc}
    (h : scrapeForUser env o w job pc = some (w', job', pc')) : w'.db = w.db := by
  cases scrapeForUser_cases h with
  | inserted _ _ _ hexec => simp [exec_failed hsql] at hexec
  | saveContainerID | retried | gaveUp => exact execDropped_failed hsql _
  | scheduleNext => exact scheduleNext_failed hsql _ _
  | _ => rfl

theorem scrapeGetCredentials_failed {key : String} {pc pc' : GetCredentialsPc}
    (h : scrapeGetCredentials env o w key pc = some (w', pc')) : w'.db = w.db := by
  cases scrapeGetCredentials_cases h with
  | markFetched => exact execDropped_failed hsql _
  | _ => rfl

theorem scrapeSubmitShifts_failed {key : String} {pc pc' : SubmitShiftsPc}
    (h : scrapeSubmitShifts env o w key pc = some (w', pc')) : w'.db = w.db := by
  cases scrapeSubmitShifts_cases h with
  | finished => exact execDropped_failed hsql _
  | inserted _ hexec => simp [exec_failed hsql] at hexec
  | scheduleNext => exact scheduleNext_failed hsql _ _
  | _ => rfl

theorem scrapeSubmitFailure_failed {key : String} {pc pc' : SubmitFailurePc} {jobs : List ScrapeJob}
    (h : scrapeSubmitFailure o w key pc = some (w', pc', jobs)) : w'.db = w.db := by
  cases scrapeSubmitFailure_cases h with
  | markFailed => exact execDropped_failed hsql _
  | scheduleNext => exact scheduleNext_failed hsql _ _
  | _ => rfl

theorem findOrCreateUser_failed {email : String} {pc : FindUserPc} {r : FindUserResult}
    (h : findOrCreateUser o w email pc = some (w', r)) : w'.db = w.db := by
  cases findOrCreateUser_cases h with
  | inserted _ _ hexec => simp [exec_failed hsql] at hexec
  | _ => rfl

theorem requestPin_failed {email : String} {pc pc' : RequestPinPc}
    (h : requestPin env o w email pc = some (w', pc')) : w'.db = w.db := by
  cases requestPin_cases h with
  | find hfind | found hfind | notFound hfind => exact findOrCreateUser_failed hsql hfind
  | _ => rfl

theorem verifyPin_failed {email pin : String} {pc pc' : VerifyPinPc}
    (h : verifyPin env o w email pin pc = some (w', pc')) : w'.db = w.db := by
  cases verifyPin_cases h with
  | find hfind | found hfind | notFound hfind => exact findOrCreateUser_failed hsql hfind
  | createSession _ _ hexec => simp [exec_failed hsql] at hexec
  | _ => rfl

theorem writeCredentials_failed {userID : Uuid} {pc pc' : WriteCredentialsPc} {jobs : List ScrapeJob}
    (h : writeCredentials env o w userID pc = some (w', pc', jobs)) : w'.db = w.db := by
  cases writeCredentials_cases h with
  | insertDEK _ _ hexec | upsert _ _ hexec | schedule hexec => simp [exec_failed hsql] at hexec
  | _ => rfl

theorem runTask_failed {t t' : Task} {jobs : List ScrapeJob}
    (h : runTask env o w t = some (w', t', jobs)) : w'.db = w.db := by
  cases runTask_cases h with
  | getCredentials hr => exact scrapeGetCredentials_failed hsql hr
  | submitShifts hr => exact scrapeSubmitShifts_failed hsql hr
  | submitFailure hr => exact scrapeSubmitFailure_failed hsql hr
  | scrape hr => exact scrapeForUser_failed hsql hr
  | requestPin hr => exact requestPin_failed hsql hr
  | verifyPin hr => exact verifyPin_failed hsql hr
  | logout =>
    simp only [logout]
    split_ifs
    · rfl
    · exact execDropped_failed hsql _
  | refused err => rfl
  | begun hb => rfl
  | writeCredentials hr => exact writeCredentials_failed hsql hr
  | deleteAccount => simp [deleteAccount, hsql]
  | @updateTimezone userID body r =>
    cases body with
    | error msg => rfl
    | ok tz =>
      simp only [updateTimezone, hsql]
      split_ifs <;> rfl

theorem runScheduler_failed {waited : Bool} {sch sch' : Scheduler} {jobs : List ScrapeJob}
    (h : runScheduler o w waited sch = some (w', sch', jobs)) : w'.db = w.db := by
  cases runScheduler_cases h with
  | reapMark | retention => exact execDropped_failed hsql _
  | reapSchedule => exact scheduleNext_failed hsql _ _
  | _ => rfl

end Failing

/-! What an executed statement has done, with the checks it passed. -/

inductive Write.Done (db : DB) : Write → DB → Prop
  | insertScrapeLog {l : ScrapeLog} {t} (huser : db.hasUser l.userID = true)
      (ht : db.scrapeLogs.insert l = some t) : Done db (.insertScrapeLog l) { db with scrapeLogs := t }
  | insertShift {sh : Shift} {t} (huser : db.hasUser sh.userID = true)
      (ht : db.shifts.insert sh = some t) : Done db (.insertShift sh) { db with shifts := t }
  | keepShift {sh : Shift} (hstored : db.countShifts sh.userID sh.shiftIDExt ≠ 0) :
      Done db (.insertShift sh) db
  | insertSchedule {userID : Uuid} {next : Int} {t} (huser : db.hasUser userID = true)
      (ht : db.scrapeSchedule.insert ⟨userID, next, none⟩ = some t) :
      Done db (.upsertSchedule userID next) { db with scrapeSchedule := t }
  | updateSchedule {userID : Uuid} {next : Int} {hf} :
      Done db (.upsertSchedule userID next)
        { db with
          scrapeSchedule := db.scrapeSchedule.update (fun r => r.userID == userID)
            (fun r => { r with nextScrapeAt := next }) hf }
  | insertDEK {dek : UserDEK} {t} (huser : db.hasUser dek.userID = true)
      (ht : db.userDEKs.insert dek = some t) : Done db (.insertDEK dek) { db with userDEKs := t }
  | insertCredentials {c : StarbucksCredentials} {t} (huser : db.hasUser c.userID = true)
      (ht : db.starbucksCredentials.insert c = some t) :
      Done db (.upsertCredentials c) { db with starbucksCredentials := t }
  | updateCredentials {c : StarbucksCredentials} {hf} :
      Done db (.upsertCredentials c)
        { db with
          starbucksCredentials := db.starbucksCredentials.update (fun r => r.userID == c.userID)
            (fun r => { c with userID := r.userID, createdAt := r.createdAt }) hf }
  | insertUser {u : User} {t} (ht : db.users.insert u = some t) :
      Done db (.insertUser u) { db with users := t }
  | insertSession {r : Session} {t} (huser : db.hasUser r.userID = true)
      (ht : db.sessions.insert r = some t) : Done db (.insertSession r) { db with sessions := t }
  | finishScrapeLog {id : Uuid} {v : Verdict} {now : Int} :
      Done db (.finishScrapeLog id v now) (db.finishScrapeLog id v now)
  | setContainerID {id : Uuid} {containerID : String} :
      Done db (.setContainerID id containerID) (db.setContainerID id containerID)
  | setCredentialsFetchedAt {key : String} {now : Int} :
      Done db (.setCredentialsFetchedAt key now) (db.setCredentialsFetchedAt key now)
  | scheduleNext {userID : Uuid} {next now : Int} :
      Done db (.scheduleNext userID next now) (db.scheduleNext userID next now)
  | updateTimezone {id : Uuid} {timezone : String} {now : Int} :
      Done db (.updateTimezone id timezone now) (db.updateTimezone id timezone now)
  | deleteUser {id : Uuid} : Done db (.deleteUser id) (db.deleteUser id)
  | deleteSession {tokenHash : Bytes} : Done db (.deleteSession tokenHash) (db.deleteSession tokenHash)
  | retention {now : Int} {stmt : RetentionStatement} :
      Done db (.retention now stmt) (stmt.exec now db)

section Tables
variable {db db' : DB} {x : Write}

theorem Write.done_of_exec (h : x.exec db = some db') : x.Done db db' := by
  cases x with
  | insertScrapeLog l =>
    simp only [Write.exec, DB.insertScrapeLog] at h
    split_ifs at h with huser
    obtain ⟨t, ht, rfl⟩ := Option.map_eq_some_iff.mp h
    exact .insertScrapeLog huser ht
  | insertShift sh =>
    simp only [Write.exec, DB.insertShift] at h
    split_ifs at h with huser hstored
    · obtain ⟨t, ht, rfl⟩ := Option.map_eq_some_iff.mp h
      exact .insertShift huser ht
    · cases h
      exact .keepShift hstored
  | upsertSchedule userID next =>
    simp only [Write.exec, DB.upsertSchedule] at h
    split_ifs at h with huser
    · cases h
      exact .updateSchedule
    · obtain ⟨t, ht, rfl⟩ := Option.map_eq_some_iff.mp h
      exact .insertSchedule huser ht
  | insertDEK dek =>
    simp only [Write.exec, DB.insertDEK] at h
    split_ifs at h with huser
    obtain ⟨t, ht, rfl⟩ := Option.map_eq_some_iff.mp h
    exact .insertDEK huser ht
  | upsertCredentials c =>
    simp only [Write.exec, DB.upsertCredentials] at h
    split_ifs at h with huser
    · cases h
      exact .updateCredentials
    · obtain ⟨t, ht, rfl⟩ := Option.map_eq_some_iff.mp h
      exact .insertCredentials huser ht
  | insertUser u =>
    obtain ⟨t, ht, rfl⟩ := Option.map_eq_some_iff.mp h
    exact .insertUser ht
  | insertSession r =>
    simp only [Write.exec, DB.insertSession] at h
    split_ifs at h with huser
    obtain ⟨t, ht, rfl⟩ := Option.map_eq_some_iff.mp h
    exact .insertSession huser ht
  | finishScrapeLog id v now =>
    cases h
    exact .finishScrapeLog
  | setContainerID id containerID =>
    cases h
    exact .setContainerID
  | setCredentialsFetchedAt key now =>
    cases h
    exact .setCredentialsFetchedAt
  | scheduleNext userID next now =>
    cases h
    exact .scheduleNext
  | updateTimezone id tz now =>
    cases h
    exact .updateTimezone
  | deleteUser id =>
    cases h
    exact .deleteUser
  | deleteSession tokenHash =>
    cases h
    exact .deleteSession
  | retention now stmt =>
    cases h
    exact .retention

theorem Write.Done.shifts (h : x.Done db db') {sh : Shift} (hsh : sh ∈ db'.shifts) :
    sh ∈ db.shifts ∨ x = .insertShift sh := by
  cases h with
  | insertShift _ ht =>
    cases (Table.mem_of_insert ht).mp hsh with
    | inl hold => exact .inl hold
    | inr heq => exact .inr (by rw [heq])
  | deleteUser => exact .inl (Table.mem_delete.mp hsh).1
  | @retention now stmt =>
    cases stmt with
    | shifts => exact .inl (Table.mem_delete.mp hsh).1
    | _ => exact .inl hsh
  | _ => exact .inl hsh

theorem Write.Done.users (h : x.Done db db') {u : User} (hu : u ∈ db'.users) :
    (∃ u₀ ∈ db.users, u₀.id = u.id ∧ u₀.email = u.email ∧ u₀.icsToken = u.icsToken) ∨
      x = .insertUser u := by
  cases h with
  | insertUser ht =>
    cases (Table.mem_of_insert ht).mp hu with
    | inl hold => exact .inl ⟨u, hold, rfl, rfl, rfl⟩
    | inr heq => exact .inr (by rw [heq])
  | @updateTimezone id tz now =>
    simp only [DB.updateTimezone, Table.mem_update] at hu
    obtain ⟨u₀, hu₀, rfl⟩ := hu
    refine .inl ⟨u₀, hu₀, ?_⟩
    split <;> exact ⟨rfl, rfl, rfl⟩
  | deleteUser => exact .inl ⟨u, (Table.mem_delete.mp hu).1, rfl, rfl, rfl⟩
  | @retention now stmt => cases stmt <;> exact .inl ⟨u, hu, rfl, rfl, rfl⟩
  | _ => exact .inl ⟨u, hu, rfl, rfl, rfl⟩

theorem Write.Done.user_kept (h : x.Done db db') (hx : ∀ uid, x ≠ .deleteUser uid) {u : User}
    (hu : u ∈ db.users) :
    ∃ u' ∈ db'.users, u'.id = u.id ∧ u'.email = u.email ∧ u'.icsToken = u.icsToken := by
  cases h with
  | insertUser ht => exact ⟨u, (Table.mem_of_insert ht).mpr (.inl hu), rfl, rfl, rfl⟩
  | @updateTimezone id tz now =>
    refine ⟨if u.id == id then { u with timezone := tz, updatedAt := now } else u, ?_, ?_⟩
    · simp only [DB.updateTimezone, Table.mem_update]
      exact ⟨u, hu, rfl⟩
    · split <;> exact ⟨rfl, rfl, rfl⟩
  | @deleteUser id => exact absurd rfl (hx id)
  | @retention now stmt => cases stmt <;> exact ⟨u, hu, rfl, rfl, rfl⟩
  | _ => exact ⟨u, hu, rfl, rfl, rfl⟩

theorem Write.Done.sessions (h : x.Done db db') {r : Session} (hr : r ∈ db'.sessions) :
    r ∈ db.sessions ∨ x = .insertSession r := by
  cases h with
  | insertSession _ ht =>
    cases (Table.mem_of_insert ht).mp hr with
    | inl hold => exact .inl hold
    | inr heq => exact .inr (by rw [heq])
  | deleteUser => exact .inl (Table.mem_delete.mp hr).1
  | deleteSession => exact .inl (Table.mem_delete.mp hr).1
  | @retention now stmt =>
    cases stmt with
    | sessions => exact .inl (Table.mem_delete.mp hr).1
    | _ => exact .inl hr
  | _ => exact .inl hr

theorem Write.Done.hasUser (h : x.Done db db') {uid : Uuid} (huid : db.hasUser uid = true) :
    db'.hasUser uid = true ∨ x = .deleteUser uid := by
  cases h with
  | @insertUser u t ht =>
    have hins : db.insertUser u = some { db with users := t } := by simp [DB.insertUser, ht]
    exact .inl ((DB.hasUser_insertUser hins).mpr (.inl huid))
  | updateTimezone => exact .inl (DB.hasUser_updateTimezone.trans huid)
  | @deleteUser id =>
    by_cases heq : uid = id
    · exact .inr (by rw [heq])
    · exact .inl (DB.hasUser_deleteUser.mpr ⟨huid, heq⟩)
  | @retention now stmt => cases stmt <;> exact .inl huid
  | _ => exact .inl huid

theorem Write.Done.starbucksCredentials (h : x.Done db db') {row : StarbucksCredentials}
    (hrow : row ∈ db'.starbucksCredentials) :
    (∃ row₀ ∈ db.starbucksCredentials, row₀.userID = row.userID ∧ x ≠ .deleteUser row.userID) ∨
      x = .upsertCredentials row ∧ db.hasUser row.userID = true := by
  cases h with
  | insertCredentials huser ht =>
    cases (Table.mem_of_insert ht).mp hrow with
    | inl hold => exact .inl ⟨row, hold, rfl, by simp⟩
    | inr heq => exact .inr (by rw [heq]; exact ⟨rfl, huser⟩)
  | updateCredentials =>
    simp only [Table.mem_update] at hrow
    obtain ⟨row₀, hrow₀, rfl⟩ := hrow
    refine .inl ⟨row₀, hrow₀, ?_, by simp⟩
    split <;> rfl
  | @deleteUser id =>
    obtain ⟨hold, hne⟩ := Table.mem_delete.mp hrow
    refine .inl ⟨row, hold, rfl, ?_⟩
    rintro ⟨⟩
    simp at hne
  | @retention now stmt => cases stmt <;> exact .inl ⟨row, hrow, rfl, by simp⟩
  | _ => exact .inl ⟨row, hrow, rfl, by simp⟩

theorem Write.Done.scheduled (h : x.Done db db') {uid : Uuid} {r : ScrapeSchedule}
    (hr : r ∈ db.scrapeSchedule) (huid : r.userID = uid) :
    (∃ r' ∈ db'.scrapeSchedule, r'.userID = uid) ∨ x = .deleteUser uid := by
  cases h with
  | insertSchedule _ ht => exact .inl ⟨r, (Table.mem_of_insert ht).mpr (.inl hr), huid⟩
  | updateSchedule =>
    simp only [Table.mem_update]
    refine .inl ⟨_, ⟨r, hr, rfl⟩, ?_⟩
    split <;> exact huid
  | scheduleNext =>
    simp only [DB.scheduleNext, Table.mem_update]
    refine .inl ⟨_, ⟨r, hr, rfl⟩, ?_⟩
    split <;> exact huid
  | @deleteUser id =>
    by_cases heq : uid = id
    · exact .inr (by rw [heq])
    · refine .inl ⟨r, Table.mem_delete.mpr ⟨hr, ?_⟩, huid⟩
      rw [beq_eq_false_iff_ne, huid]
      exact heq
  | @retention now stmt => cases stmt <;> exact .inl ⟨r, hr, huid⟩
  | _ => exact .inl ⟨r, hr, huid⟩

theorem Write.Done.scrapeSchedule (h : x.Done db db') {r : ScrapeSchedule}
    (hr : r ∈ db'.scrapeSchedule) :
    (∃ r₀ ∈ db.scrapeSchedule, r₀.userID = r.userID ∧
      (r₀.lastScrapedAt = r.lastScrapedAt ∨
        ∃ next now, x = .scheduleNext r.userID next now ∧ r.lastScrapedAt = some now)) ∨
      ∃ next, x = .upsertSchedule r.userID next ∧ r.lastScrapedAt = none := by
  cases h with
  | @insertSchedule userID next t _ ht =>
    cases (Table.mem_of_insert ht).mp hr with
    | inl hold => exact .inl ⟨r, hold, rfl, .inl rfl⟩
    | inr heq => exact .inr ⟨next, by rw [heq], by rw [heq]⟩
  | updateSchedule =>
    simp only [Table.mem_update] at hr
    obtain ⟨r₀, hr₀, rfl⟩ := hr
    refine .inl ⟨r₀, hr₀, ?_⟩
    split <;> exact ⟨rfl, .inl rfl⟩
  | @scheduleNext userID next now =>
    simp only [DB.scheduleNext, Table.mem_update] at hr
    obtain ⟨r₀, hr₀, rfl⟩ := hr
    refine .inl ⟨r₀, hr₀, ?_⟩
    split
    · rename_i huser
      exact ⟨rfl, .inr ⟨next, now, by rw [beq_iff_eq.mp huser], rfl⟩⟩
    · exact ⟨rfl, .inl rfl⟩
  | deleteUser => exact .inl ⟨r, (Table.mem_delete.mp hr).1, rfl, .inl rfl⟩
  | @retention now stmt => cases stmt <;> exact .inl ⟨r, hr, rfl, .inl rfl⟩
  | _ => exact .inl ⟨r, hr, rfl, .inl rfl⟩

def Write.edit : Write → ScrapeLog → ScrapeLog
  | .finishScrapeLog id v now, l => if l.id == id then l.finish v now else l
  | .setContainerID id containerID, l =>
    if l.id == id then { l with containerID := some containerID } else l
  | .setCredentialsFetchedAt key now, l =>
    if l.scrapeKey == some key then { l with credentialsFetchedAt := some now } else l
  | .retention now .screenshots, l =>
    if l.status == .failure && l.failureScreenshots.isSome &&
        l.finishedAt.any fun t => decide (t < now - 7 * day) then
      { l with failureScreenshots := none }
    else l
  | _, l => l

theorem Write.Done.scrapeLogs (h : x.Done db db') {l : ScrapeLog} (hl : l ∈ db'.scrapeLogs) :
    (∃ l₀ ∈ db.scrapeLogs, x.edit l₀ = l) ∨ x = .insertScrapeLog l := by
  cases h with
  | insertScrapeLog _ ht =>
    cases (Table.mem_of_insert ht).mp hl with
    | inl hold => exact .inl ⟨l, hold, rfl⟩
    | inr heq => exact .inr (by rw [heq])
  | finishScrapeLog =>
    simp only [DB.finishScrapeLog, Table.mem_update] at hl
    exact .inl hl
  | setContainerID =>
    simp only [DB.setContainerID, Table.mem_update] at hl
    exact .inl hl
  | setCredentialsFetchedAt =>
    simp only [DB.setCredentialsFetchedAt, Table.mem_update] at hl
    exact .inl hl
  | deleteUser => exact .inl ⟨l, (Table.mem_delete.mp hl).1, rfl⟩
  | @retention now stmt =>
    cases stmt with
    | successLogs => exact .inl ⟨l, (Table.mem_delete.mp hl).1, rfl⟩
    | failureLogs => exact .inl ⟨l, (Table.mem_delete.mp hl).1, rfl⟩
    | screenshots =>
      simp only [RetentionStatement.exec, Table.mem_update] at hl
      exact .inl hl
    | _ => exact .inl ⟨l, hl, rfl⟩
  | _ => exact .inl ⟨l, hl, rfl⟩

/-- Besides the terminal UPDATE a statement only touches columns of a log that no other
statement reads to find it. -/
theorem Write.edit_cases (x : Write) (l : ScrapeLog) :
    (∃ v now, x = .finishScrapeLog l.id v now ∧ x.edit l = l.finish v now) ∨
      ∃ containerID fetchedAt screenshots, x.edit l =
        { l with
          containerID := containerID, credentialsFetchedAt := fetchedAt
          failureScreenshots := screenshots } := by
  have hsame : ∃ containerID fetchedAt screenshots, l =
      { l with
        containerID := containerID, credentialsFetchedAt := fetchedAt
        failureScreenshots := screenshots } := ⟨_, _, _, rfl⟩
  cases x with
  | finishScrapeLog id v now =>
    simp only [Write.edit]
    split
    · rename_i hid
      rw [beq_iff_eq.mp hid]
      exact .inl ⟨v, now, rfl, rfl⟩
    · exact .inr hsame
  | setContainerID id containerID =>
    simp only [Write.edit]
    split
    · exact .inr ⟨_, _, _, rfl⟩
    · exact .inr hsame
  | setCredentialsFetchedAt key now =>
    simp only [Write.edit]
    split
    · exact .inr ⟨_, _, _, rfl⟩
    · exact .inr hsame
  | retention now stmt =>
    cases stmt with
    | screenshots =>
      simp only [Write.edit]
      split
      · exact .inr ⟨_, _, _, rfl⟩
      · exact .inr hsame
    | _ => exact .inr hsame
  | _ => exact .inr hsame

section EditFields
variable (x : Write) (l : ScrapeLog)

@[simp] theorem ScrapeLog.finish_userID (v : Verdict) (now : Int) :
    (l.finish v now).userID = l.userID := by cases v <;> rfl

@[simp] theorem ScrapeLog.finish_startedAt (v : Verdict) (now : Int) :
    (l.finish v now).startedAt = l.startedAt := by cases v <;> rfl

@[simp] theorem Write.edit_id : (x.edit l).id = l.id := by
  obtain ⟨v, now, _, h⟩ | ⟨_, _, _, h⟩ := x.edit_cases l <;> simp [h]

@[simp] theorem Write.edit_userID : (x.edit l).userID = l.userID := by
  obtain ⟨v, now, _, h⟩ | ⟨_, _, _, h⟩ := x.edit_cases l <;> simp [h]

@[simp] theorem Write.edit_scrapeKey : (x.edit l).scrapeKey = l.scrapeKey := by
  obtain ⟨v, now, _, h⟩ | ⟨_, _, _, h⟩ := x.edit_cases l <;> simp [h]

@[simp] theorem Write.edit_startedAt : (x.edit l).startedAt = l.startedAt := by
  obtain ⟨v, now, _, h⟩ | ⟨_, _, _, h⟩ := x.edit_cases l <;> simp [h]

end EditFields

theorem ScrapeLog.finish_finishedAt (v : Verdict) (now : Int) (l : ScrapeLog) :
    (l.finish v now).finishedAt = some now := by cases v <;> rfl

theorem Write.edit_finished (x : Write) (l : ScrapeLog) :
    (∃ v now, x = .finishScrapeLog l.id v now ∧ x.edit l = l.finish v now) ∨
      (x.edit l).status = l.status ∧ (x.edit l).finishedAt = l.finishedAt ∧
        ((x.edit l).failureScreenshots.isSome = true → l.failureScreenshots.isSome = true) := by
  cases x with
  | finishScrapeLog id v now =>
    simp only [Write.edit]
    split
    · rename_i hid
      rw [beq_iff_eq.mp hid]
      exact .inl ⟨v, now, rfl, rfl⟩
    · exact .inr ⟨rfl, rfl, fun h => h⟩
  | setContainerID | setCredentialsFetchedAt =>
    simp only [Write.edit]
    split <;> exact .inr ⟨rfl, rfl, fun h => h⟩
  | retention now stmt =>
    cases stmt with
    | screenshots =>
      simp only [Write.edit]
      split
      · exact .inr ⟨rfl, rfl, by simp⟩
      · exact .inr ⟨rfl, rfl, fun h => h⟩
    | _ => exact .inr ⟨rfl, rfl, fun h => h⟩
  | _ => exact .inr ⟨rfl, rfl, fun h => h⟩

theorem ScrapeLog.finish_status (v : Verdict) (now : Int) (l : ScrapeLog) :
    (l.finish v now).status = v.status := by cases v <;> rfl

theorem Write.edit_running {x : Write} {l : ScrapeLog} (h : (x.edit l).status = .running) : l.status = .running := by
  obtain ⟨v, now, _, hedit⟩ | ⟨hsame, _⟩ := x.edit_finished l
  · rw [hedit, ScrapeLog.finish_status] at h
    exact absurd h v.status_ne_running
  · exact hsame.symm.trans h

theorem Write.Done.shift_kept (h : x.Done db db') {sh : Shift} (hsh : sh ∈ db.shifts) :
    sh ∈ db'.shifts ∨ x = .deleteUser sh.userID ∨
      ∃ now, x = .retention now .shifts ∧ sh.endTime < now - 30 * day := by
  cases h with
  | insertShift _ ht => exact .inl ((Table.mem_of_insert ht).mpr (.inl hsh))
  | @deleteUser id =>
    by_cases heq : sh.userID = id
    · exact .inr (.inl (by rw [heq]))
    · exact .inl (Table.mem_delete.mpr ⟨hsh, by simpa using heq⟩)
  | @retention now stmt =>
    cases stmt with
    | shifts =>
      by_cases hold : sh.endTime < now - 30 * day
      · exact .inr (.inr ⟨now, rfl, hold⟩)
      · exact .inl (Table.mem_delete.mpr ⟨hsh, by simpa using hold⟩)
    | _ => exact .inl hsh
  | _ => exact .inl hsh

theorem Write.Done.log_kept (h : x.Done db db') {l : ScrapeLog} (hl : l ∈ db.scrapeLogs) :
    x.edit l ∈ db'.scrapeLogs ∨ x = .deleteUser l.userID ∨
      ∃ now stmt, x = .retention now stmt ∧ stmt.removes now l.core = true := by
  cases h with
  | insertScrapeLog _ ht => exact .inl ((Table.mem_of_insert ht).mpr (.inl hl))
  | finishScrapeLog =>
    simp only [DB.finishScrapeLog, Table.mem_update]
    exact .inl ⟨l, hl, rfl⟩
  | setContainerID =>
    simp only [DB.setContainerID, Table.mem_update]
    exact .inl ⟨l, hl, rfl⟩
  | setCredentialsFetchedAt =>
    simp only [DB.setCredentialsFetchedAt, Table.mem_update]
    exact .inl ⟨l, hl, rfl⟩
  | @deleteUser id =>
    by_cases heq : l.userID = id
    · exact .inr (.inl (by rw [heq]))
    · exact .inl (Table.mem_delete.mpr ⟨hl, by simpa using heq⟩)
  | @retention now stmt =>
    cases hremoves : stmt.removes now l.core with
    | true => exact .inr (.inr ⟨now, stmt, rfl, hremoves⟩)
    | false =>
      refine .inl ?_
      cases stmt with
      | successLogs | failureLogs => exact Table.mem_delete.mpr ⟨hl, hremoves⟩
      | screenshots =>
        simp only [RetentionStatement.exec, Table.mem_update]
        exact ⟨l, hl, rfl⟩
      | _ => exact hl
  | _ => exact .inl hl

theorem Write.Done.hasUser_deleted {id : Uuid} (h : (Write.deleteUser id).Done db db') :
    db'.hasUser id = false := by
  cases h
  exact Bool.eq_false_iff.mpr fun huser => (DB.hasUser_deleteUser.mp huser).2 rfl

end Tables

/-! Who runs which statement: one case for each place in the code. -/

inductive Task.Writes (env : Env) (o : Outcome) (w : World) : Task → Write → Prop
  | insertLog {job : ScrapeJob} : Writes env o w (.scrape job .insertLog)
      (.insertScrapeLog (job.newLog o.uuid o.key (unix w.now)))
  | saveContainerID {job : ScrapeJob} {logID : Uuid} {containerID : String} :
      Writes env o w (.scrape job (.saveContainerID logID containerID)) (.setContainerID logID containerID)
  | startFailed {job : ScrapeJob} {logID : Uuid} {err : String} :
      Writes env o w (.scrape job (.markFailed logID err))
        (.finishScrapeLog logID (.startFailed err) (unix w.now))
  | scrapeNext {job : ScrapeJob} {logID : Uuid} :
      Writes env o w (.scrape job (.scheduleNext logID)) (w.nextWrite o job.userID)
  | markFetched {key : String} {creds : CredentialsInput} :
      Writes env o w (.getCredentials key (.markFetched creds)) (.setCredentialsFetchedAt key (unix w.now))
  | reportShifts {key : String} {i : Ingest} (hrest : i.rest = []) :
      Writes env o w (.submitShifts key (.count i))
        (.finishScrapeLog i.logID (.reportedShifts i.found i.newCount) (unix w.now))
  | insertShift {key : String} {i : Ingest} {sh : CallbackShift} {start stop : Int} {already : Nat} :
      Writes env o w (.submitShifts key (.insert i sh start stop already))
        (.insertShift (sh.row o.uuid i.userID start stop (unix w.now)))
  | shiftsNext {key : String} {logID userID : Uuid} {answer : ShiftsAnswer} :
      Writes env o w (.submitShifts key (.scheduleNext logID userID answer)) (w.nextWrite o userID)
  | reportFailure {key : String} {logID userID : Uuid} {report : FailureReport} :
      Writes env o w (.submitFailure key (.markFailed logID userID report))
        (.finishScrapeLog logID (.reportedFailure report.logs report.screenshots) (unix w.now))
  | failureNext {key : String} {logID userID : Uuid} :
      Writes env o w (.submitFailure key (.scheduleNext logID userID)) (w.nextWrite o userID)
  | requestUser {email pin : String} : Writes env o w (.requestPin email (.find pin .insert))
      (.insertUser ⟨o.uuid, email, false, "America/Chicago", o.token, unix w.now, unix w.now⟩)
  | verifyUser {email pin : String} : Writes env o w (.verifyPin email pin (.find .insert))
      (.insertUser ⟨o.uuid, email, false, "America/Chicago", o.token, unix w.now, unix w.now⟩)
  | createSession {email pin : String} {u : User} :
      Writes env o w (.verifyPin email pin (.createSession u))
        (.insertSession
          ⟨o.uuid, u.id, env.hashToken o.token, unix (w.now + sessionDuration), unix w.now⟩)
  | logout {token : String} (htoken : token ≠ "") :
      Writes env o w (.logout token) (.deleteSession (env.hashToken token))
  | insertDEK {userID : Uuid} {input : CredentialsInput} {plainDEK encDEK : Bytes}
      (hgen : env.crypto.generateDEK o.dek o.dekNonce = some (plainDEK, encDEK)) :
      Writes env o w (.writeCredentials userID (.insertDEK input))
        (.insertDEK ⟨userID, encDEK, o.dekNonce, unix w.now⟩)
  | upsertCredentials {userID : Uuid} {input : CredentialsInput} {plainDEK : Bytes}
      {row : StarbucksCredentials}
      (hseal : sealCredentials env.crypto env.json plainDEK o.nonces userID input (unix w.now) = some row) :
      Writes env o w (.writeCredentials userID (.upsert input plainDEK)) (.upsertCredentials row)
  | upsertSchedule {userID : Uuid} {now : Int} :
      Writes env o w (.writeCredentials userID (.schedule now)) (.upsertSchedule userID now)
  | deleteAccount {userID : Uuid} : Writes env o w (.deleteAccount userID) (.deleteUser userID)
  | updateTimezone {userID : Uuid} {tz : String} :
      Writes env o w (.updateTimezone userID (.ok tz)) (.updateTimezone userID tz (unix w.now))

inductive Scheduler.Writes (o : Outcome) (w : World) : Scheduler → Write → Prop
  | reapMark {e : StaleEntry} {rest : List StaleEntry} :
      Writes o w (.reapMark e rest) (.finishScrapeLog e.logID .timedOut (unix w.now))
  | reapSchedule {e : StaleEntry} {rest : List StaleEntry} :
      Writes o w (.reapSchedule e rest) (w.nextWrite o e.userID)
  | retention {now : Int} {stmt : RetentionStatement} {rest : List RetentionStatement} :
      Writes o w (.retention now (stmt :: rest)) (.retention now stmt)

section Sites
variable {env : Env} {o : Outcome} {w : World} {x : Write}

theorem Task.writes_of_write {t : Task} (h : t.write env o w = some x) : t.Writes env o w x := by
  cases t with
  | getCredentials key pc =>
    cases pc with
    | markFetched =>
      cases h
      exact .markFetched
    | _ => cases h
  | submitShifts key pc =>
    cases pc with
    | count i =>
      simp only [Task.write, SubmitShiftsPc.write] at h
      split at h
      · rename_i hrest
        cases h
        exact .reportShifts (List.isEmpty_iff.mp hrest)
      · cases h
    | insert =>
      cases h
      exact .insertShift
    | scheduleNext =>
      cases h
      exact .shiftsNext
    | _ => cases h
  | submitFailure key pc =>
    cases pc with
    | markFailed =>
      cases h
      exact .reportFailure
    | scheduleNext =>
      cases h
      exact .failureNext
    | _ => cases h
  | scrape job pc =>
    cases pc with
    | insertLog =>
      cases h
      exact .insertLog
    | saveContainerID =>
      cases h
      exact .saveContainerID
    | markFailed =>
      cases h
      exact .startFailed
    | scheduleNext =>
      cases h
      exact .scrapeNext
    | _ => cases h
  | requestPin email pc =>
    cases pc with
    | find pin pc =>
      cases pc with
      | insert =>
        cases h
        exact .requestUser
      | _ => cases h
    | _ => cases h
  | verifyPin email pin pc =>
    cases pc with
    | find pc =>
      cases pc with
      | insert =>
        cases h
        exact .verifyUser
      | _ => cases h
    | createSession =>
      cases h
      exact .createSession
    | _ => cases h
  | logout token =>
    simp only [Task.write] at h
    split_ifs at h with htoken
    cases h
    exact .logout htoken
  | writeCredentials userID pc =>
    cases pc with
    | insertDEK input =>
      obtain ⟨⟨plainDEK, encDEK⟩, hgen, rfl⟩ := Option.map_eq_some_iff.mp h
      exact .insertDEK hgen
    | upsert input plainDEK =>
      obtain ⟨row, hseal, rfl⟩ := Option.map_eq_some_iff.mp h
      exact .upsertCredentials hseal
    | schedule =>
      cases h
      exact .upsertSchedule
    | _ => cases h
  | deleteAccount =>
    cases h
    exact .deleteAccount
  | updateTimezone userID body =>
    cases body with
    | error msg => cases h
    | ok tz =>
      cases h
      exact .updateTimezone
  | authed token req => cases h
  | finished r => cases h

theorem Scheduler.writes_of_write {sch : Scheduler} (h : sch.write o w = some x) :
    sch.Writes o w x := by
  cases sch with
  | reapMark =>
    cases h
    exact .reapMark
  | reapSchedule =>
    cases h
    exact .reapSchedule
  | retention now stmts =>
    cases stmts with
    | nil => cases h
    | cons stmt rest =>
      cases h
      exact .retention
  | _ => cases h

end Sites

namespace Server
variable {env : Env} {s s' : Server} {a : Action}

/-- The statement that changes the database in a step. -/
def write (env : Env) (s : Server) : Action → Option Write
  | .run i o => s.tasks[i]?.bind fun t => t.write env o s.toWorld
  | .schedule o => s.scheduler.write o s.toWorld
  | _ => none

theorem write_cases {x : Write} (h : s.write env a = some x) :
    (∃ i o t, a = .run i o ∧ s.tasks[i]? = some t ∧ t.Writes env o s.toWorld x) ∨
      ∃ o, a = .schedule o ∧ s.scheduler.Writes o s.toWorld x := by
  cases a with
  | run i o =>
    obtain ⟨t, ht, hx⟩ := Option.bind_eq_some_iff.mp h
    exact .inl ⟨i, o, t, rfl, ht, Task.writes_of_write hx⟩
  | schedule o => exact .inr ⟨o, rfl, Scheduler.writes_of_write h⟩
  | _ => cases h

theorem step_wrote (h : s.step env a = some s') : Wrote (s.write env a) s.toWorld s'.toWorld := by
  cases a with
  | run i o =>
    obtain ⟨t, w, t', jobs, ht, hrun, rfl⟩ := step_run h
    simpa [write, ht] using runTask_wrote hrun
  | schedule o =>
    obtain ⟨w, sch, jobs, hrun, rfl⟩ := step_schedule h
    exact runScheduler_wrote hrun
  | advance d =>
    cases h
    exact .same rfl
  | arrive r =>
    cases h
    exact .same rfl
  | containerExit id =>
    cases h
    exact .same rfl
  | cleanupPins =>
    cases h
    exact .same rfl
  | sweepLimiters =>
    cases h
    exact .same rfl

/-- The statement of the step fails. -/
def fails : Action → Bool
  | .run _ o => o.sqlFails
  | .schedule o => o.sqlFails
  | _ => false

theorem step_failed (h : s.step env a = some s') (hfails : fails a = true) : s'.db = s.db := by
  cases a with
  | run i o =>
    obtain ⟨t, w, t', jobs, ht, hrun, rfl⟩ := step_run h
    exact runTask_failed hfails hrun
  | schedule o =>
    obtain ⟨w, sch, jobs, hrun, rfl⟩ := step_schedule h
    exact runScheduler_failed hfails hrun
  | _ => cases hfails

/-- A fact about the tables survives a step when the statement the step runs keeps it. -/
theorem db_step {P : DB → Prop} (h : s.step env a = some s') (hs : P s.db)
    (hkeeps : ∀ x, s.write env a = some x → x.Done s.db s'.db →
      (∀ id ∈ x.draws, id ∉ s.drawn ∧ id ∈ s'.drawn) → P s'.db) : P s'.db := by
  cases step_wrote h with
  | same hdb =>
    rw [hdb]
    exact hs
  | exec x hwr hexec hdraws => exact hkeeps x hwr (Write.done_of_exec hexec) hdraws

theorem db_step_executed {P : DB → Prop} (h : s.step env a = some s') (hs : P s.db)
    (hkeeps : fails a = false → ∀ x, s.write env a = some x → x.Done s.db s'.db →
      (∀ id ∈ x.draws, id ∉ s.drawn ∧ id ∈ s'.drawn) → P s'.db) : P s'.db := by
  cases hfails : fails a with
  | true =>
    rw [step_failed h hfails]
    exact hs
  | false => exact db_step h hs (hkeeps hfails)

theorem drawn_step (h : s.step env a = some s') {id : Uuid} (hid : id ∈ s.drawn) : id ∈ s'.drawn := by
  by_contra hnot
  exact not_drawn_of_step h hnot hid

theorem hasUser_false_step {uid : Uuid} (h : s.step env a = some s') (hdrawn : uid ∈ s.drawn)
    (hs : s.db.hasUser uid = false) : s'.db.hasUser uid = false := by
  refine db_step h (P := fun db => db.hasUser uid = false) hs ?_
  intro x _ hdone hdraws
  refine Bool.eq_false_iff.mpr fun huser => ?_
  obtain ⟨u, hu, rfl⟩ := DB.hasUser_iff.mp huser
  cases hdone.users hu with
  | inl hold =>
    obtain ⟨u₀, hu₀, hid, _⟩ := hold
    have hnot : s.db.hasUser u.id = true := DB.hasUser_iff.mpr ⟨u₀, hu₀, hid⟩
    rw [hs] at hnot
    cases hnot
  | inr heq => exact (hdraws u.id (by simp [heq, Write.draws])).1 hdrawn

/-- Every identifier and key in the tables was drawn. -/
structure Registered (s : Server) : Prop where
  users : ∀ u ∈ s.db.users, u.id ∈ s.drawn
  shifts : ∀ sh ∈ s.db.shifts, sh.id ∈ s.drawn
  logs : ∀ l ∈ s.db.scrapeLogs, l.id ∈ s.drawn
  keys : ∀ l ∈ s.db.scrapeLogs, ∀ key, l.scrapeKey = some key → key ∈ s.drawn

theorem registered_boot {db : DB} {now : Int} : (boot db now).Registered where
  users u hu := by
    have hid : u.id ∈ db.users.rows.map User.id := List.mem_map_of_mem hu
    simp [boot, World.boot, DB.drawn, hid]
  shifts sh hsh := by
    have hid : sh.id ∈ db.shifts.rows.map Shift.id := List.mem_map_of_mem hsh
    simp [boot, World.boot, DB.drawn, hid]
  logs l hl := by
    have hid : l.id ∈ db.scrapeLogs.rows.map ScrapeLog.id := List.mem_map_of_mem hl
    simp [boot, World.boot, DB.drawn, hid]
  keys l hl key hkey := by
    have hmem : key ∈ db.scrapeLogs.rows.filterMap ScrapeLog.scrapeKey :=
      List.mem_filterMap.mpr ⟨l, hl, hkey⟩
    simp [boot, World.boot, DB.drawn, hmem]

theorem registered_step (hs : s.Registered) (h : s.step env a = some s') : s'.Registered where
  users := by
    refine db_step h (P := fun db => ∀ u ∈ db.users, u.id ∈ s'.drawn)
      (fun u hu => drawn_step h (hs.users u hu)) ?_
    intro x _ hdone hdraws u hu
    cases hdone.users hu with
    | inl hold =>
      obtain ⟨u₀, hu₀, hid, _⟩ := hold
      exact hid ▸ drawn_step h (hs.users u₀ hu₀)
    | inr heq => exact (hdraws _ (by simp [heq, Write.draws])).2
  shifts := by
    refine db_step h (P := fun db => ∀ sh ∈ db.shifts, sh.id ∈ s'.drawn)
      (fun sh hsh => drawn_step h (hs.shifts sh hsh)) ?_
    intro x _ hdone hdraws sh hsh
    cases hdone.shifts hsh with
    | inl hold => exact drawn_step h (hs.shifts sh hold)
    | inr heq => exact (hdraws _ (by simp [heq, Write.draws])).2
  logs := by
    refine db_step h (P := fun db => ∀ l ∈ db.scrapeLogs, l.id ∈ s'.drawn)
      (fun l hl => drawn_step h (hs.logs l hl)) ?_
    intro x _ hdone hdraws l hl
    cases hdone.scrapeLogs hl with
    | inl hold =>
      obtain ⟨l₀, hl₀, rfl⟩ := hold
      rw [Write.edit_id]
      exact drawn_step h (hs.logs l₀ hl₀)
    | inr heq => exact (hdraws _ (by simp [heq, Write.draws])).2
  keys := by
    refine db_step h
      (P := fun db => ∀ l ∈ db.scrapeLogs, ∀ key, l.scrapeKey = some key → key ∈ s'.drawn)
      (fun l hl key hkey => drawn_step h (hs.keys l hl key hkey)) ?_
    intro x _ hdone hdraws l hl key hkey
    cases hdone.scrapeLogs hl with
    | inl hold =>
      obtain ⟨l₀, hl₀, rfl⟩ := hold
      rw [Write.edit_scrapeKey] at hkey
      exact drawn_step h (hs.keys l₀ hl₀ key hkey)
    | inr heq => exact (hdraws _ (by simp [heq, Write.draws, hkey])).2

theorem registered_of_reaches {ok : Server → Action → Bool} {db : DB} {now : Int}
    (h : Reaches (step env) ok (boot db now) s) : s.Registered :=
  h.invariant registered_boot fun _ _ _ _ hs ha => registered_step hs ha

theorem drawn_of_reaches {ok : Server → Action → Bool} (h : Reaches (step env) ok s s') {id : Uuid}
    (hid : id ∈ s.drawn) : id ∈ s'.drawn := by
  refine h.invariant (I := fun t => id ∈ t.drawn) hid ?_
  intro t a t' _ ht ha
  exact drawn_step ha ht

end Server
end ScheduleSync
