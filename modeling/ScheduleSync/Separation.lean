import ScheduleSync.Effects

/-! What belongs to the users: their accounts, keys and credentials, the pending PINs
and what was mailed and opened. Scrapes, callbacks and the scheduler only read it, and
of the requests of users each changes its own part. -/
namespace ScheduleSync

structure Vault where
  users : Table User
  userDEKs : Table UserDEK
  credentials : Table StarbucksCredentials

def DB.vault (db : DB) : Vault := ⟨db.users, db.userDEKs, db.starbucksCredentials⟩

structure Logins where
  pins : PinStore
  stored : List (String × String)
  mailed : List (String × String)
  opened : List (User × String)

def World.logins (w : World) : Logins :=
  ⟨w.pins, w.trace.pinsStored, w.trace.pinsMailed, w.trace.sessionsOpened⟩

structure Apart (w w' : World) : Prop where
  logins : w'.logins = w.logins
  vault : w'.db.vault = w.db.vault
  saved : w'.trace.saved = w.trace.saved

section Statements
variable {db db' : DB}

theorem DB.insertScrapeLog_vault {l : ScrapeLog} (h : db.insertScrapeLog l = some db') :
    db'.vault = db.vault := by
  unfold DB.insertScrapeLog at h
  split_ifs at h
  obtain ⟨t, _, rfl⟩ := Option.map_eq_some_iff.mp h
  rfl

theorem DB.insertShift_vault {sh : Shift} (h : db.insertShift sh = some db') :
    db'.vault = db.vault := by
  unfold DB.insertShift at h
  split_ifs at h
  · obtain ⟨t, _, rfl⟩ := Option.map_eq_some_iff.mp h
    rfl
  · cases h
    rfl

theorem DB.insertSession_vault {r : Session} (h : db.insertSession r = some db') :
    db'.vault = db.vault := by
  unfold DB.insertSession at h
  split_ifs at h
  obtain ⟨t, _, rfl⟩ := Option.map_eq_some_iff.mp h
  rfl

theorem DB.upsertSchedule_vault {userID : Uuid} {next : Int}
    (h : db.upsertSchedule userID next = some db') : db'.vault = db.vault := by
  unfold DB.upsertSchedule at h
  split_ifs at h
  · cases h
    rfl
  · obtain ⟨t, _, rfl⟩ := Option.map_eq_some_iff.mp h
    rfl

end Statements

section Worlds
variable {w : World}

theorem Apart.refl (w : World) : Apart w w := ⟨rfl, rfl, rfl⟩

theorem Apart.execDropped (o : Outcome) {db : DB} (h : db.vault = w.db.vault) :
    Apart w (w.execDropped o db) := by
  unfold World.execDropped
  split
  · exact .refl w
  · exact ⟨rfl, h, rfl⟩

theorem Apart.scheduleNext (o : Outcome) (logID userID : Uuid) :
    Apart w (w.scheduleNext o logID userID) := by
  unfold World.scheduleNext World.execDropped
  split <;> exact ⟨rfl, rfl, rfl⟩

end Worlds

section Handlers
variable {env : Env} {o : Outcome} {w w' : World}

theorem scrapeGetCredentials_apart {key : String} {pc pc' : GetCredentialsPc}
    (h : scrapeGetCredentials env o w key pc = some (w', pc')) : Apart w w' := by
  cases scrapeGetCredentials_reads h with
  | inl hw =>
    rw [hw]
    exact .refl w
  | inr hw =>
    rw [hw.2]
    exact .execDropped o rfl

theorem scrapeSubmitShifts_apart {key : String} {pc pc' : SubmitShiftsPc}
    (h : scrapeSubmitShifts env o w key pc = some (w', pc')) : Apart w w' := by
  cases scrapeSubmitShifts_cases h with
  | finished => exact .execDropped o rfl
  | insertFailed => exact ⟨rfl, rfl, rfl⟩
  | inserted hid hexec => exact ⟨rfl, DB.insertShift_vault (exec_eq_some hexec), rfl⟩
  | scheduleNext => exact .scheduleNext o _ _
  | _ => exact .refl w

theorem scrapeSubmitFailure_apart {key : String} {pc pc' : SubmitFailurePc} {jobs : List ScrapeJob}
    (h : scrapeSubmitFailure o w key pc = some (w', pc', jobs)) : Apart w w' := by
  cases scrapeSubmitFailure_cases h with
  | markFailed => exact .execDropped o rfl
  | scheduleNext => exact .scheduleNext o _ _
  | _ => exact .refl w

theorem scrapeForUser_apart {job job' : ScrapeJob} {pc pc' : ScrapePc}
    (h : scrapeForUser env o w job pc = some (w', job', pc')) : Apart w w' := by
  cases scrapeForUser_cases h with
  | inserted hid hkey hne hexec => exact ⟨rfl, DB.insertScrapeLog_vault (exec_eq_some hexec), rfl⟩
  | saveContainerID | retried | gaveUp => exact .execDropped o rfl
  | scheduleNext => exact .scheduleNext o _ _
  | _ => exact ⟨rfl, rfl, rfl⟩

theorem runScheduler_apart {waited : Bool} {sch sch' : Scheduler} {jobs : List ScrapeJob}
    (h : runScheduler o w waited sch = some (w', sch', jobs)) : Apart w w' := by
  cases runScheduler_cases h with
  | killed => exact ⟨rfl, rfl, rfl⟩
  | reapMark => exact .execDropped o rfl
  | reapSchedule => exact .scheduleNext o _ _
  | @retention now stmt rest => exact .execDropped o (by cases stmt <;> rfl)
  | _ => exact .refl w

theorem logout_apart {token : String} : Apart w (logout env o w token) := by
  unfold logout
  split_ifs
  · exact .refl w
  · exact .execDropped o rfl

theorem writeCredentials_logins {userID : Uuid} {pc pc' : WriteCredentialsPc}
    {jobs : List ScrapeJob} (h : writeCredentials env o w userID pc = some (w', pc', jobs)) :
    w'.logins = w.logins := by
  cases writeCredentials_cases h <;> rfl

theorem deleteAccount_logins {userID : Uuid} : (deleteAccount o w userID).1.logins = w.logins := by
  unfold deleteAccount
  split_ifs <;> rfl

theorem updateTimezone_logins {userID : Uuid} {body : Except String String} :
    (updateTimezone env o w userID body).1.logins = w.logins := by
  cases body with
  | error msg => rfl
  | ok tz =>
    simp only [updateTimezone]
    split_ifs <;> rfl

theorem runTask_logins {t t' : Task} {jobs : List ScrapeJob}
    (h : runTask env o w t = some (w', t', jobs)) (hreq : ∀ email pc, t ≠ .requestPin email pc)
    (hver : ∀ email pin pc, t ≠ .verifyPin email pin pc) : w'.logins = w.logins := by
  cases runTask_cases h with
  | getCredentials hr => exact (scrapeGetCredentials_apart hr).logins
  | submitShifts hr => exact (scrapeSubmitShifts_apart hr).logins
  | submitFailure hr => exact (scrapeSubmitFailure_apart hr).logins
  | scrape hr => exact (scrapeForUser_apart hr).logins
  | requestPin => exact absurd rfl (hreq _ _)
  | verifyPin => exact absurd rfl (hver _ _ _)
  | logout => exact logout_apart.logins
  | refused err => rfl
  | begun hb => rfl
  | writeCredentials hr => exact writeCredentials_logins hr
  | deleteAccount => exact deleteAccount_logins
  | updateTimezone => exact updateTimezone_logins

end Handlers
end ScheduleSync
