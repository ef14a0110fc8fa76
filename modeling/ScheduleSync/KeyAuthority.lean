import ScheduleSync.CredentialStore
import ScheduleSync.Writes

/-! What a scrape key lets its holder do. A callback carries the ids of the log it found
under its key from the lookup on, and every statement after that names one of them; a
retry names the log it has inserted itself. -/
namespace ScheduleSync

def Request.scrapeKey : Request → Option String
  | .getCredentials key => some key
  | .submitShifts key _ => some key
  | .submitFailure key _ => some key
  | _ => none

/-- The one callback that can start a retry. -/
def Request.isFailure : Request → Bool
  | .submitFailure _ _ => true
  | _ => false

def Task.Refused : Task → Prop
  | .getCredentials _ (.answered (.error _)) => True
  | .submitShifts _ (.answered (.error _)) => True
  | .submitFailure _ (.answered (.error _)) => True
  | _ => False

/-- From `db₀` to `db` only the log `l`, shifts and the schedule of its user have
changed, and with `retries` the user may have new logs. -/
structure Confined (l : ScrapeLog) (retries : Bool) (db₀ db : DB) : Prop where
  users : db.users = db₀.users
  sessions : db.sessions = db₀.sessions
  userDEKs : db.userDEKs = db₀.userDEKs
  starbucksCredentials : db.starbucksCredentials = db₀.starbucksCredentials
  shifts : (db.shifts.rows.filter fun sh => sh.userID != l.userID) =
    db₀.shifts.rows.filter fun sh => sh.userID != l.userID
  scrapeSchedule : (db.scrapeSchedule.rows.filter fun r => r.userID != l.userID) =
    db₀.scrapeSchedule.rows.filter fun r => r.userID != l.userID
  scrapeLogs : ∃ new : List ScrapeLog, (db.scrapeLogs.rows.filter fun r => r.id != l.id) =
    (db₀.scrapeLogs.rows.filter fun r => r.id != l.id) ++ new ∧
    (∀ r ∈ new, r.userID = l.userID) ∧ (retries = false → new = [])

def DB.Unused (db : DB) (logID : Uuid) : Prop := ∀ r ∈ db.scrapeLogs, r.id ≠ logID

def Write.Within (l : ScrapeLog) (retries : Bool) (db₀ : DB) : Write → Prop
  | .insertScrapeLog r => r.userID = l.userID ∧ retries = true
  | .finishScrapeLog id _ _ => id = l.id ∨ db₀.Unused id
  | .setContainerID id _ => db₀.Unused id
  | .setCredentialsFetchedAt key _ => l.scrapeKey = some key
  | .insertShift sh => sh.userID = l.userID
  | .scheduleNext userID _ _ => userID = l.userID
  | _ => False

section Statements
variable {l : ScrapeLog} {retries : Bool} {db₀ db db' : DB} {x : Write}

theorem Confined.refl (l : ScrapeLog) (retries : Bool) (db : DB) : Confined l retries db db :=
  ⟨rfl, rfl, rfl, rfl, rfl, rfl, [], by simp, by simp, fun _ => rfl⟩

theorem Confined.updateLogs (hc : Confined l retries db₀ db) {t : Table ScrapeLog}
    {f : ScrapeLog → ScrapeLog} (ht : t.rows = db.scrapeLogs.rows.map f)
    (hid : ∀ r, (f r).id = r.id) (huser : ∀ r, (f r).userID = r.userID)
    (hfix : ∀ r ∈ db₀.scrapeLogs, r.id ≠ l.id → f r = r) :
    Confined l retries db₀ { db with scrapeLogs := t } := by
  obtain ⟨new, hlogs, hnew, hnone⟩ := hc.scrapeLogs
  refine { hc with scrapeLogs := ⟨new.map f, ?_, ?_, ?_⟩ }
  · have hcomp : ((fun r : ScrapeLog => r.id != l.id) ∘ f) = fun r => r.id != l.id := by
      funext r
      simp [hid]
    have hold : (db₀.scrapeLogs.rows.filter fun r => r.id != l.id).map f =
        db₀.scrapeLogs.rows.filter fun r => r.id != l.id := by
      refine (List.map_congr_left fun r hr => ?_).trans (List.map_id _)
      obtain ⟨hmem, hne⟩ := List.mem_filter.mp hr
      exact hfix r hmem (by simpa using hne)
    rw [ht, List.filter_map, hcomp, hlogs, List.map_append, hold]
  · intro r hr
    obtain ⟨r₀, hr₀, rfl⟩ := List.mem_map.mp hr
    exact (huser r₀).trans (hnew r₀ hr₀)
  · intro hretries
    rw [hnone hretries, List.map_nil]

theorem Write.Done.confined (h : x.Done db db') (hl : l ∈ db₀.scrapeLogs)
    (hx : x.Within l retries db₀) (hc : Confined l retries db₀ db) :
    Confined l retries db₀ db' := by
  cases h with
  | @insertScrapeLog k t _ ht =>
    obtain ⟨new, hlogs, hnew, _⟩ := hc.scrapeLogs
    obtain ⟨huser, hretries⟩ := hx
    refine { hc with scrapeLogs := ?_ }
    rw [Table.insert_rows ht, List.filter_append, hlogs, List.append_assoc]
    refine ⟨_, rfl, ?_, by simp [hretries]⟩
    intro r hr
    cases List.mem_append.mp hr with
    | inl hold => exact hnew r hold
    | inr hk =>
      obtain ⟨hk, _⟩ := List.mem_filter.mp hk
      rw [List.mem_singleton.mp hk]
      exact huser
  | @insertShift sh t _ ht =>
    have huser : sh.userID = l.userID := hx
    refine { hc with shifts := ?_ }
    rw [Table.insert_rows ht, List.filter_append, hc.shifts]
    simp [huser]
  | keepShift => exact hc
  | finishScrapeLog =>
    refine hc.updateLogs rfl (fun r => ?_) (fun r => ?_) ?_
    · split <;> simp
    · split <;> simp
    · intro r hr hne
      refine if_neg ?_
      intro hid
      cases hx with
      | inl hthis => exact hne ((beq_iff_eq.mp hid).trans hthis)
      | inr hunused => exact hunused r hr (beq_iff_eq.mp hid)
  | setContainerID =>
    refine hc.updateLogs rfl (fun r => ?_) (fun r => ?_) ?_
    · split <;> rfl
    · split <;> rfl
    · intro r hr _
      exact if_neg fun hid => hx r hr (beq_iff_eq.mp hid)
  | setCredentialsFetchedAt =>
    refine hc.updateLogs rfl (fun r => ?_) (fun r => ?_) ?_
    · split <;> rfl
    · split <;> rfl
    · intro r hr hne
      refine if_neg ?_
      intro hkey
      have hkey' := beq_iff_eq.mp hkey
      have hsame : r = l := Table.eq_of_clash hr hl (.inr ⟨hkey'.trans hx.symm, by simp [hkey']⟩)
      exact hne (by rw [hsame])
  | @scheduleNext userID next now =>
    have huser : userID = l.userID := hx
    refine { hc with scrapeSchedule := ?_ }
    refine (filter_map_of_unselected ?_ ?_ _).trans hc.scrapeSchedule
    · intro r
      split <;> rfl
    · intro r hr
      refine if_neg ?_
      simpa [huser] using hr
  | _ => exact hx.elim

end Statements

/-! The tasks of a callback that found the log `l`. -/

/-- The credentials are what the rows of the user hold. -/
def DB.Releases (env : Env) (db : DB) (userID : Uuid) (creds : CredentialsInput) : Prop :=
  ∃ plainDEK, db.HoldsKey env userID plainDEK ∧ ∃ row ∈ db.starbucksCredentials,
    row.userID = userID ∧ openCredentials env.crypto env.json plainDEK row = .ok creds

section Tasks
variable (env : Env) (l : ScrapeLog) (db₀ : DB)

def GetCredentialsPc.Serves : GetCredentialsPc → Prop
  | .lookup => False
  | .loadDEK userID => userID = l.userID
  | .loadRow userID plainDEK => userID = l.userID ∧ db₀.HoldsKey env l.userID plainDEK
  | .markFetched creds => db₀.Releases env l.userID creds
  | .answered (.ok creds) => db₀.Releases env l.userID creds
  | .answered (.error _) => True

def SubmitShiftsPc.Serves : SubmitShiftsPc → Prop
  | .lookup _ => False
  | .readTimezone logID userID _ => logID = l.id ∧ userID = l.userID
  | .count i => i.logID = l.id ∧ i.userID = l.userID
  | .insert i _ _ _ _ => i.logID = l.id ∧ i.userID = l.userID
  | .scheduleNext _ userID _ => userID = l.userID
  | .answered _ => True

def SubmitFailurePc.Serves : SubmitFailurePc → Prop
  | .lookup _ => False
  | .markFailed logID userID _ => logID = l.id ∧ userID = l.userID
  | .handleFailure _ userID => userID = l.userID
  | .scheduleNext _ userID => userID = l.userID
  | .answered _ => True

def ScrapePc.Serves : ScrapePc → Prop
  | .readTimezone logID _ => db₀.Unused logID
  | .pullImage logID _ _ => db₀.Unused logID
  | .createContainer logID _ _ => db₀.Unused logID
  | .saveContainerID logID _ => db₀.Unused logID
  | .startContainer logID _ => db₀.Unused logID
  | .markFailed logID _ => db₀.Unused logID
  | _ => True

def Task.Serves (retries : Bool) : Task → Prop
  | .getCredentials key pc => l.scrapeKey = some key ∧ pc.Serves env l db₀
  | .submitShifts _ pc => pc.Serves l
  | .submitFailure _ pc => retries = true ∧ pc.Serves l
  | .scrape job pc => retries = true ∧ job.userID = l.userID ∧ pc.Serves db₀
  | _ => False

end Tasks

section Steps
variable {env : Env} {o : Outcome} {w w' : World} {l : ScrapeLog} {db₀ : DB} {retries : Bool}

theorem scrapeGetCredentials_serves {key : String} {pc pc' : GetCredentialsPc}
    (hdeks : w.db.userDEKs = db₀.userDEKs)
    (hcreds : w.db.starbucksCredentials = db₀.starbucksCredentials)
    (h : scrapeGetCredentials env o w key pc = some (w', pc')) (hpc : pc.Serves env l db₀) :
    pc'.Serves env l db₀ := by
  cases scrapeGetCredentials_cases h with
  | found => exact hpc.elim
  | loadDEK hload =>
    obtain ⟨dek, hdek, hdec⟩ := Option.bind_eq_some_iff.mp hload
    obtain ⟨hmem, hid⟩ := DB.mem_of_userDEK (select_eq_some hdek)
    exact ⟨hpc, dek, hdeks ▸ hmem, hid.trans hpc, hdec⟩
  | @loadRow userID plainDEK row creds hsel hopen =>
    obtain ⟨huser, hkey⟩ := hpc
    obtain ⟨hmem, hid⟩ := DB.mem_of_credentials (select_eq_some hsel)
    exact ⟨plainDEK, hkey, row, hcreds ▸ hmem, hid.trans huser, hopen⟩
  | markFetched => exact hpc
  | _ => trivial

theorem scrapeSubmitShifts_serves {key : String} {pc pc' : SubmitShiftsPc}
    (h : scrapeSubmitShifts env o w key pc = some (w', pc')) (hpc : pc.Serves l) : pc'.Serves l := by
  cases scrapeSubmitShifts_cases h with
  | found => exact hpc.elim
  | finished => exact hpc.2
  | readTimezone | skipped | counted | insertFailed | inserted => exact hpc
  | _ => trivial

theorem userID_of_handleScrapeFailure {logID userID : Uuid} {job : ScrapeJob}
    (h : handleScrapeFailure o w logID userID = some job) : job.userID = userID := by
  obtain ⟨k, _, _, _, rfl⟩ := handleScrapeFailure_some h
  rfl

theorem scrapeSubmitFailure_serves {key : String} {pc pc' : SubmitFailurePc} {jobs : List ScrapeJob}
    (h : scrapeSubmitFailure o w key pc = some (w', pc', jobs)) (hpc : pc.Serves l) :
    pc'.Serves l ∧ ∀ job ∈ jobs, job.userID = l.userID := by
  cases scrapeSubmitFailure_cases h with
  | found => exact hpc.elim
  | markFailed => exact ⟨hpc.2, by simp⟩
  | retried hretry =>
    refine ⟨trivial, ?_⟩
    intro job hjob
    rw [List.mem_singleton.mp hjob]
    exact (userID_of_handleScrapeFailure hretry).trans hpc
  | gaveUp => exact ⟨hpc, by simp⟩
  | _ => exact ⟨trivial, by simp⟩

theorem scrapeForUser_serves {job job' : ScrapeJob} {pc pc' : ScrapePc}
    (hdrawn : ∀ r ∈ db₀.scrapeLogs, r.id ∈ w.drawn)
    (h : scrapeForUser env o w job pc = some (w', job', pc')) (hpc : pc.Serves db₀) :
    job'.userID = job.userID ∧ pc'.Serves db₀ := by
  cases scrapeForUser_cases h with
  | inserted hid =>
    refine ⟨rfl, fun r hr heq => hid ?_⟩
    rw [← heq]
    exact hdrawn r hr
  | readTimezone | pullSkipped | pullFailed | pulled => exact ⟨rfl, hpc⟩
  | createFailed | created | saveContainerID | startFailed => exact ⟨rfl, hpc⟩
  | _ => exact ⟨rfl, trivial⟩

theorem runTask_serves {t t' : Task} {jobs : List ScrapeJob} (hc : Confined l retries db₀ w.db)
    (hdrawn : ∀ r ∈ db₀.scrapeLogs, r.id ∈ w.drawn)
    (h : runTask env o w t = some (w', t', jobs)) (ht : t.Serves env l db₀ retries) :
    t'.Serves env l db₀ retries ∧ ∀ job ∈ jobs, job.task.Serves env l db₀ retries := by
  cases runTask_cases h with
  | getCredentials hr =>
    exact ⟨⟨ht.1, scrapeGetCredentials_serves hc.userDEKs hc.starbucksCredentials hr ht.2⟩, by simp⟩
  | submitShifts hr => exact ⟨scrapeSubmitShifts_serves hr ht, by simp⟩
  | submitFailure hr =>
    obtain ⟨hpc, hjobs⟩ := scrapeSubmitFailure_serves hr ht.2
    exact ⟨⟨ht.1, hpc⟩, fun job hjob => ⟨ht.1, hjobs job hjob, trivial⟩⟩
  | scrape hr =>
    obtain ⟨huser, hpc⟩ := scrapeForUser_serves hdrawn hr ht.2.2
    exact ⟨⟨ht.1, huser.trans ht.2.1, hpc⟩, by simp⟩
  | _ => exact ht.elim

theorem write_within {t : Task} (ht : t.Serves env l db₀ retries) {x : Write}
    (hx : t.write env o w = some x) : x.Within l retries db₀ := by
  cases Task.writes_of_write hx with
  | markFetched => exact ht.1
  | reportShifts => exact .inl ht.1
  | insertShift => exact ht.2
  | shiftsNext => exact ht
  | reportFailure => exact .inl ht.2.1
  | failureNext => exact ht.2
  | insertLog => exact ⟨ht.2.1, ht.1⟩
  | saveContainerID => exact ht.2.2
  | startFailed => exact .inr ht.2.2
  | scrapeNext => exact ht.2.1
  | _ => exact ht.elim

end Steps

/-! The request alone. -/

/-- Each callback with the key answers an error and changes nothing. -/
structure Server.Refuses (env : Env) (s : Server) (key : String) : Prop where
  getCredentials : ∀ o, ∃ err, scrapeGetCredentials env o s.toWorld key .lookup =
    some (s.toWorld, .answered (.error err))
  submitShifts : ∀ o body, ∃ err, scrapeSubmitShifts env o s.toWorld key (.lookup body) =
    some (s.toWorld, .answered (.error err))
  submitFailure : ∀ o body, ∃ err, scrapeSubmitFailure o s.toWorld key (.lookup body) =
    some (s.toWorld, .answered (.error err), [])

theorem select_none {α : Type} (o : Outcome) : World.select o (none : Option α) = none := by
  unfold World.select
  split <;> rfl

namespace Server
variable {env : Env} {s s' s₀ s₁ : Server} {a : Action} {l : ScrapeLog} {retries : Bool} {r : Request}
  {key : String} {db₀ : DB} {start : Int}

theorem refuses_of_runningLog (h : s.db.runningLog key = none) : s.Refuses env key := by
  refine ⟨fun o => ?_, fun o body => ?_, fun o body => ?_⟩
  · simp only [scrapeGetCredentials, h, select_none]
    split <;> exact ⟨_, rfl⟩
  · simp only [scrapeSubmitShifts, h, select_none]
    split <;> exact ⟨_, rfl⟩
  · simp only [scrapeSubmitFailure, h, select_none]
    split <;> exact ⟨_, rfl⟩

/-- Nothing runs but task `i` and what it starts. -/
def alone (i : Nat) (_ : Server) : Action → Bool
  | .run j _ => decide (i ≤ j)
  | .advance _ => true
  | _ => false

structure Waiting (r : Request) (s₀ s : Server) : Prop where
  db : s.db = s₀.db
  drawn : s.drawn = s₀.drawn
  tasks : s.tasks = s₀.tasks ++ [r.task]

structure Serving (env : Env) (l : ScrapeLog) (retries : Bool) (s₀ s : Server) : Prop where
  db : Confined l retries s₀.db s.db
  drawn : ∀ id ∈ s₀.drawn, id ∈ s.drawn
  tasks : ∀ j t, s₀.tasks.length ≤ j → s.tasks[j]? = some t → t.Serves env l s₀.db retries

structure TurnedAway (s₀ s : Server) : Prop where
  db : s.db = s₀.db
  tasks : ∃ t : Task, t.Refused ∧ s.tasks = s₀.tasks ++ [t]

theorem lookup_found {o : Outcome} {w w' : World} {t : Task} {jobs : List ScrapeJob}
    (hkey : r.scrapeKey = some key) (hlog : w.db.runningLog key = some l)
    (h : runTask env o w r.task = some (w', t, jobs)) :
    w' = w ∧ jobs = [] ∧ t.Serves env l w.db r.isFailure := by
  obtain ⟨_, hkeyed, _⟩ := DB.mem_of_runningLog hlog
  have hsame {k : ScrapeLog} (hsel : World.select o (w.db.runningLog key) = some k) : k = l :=
    Option.some.inj ((select_eq_some hsel).symm.trans hlog)
  cases r with
  | getCredentials k =>
    cases hkey
    cases runTask_cases h with
    | getCredentials hr =>
      cases scrapeGetCredentials_cases hr with
      | found hsel => exact ⟨rfl, rfl, hkeyed, by rw [hsame hsel]; rfl⟩
      | _ => exact ⟨rfl, rfl, hkeyed, trivial⟩
  | submitShifts k body =>
    cases hkey
    cases runTask_cases h with
    | submitShifts hr =>
      cases scrapeSubmitShifts_cases hr with
      | found hsel => exact ⟨rfl, rfl, by rw [hsame hsel]; exact ⟨rfl, rfl⟩⟩
      | _ => exact ⟨rfl, rfl, trivial⟩
  | submitFailure k body =>
    cases hkey
    cases runTask_cases h with
    | submitFailure hr =>
      cases scrapeSubmitFailure_cases hr with
      | found hsel => exact ⟨rfl, rfl, rfl, by rw [hsame hsel]; exact ⟨rfl, rfl⟩⟩
      | _ => exact ⟨rfl, rfl, rfl, trivial⟩
  | _ => cases hkey

theorem lookup_refused {o : Outcome} {w' : World} {t : Task} {jobs : List ScrapeJob}
    (hkey : r.scrapeKey = some key) (hlog : s.db.runningLog key = none)
    (h : runTask env o s.toWorld r.task = some (w', t, jobs)) :
    w' = s.toWorld ∧ jobs = [] ∧ t.Refused := by
  have hrefuses : s.Refuses env key := refuses_of_runningLog hlog
  cases r with
  | getCredentials k =>
    cases hkey
    obtain ⟨err, herr⟩ := hrefuses.getCredentials o
    simp only [Request.task, runTask, herr] at h
    cases h
    exact ⟨rfl, rfl, trivial⟩
  | submitShifts k body =>
    cases hkey
    obtain ⟨err, herr⟩ := hrefuses.submitShifts o body
    simp only [Request.task, runTask, herr] at h
    cases h
    exact ⟨rfl, rfl, trivial⟩
  | submitFailure k body =>
    cases hkey
    obtain ⟨err, herr⟩ := hrefuses.submitFailure o body
    simp only [Request.task, runTask, herr] at h
    cases h
    exact ⟨rfl, rfl, trivial⟩
  | _ => cases hkey

theorem Waiting.task {i : Nat} {t : Task} (hw : Waiting r s₀ s) (hi : s₀.tasks.length ≤ i)
    (ht : s.tasks[i]? = some t) : i = s₀.tasks.length ∧ t = r.task :=
  getElem?_newest hi (hw.tasks ▸ ht)

theorem TurnedAway.task {i : Nat} {t : Task} (hw : TurnedAway s₀ s) (hi : s₀.tasks.length ≤ i)
    (ht : s.tasks[i]? = some t) : t.Refused := by
  obtain ⟨u, hu, htasks⟩ := hw.tasks
  rw [htasks] at ht
  rw [(getElem?_newest hi ht).2]
  exact hu

theorem runTask_refused {o : Outcome} {w : World} {t : Task} (ht : t.Refused) :
    runTask env o w t = none := by
  cases t with
  | getCredentials key pc =>
    cases pc with
    | answered r => rfl
    | _ => exact ht.elim
  | submitShifts key pc =>
    cases pc with
    | answered r => rfl
    | _ => exact ht.elim
  | submitFailure key pc =>
    cases pc with
    | answered r => rfl
    | _ => exact ht.elim
  | _ => exact ht.elim

theorem turnedAway_step (hkey : r.scrapeKey = some key) (hlog : s₀.db.runningLog key = none)
    (hok : s.alone s₀.tasks.length a = true) (hs : Waiting r s₀ s ∨ TurnedAway s₀ s)
    (h : s.step env a = some s') : Waiting r s₀ s' ∨ TurnedAway s₀ s' := by
  cases a with
  | run i o =>
    have hi : s₀.tasks.length ≤ i := by simpa [alone] using hok
    obtain ⟨t, w, t', jobs, ht, hrun, rfl⟩ := step_run h
    cases hs with
    | inl hw =>
      obtain ⟨rfl, rfl⟩ := hw.task hi ht
      rw [← hw.db] at hlog
      obtain ⟨rfl, rfl, hrefused⟩ := lookup_refused hkey hlog hrun
      refine .inr ⟨hw.db, t', hrefused, ?_⟩
      simp [pooled, hw.tasks]
    | inr hw =>
      rw [runTask_refused (hw.task hi ht)] at hrun
      cases hrun
  | advance d =>
    cases h
    cases hs with
    | inl hw => exact .inl ⟨hw.db, hw.drawn, hw.tasks⟩
    | inr hw => exact .inr ⟨hw.db, hw.tasks⟩
  | _ => cases hok

theorem serving_step (hl : l ∈ s₀.db.scrapeLogs) (hlogs : ∀ k ∈ s₀.db.scrapeLogs, k.id ∈ s₀.drawn)
    (hok : s.alone s₀.tasks.length a = true) (hs : Serving env l retries s₀ s)
    (h : s.step env a = some s') : Serving env l retries s₀ s' := by
  cases a with
  | run i o =>
    have hi : s₀.tasks.length ≤ i := by simpa [alone] using hok
    have hdrawn' : ∀ id ∈ s₀.drawn, id ∈ s'.drawn := fun id hid => drawn_step h (hs.drawn id hid)
    have hdb : Confined l retries s₀.db s'.db := by
      refine db_step h hs.db fun x hwr hdone _ => ?_
      obtain ⟨t, ht, hx⟩ := Option.bind_eq_some_iff.mp hwr
      exact hdone.confined hl (write_within (hs.tasks i t hi ht) hx) hs.db
    obtain ⟨t, w, t', jobs, ht, hrun, rfl⟩ := step_run h
    obtain ⟨ht', hjobs⟩ :=
      runTask_serves hs.db (fun k hk => hs.drawn k.id (hlogs k hk)) hrun (hs.tasks i t hi ht)
    refine ⟨hdb, hdrawn', ?_⟩
    intro j u hj hu
    obtain rfl | hold | hnew := getElem?_pooled_cases hu
    · exact ht'
    · exact hs.tasks j u hj hold
    · obtain ⟨job, hjob, rfl⟩ := List.mem_map.mp hnew
      exact hjobs job hjob
  | advance d =>
    cases h
    exact ⟨hs.db, hs.drawn, hs.tasks⟩
  | _ => cases hok

theorem served_step (hkey : r.scrapeKey = some key) (hlog : s₀.db.runningLog key = some l)
    (hlogs : ∀ k ∈ s₀.db.scrapeLogs, k.id ∈ s₀.drawn) (hok : s.alone s₀.tasks.length a = true)
    (hs : Waiting r s₀ s ∨ Serving env l r.isFailure s₀ s) (h : s.step env a = some s') :
    Waiting r s₀ s' ∨ Serving env l r.isFailure s₀ s' := by
  cases hs with
  | inr hw => exact .inr (serving_step (DB.mem_of_runningLog hlog).1 hlogs hok hw h)
  | inl hw =>
    cases a with
    | run i o =>
      have hi : s₀.tasks.length ≤ i := by simpa [alone] using hok
      obtain ⟨t, w, t', jobs, ht, hrun, rfl⟩ := step_run h
      obtain ⟨rfl, rfl⟩ := hw.task hi ht
      rw [← hw.db] at hlog
      obtain ⟨rfl, rfl, hserves⟩ := lookup_found hkey hlog hrun
      rw [hw.db] at hserves
      refine .inr ⟨?_, fun id hid => hw.drawn ▸ hid, ?_⟩
      · show Confined l r.isFailure s₀.db s.db
        rw [hw.db]
        exact .refl l r.isFailure s₀.db
      · intro j u hj hu
        have htasks : pooled s.tasks s₀.tasks.length t' [] = s₀.tasks ++ [t'] := by
          simp [pooled, hw.tasks]
        rw [List.map_nil, htasks] at hu
        rw [(getElem?_newest hj hu).2]
        exact hserves
    | advance d =>
      cases h
      exact .inl ⟨hw.db, hw.drawn, hw.tasks⟩
    | _ => cases hok

/-- A callback left to itself. Without a running log under its key it changes nothing and
answers an error; with one it stays with that log, its user's shifts and schedule and,
after a failure, the user's new logs, and it hands out no credentials but the user's. -/
theorem key_confined (h : Reaches (step env) anyStep (boot db₀ start) s)
    (hkey : r.scrapeKey = some key) (harrive : s.step env (.arrive r) = some s₁)
    (hrun : Reaches (step env) (alone s.tasks.length) s₁ s') :
    ((∀ l ∈ s.db.scrapeLogs, l.scrapeKey = some key → l.status ≠ .running) →
      s₁.Refuses env key ∧ s'.db = s.db ∧
        ∀ t, s'.tasks[s.tasks.length]? = some t → t = r.task ∨ t.Refused) ∧
    ∀ l ∈ s.db.scrapeLogs, l.scrapeKey = some key → l.status = .running →
      Confined l r.isFailure s.db s'.db ∧
        ∀ creds, s'.tasks[s.tasks.length]? = some (.getCredentials key (.answered (.ok creds))) →
          s.db.Releases env l.userID creds := by
  have hlogs := (registered_of_reaches h).logs
  have hwaiting : Waiting r s s₁ := by
    cases harrive
    exact ⟨rfl, rfl, rfl⟩
  refine ⟨fun hidle => ?_, fun l hl hk hrunning => ?_⟩
  · have hlog : s.db.runningLog key = none := DB.runningLog_eq_none hidle
    have hend : Waiting r s s' ∨ TurnedAway s s' :=
      hrun.invariant (.inl hwaiting) fun _ _ _ hok hs ha => turnedAway_step hkey hlog hok hs ha
    refine ⟨refuses_of_runningLog (hwaiting.db ▸ hlog), ?_, ?_⟩
    · cases hend with
      | inl hw => exact hw.db
      | inr hw => exact hw.db
    · intro t ht
      cases hend with
      | inl hw => exact .inl (hw.task le_rfl ht).2
      | inr hw => exact .inr (hw.task le_rfl ht)
  · have hlog : s.db.runningLog key = some l := DB.runningLog_of_mem hl hk hrunning
    have hend : Waiting r s s' ∨ Serving env l r.isFailure s s' :=
      hrun.invariant (.inl hwaiting) fun _ _ _ hok hs ha => served_step hkey hlog hlogs hok hs ha
    cases hend with
    | inl hw =>
      refine ⟨?_, fun creds ht => ?_⟩
      · rw [hw.db]
        exact .refl l r.isFailure s.db
      · have htask := (hw.task le_rfl ht).2
        cases r <;> cases htask
    | inr hw => exact ⟨hw.db, fun creds ht => (hw.tasks _ _ le_rfl ht).2⟩

def sharedDB : DB :=
  { sessionDB with
    users := ⟨[sampleUser, ⟨"u2", "b@x.com", false, "UTC", "ics2", 0, 0⟩], by decide⟩
    shifts := ⟨[⟨"sh2", "u2", "shift1", "barista", "store 1", 0, 14400, 4, 0⟩], List.pairwise_singleton _ _⟩
    sessions := ⟨[⟨"s1", "u1", sampleEnv.hashToken "tok", 1000000, 0⟩,
      ⟨"s2", "u2", sampleEnv.hashToken "tok2", 1000000, 0⟩], by decide⟩ }

def beforeFetch : Server :=
  after (step sampleEnv) anyStep (boot sharedDB 0)
    (firstSave ++ launch 1 "log1" "key1" "c1" ++
      .arrive (.authed "tok2" (.writeCredentials (.ok ⟨"roaster", "mermaid", []⟩))) :: statements 2 7 ++
      launch 3 "log2" "key2" "c2")

def arrivedWith (r : Request) : Server := after (step sampleEnv) anyStep beforeFetch [.arrive r]

def afterFetch : Server := after (step sampleEnv) (alone 4) (arrivedWith (.getCredentials "key1")) (statements 4 4)

def firstUpload : Request :=
  .submitShifts "key1" (.ok [⟨"2026-03-08T09:00:00", "2026-03-08T13:00:00", "barista", 4, "shift1", "store 1"⟩])

def afterUpload : Server :=
  after (step sampleEnv) (alone 4) (arrivedWith firstUpload)
    (statements 4 3 ++ .run 4 { uuid := "sh1" } :: statements 4 2)

def owners (db : DB) : List (List Uuid) :=
  [db.sessions.rows.map Session.userID, db.userDEKs.rows.map UserDEK.userID,
    db.starbucksCredentials.rows.map StarbucksCredentials.userID, db.shifts.rows.map Shift.userID,
    db.scrapeSchedule.rows.map ScrapeSchedule.userID, db.scrapeLogs.rows.map ScrapeLog.userID]

theorem key_confined_fetch :
    owners beforeFetch.db = [["u1", "u2"], ["u1", "u2"], ["u1", "u2"], ["u2"], ["u1", "u2"], ["u1", "u2"]] ∧
    afterUpload.db.shifts.rows.map Shift.userID = ["u2", "u1"] ∧
    afterFetch.tasks[4]? = some (.getCredentials "key1" (.answered (.ok sampleInput))) ∧
    ∃ l, beforeFetch.db.runningLog "key1" = some l ∧ l.userID = "u1" ∧
      Confined l false beforeFetch.db afterUpload.db ∧ Confined l false beforeFetch.db afterFetch.db ∧
      beforeFetch.db.Releases sampleEnv l.userID sampleInput := by
  have hreach : Reaches (step sampleEnv) anyStep (boot sharedDB 0) beforeFetch :=
    reaches_after (by decide +kernel)
  have hfetch : Reaches (step sampleEnv) (alone beforeFetch.tasks.length)
      (arrivedWith (.getCredentials "key1")) afterFetch := reaches_after (by decide +kernel)
  have hupload : Reaches (step sampleEnv) (alone beforeFetch.tasks.length) (arrivedWith firstUpload) afterUpload :=
    reaches_after (by decide +kernel)
  have hanswer : afterFetch.tasks[4]? = some (.getCredentials "key1" (.answered (.ok sampleInput))) := by rfl
  obtain ⟨l, hl, huser, hkey, hrunning⟩ : ∃ l, beforeFetch.db.runningLog "key1" = some l ∧ l.userID = "u1" ∧
      l.scrapeKey = some "key1" ∧ l.status = .running := ⟨_, rfl, by decide +kernel⟩
  have hmem := (DB.mem_of_runningLog hl).1
  obtain ⟨hfetched, hreleased⟩ := (key_confined hreach rfl rfl hfetch).2 l hmem hkey hrunning
  exact ⟨by decide +kernel, by decide +kernel, hanswer, l, hl, huser,
    ((key_confined hreach rfl rfl hupload).2 l hmem hkey hrunning).1, hfetched, hreleased _ hanswer⟩

end Server
end ScheduleSync
