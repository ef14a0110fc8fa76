import ScheduleSync.Lineage
import ScheduleSync.Quiescence
import ScheduleSync.Writes

/-! What a poll of the scheduler leaves behind: no scrape that was overdue when the reaper
looked is running once its pass is over, and no user who was due is passed over. -/
namespace ScheduleSync

/-- The logs the reaper has found and not marked yet. -/
def Scheduler.toMark : Scheduler → List Uuid
  | .reap rest => rest.map StaleEntry.logID
  | .reapMark e rest => e.logID :: rest.map StaleEntry.logID
  | .reapRetry _ rest => rest.map StaleEntry.logID
  | .reapSchedule _ rest => rest.map StaleEntry.logID
  | _ => []

theorem DB.status_finishScrapeLog {db : DB} {id : Uuid} {v : Verdict} {now : Int} {l : ScrapeLog}
    (hl : l ∈ (db.finishScrapeLog id v now).scrapeLogs) (hid : l.id = id) : l.status = v.status := by
  simp only [DB.finishScrapeLog, Table.mem_update] at hl
  obtain ⟨l₀, _, rfl⟩ := hl
  split at hid
  · rename_i hmatch
    rw [if_pos hmatch, ScrapeLog.finish_status]
  · rename_i hother
    exact absurd (beq_iff_eq.mpr hid) hother

namespace Server
variable {env : Env} {s s' : Server} {a : Action} {db : DB} {start n : Int} {uid : Uuid}

theorem clock_step (h : s.step env a = some s') : s.now ≤ s'.now := by
  obtain ⟨_, _, _, _, _, _, hframe, _⟩ := step_effect h
  exact hframe.now

theorem running_step (h : s.step env a = some s') {l : ScrapeLog} (hl : l ∈ s'.db.scrapeLogs)
    (hrunning : l.status = .running) :
    (∃ l₀ ∈ s.db.scrapeLogs, l₀.id = l.id ∧ l₀.status = .running ∧ l₀.startedAt = l.startedAt) ∨
      l.startedAt = unix s.now := by
  cases step_wrote h with
  | same hdb =>
    rw [hdb] at hl
    exact .inl ⟨l, hl, rfl, hrunning, rfl⟩
  | exec x hwr hexec _ =>
    cases (Write.done_of_exec hexec).scrapeLogs hl with
    | inl hold =>
      obtain ⟨l₀, hl₀, rfl⟩ := hold
      exact .inl ⟨l₀, hl₀, (x.edit_id l₀).symm, Write.edit_running hrunning, (x.edit_startedAt l₀).symm⟩
    | inr heq =>
      subst heq
      obtain ⟨i, o, t, rfl, ht, hsite⟩ | ⟨o, rfl, hsite⟩ := write_cases hwr
      · cases hsite
        exact .inr rfl
      · generalize s.scheduler = sch at hsite
        cases hsite

/-! The reaper. -/

def staleSelect (s : Server) : Action → Option Int
  | .schedule o => if s.scheduler = .stale ∧ o.sqlFails = false then some s.now else none
  | _ => none

/-- The UPDATE that marks a log as timed out succeeds. -/
def marks (s : Server) : Action → Bool
  | .schedule o =>
    match s.scheduler with
    | .reapMark _ _ => !o.sqlFails
    | _ => true
  | _ => true

/-- What was overdue at `n` and still runs is on the reaper's list. -/
structure Swept (s : Server) (n : Int) : Prop where
  past : n ≤ s.now
  listed : ∀ l ∈ s.db.scrapeLogs, l.status = .running → l.startedAt < unix (n - scrapeTimeout) →
    l.id ∈ s.scheduler.toMark

theorem unix_timeout_le (h : n ≤ s.now) : unix (n - scrapeTimeout) ≤ unix s.now := by
  refine unix_mono ?_
  have htimeout : 0 ≤ scrapeTimeout := by decide
  omega

theorem swept_step (hok : s.marks a = true) (hs : s.Swept n) (h : s.step env a = some s') :
    s'.Swept n := by
  refine ⟨hs.past.trans (clock_step h), ?_⟩
  intro l hl hrunning hold
  have hlisted : l.id ∈ s.scheduler.toMark := by
    cases running_step h hl hrunning with
    | inl hbefore =>
      obtain ⟨l₀, hl₀, hid, hrunning₀, hstarted⟩ := hbefore
      rw [← hid]
      exact hs.listed l₀ hl₀ hrunning₀ (hstarted ▸ hold)
    | inr hnew =>
      have hle := unix_timeout_le hs.past
      omega
  cases a with
  | schedule o =>
    obtain ⟨w, sch, jobs, hrun, rfl⟩ := step_schedule h
    change l.id ∈ sch.toMark
    generalize hsch : s.scheduler = sch₀ at hrun hlisted hok
    cases runScheduler_cases hrun with
    | @reapMark e rest =>
      have hsql : o.sqlFails = false := by simpa [marks, hsch] using hok
      have hne : l.id ≠ e.logID := by
        intro hid
        rw [execDropped_executed hsql] at hl
        exact Verdict.status_ne_running _ ((DB.status_finishScrapeLog hl hid).symm.trans hrunning)
      exact (List.mem_cons.mp hlisted).resolve_left hne
    | notKilled | killed | reapRetry | reapLast | reapSchedule => exact hlisted
    | _ => cases hlisted
  | run i o =>
    obtain ⟨_, _, _, _, _, _, rfl⟩ := step_run h
    exact hlisted
  | _ =>
    cases h
    exact hlisted

theorem swept_select (hselect : s.staleSelect a = some n) (h : s.step env a = some s') : s'.Swept n := by
  cases a with
  | schedule o =>
    simp only [staleSelect] at hselect
    split_ifs at hselect with hat
    cases hselect
    obtain ⟨hsch, hsql⟩ := hat
    obtain ⟨w, sch, jobs, hrun, rfl⟩ := step_schedule h
    rw [hsch] at hrun
    simp only [runScheduler, hsql] at hrun
    cases hrun
    refine ⟨le_rfl, ?_⟩
    intro l hl hrunning hold
    simp only [Scheduler.toMark, List.map_map, List.mem_map]
    refine ⟨l, List.mem_filter.mpr ⟨hl, ?_⟩, rfl⟩
    simp [hrunning, hold]
  | _ => cases hselect

/-- Once the pass is over, no scrape runs that was overdue at its SELECT, whatever
requests, retries and launches came in between. -/
theorem none_overdue {record : List Int}
    (h : Reaches (recorded (step env) staleSelect) (fun p => marks p.1) (boot db start, []) (s, record))
    (hn : n ∈ record) (hpass : s.scheduler.toMark = []) {l : ScrapeLog} (hl : l ∈ s.db.scrapeLogs)
    (hrunning : l.status = .running) : unix (n - scrapeTimeout) ≤ l.startedAt := by
  have hswept : ∀ n ∈ record, s.Swept n := by
    refine h.invariant_recorded (I := fun s record => ∀ n ∈ record, s.Swept n) (by simp) ?_
    intro s record a s' hok hs ha m hm
    cases List.mem_append.mp hm with
    | inl hnew => exact swept_select (Option.mem_toList.mp hnew) ha
    | inr hold => exact swept_step hok (hs m hold) ha
  by_contra hlt
  have hlisted := (hswept n hn).listed l hl hrunning (by omega)
  rw [hpass] at hlisted
  cases hlisted

def hungScrape : List Action :=
  firstPoll ++ launch 0 "log1" "key1" "c1" ++ polls 3 ++ [.advance (121 * 1000000000)] ++ polls 2 ++
    launch 1 "log2" "key2" "c2" ++ polls 6

def hung : Server × List Int :=
  after (recorded (step sampleEnv) staleSelect) (fun p => marks p.1) (boot sampleDB 0, []) hungScrape

theorem none_overdue_hung : ∃ l ∈ hung.1.db.scrapeLogs, l.status = .running ∧ 1 ≤ l.startedAt := by
  have hrun : Reaches (recorded (step sampleEnv) staleSelect) (fun p => marks p.1)
      (boot sampleDB 0, []) (hung.1, hung.2) := reaches_recorded_after (by decide +kernel)
  obtain ⟨l, hfound⟩ : ∃ l, hung.1.db.runningLog "key2" = some l :=
    Option.isSome_iff_exists.mp (by decide +kernel)
  obtain ⟨hl, _, hrunning⟩ := DB.mem_of_runningLog hfound
  have hlast : (121 * 1000000000 : Int) ∈ hung.2 := by decide +kernel
  exact ⟨l, hl, hrunning, none_overdue hrun hlast (by decide +kernel) hl hrunning⟩

/-! The due users. -/

/-- The time of the SELECT of the due users, and the database it reads. -/
def dueSelect (s : Server) : Action → Option (Int × DB)
  | .schedule o => if s.scheduler = .due ∧ o.sqlFails = false then some (s.now, s.db) else none
  | _ => none

/-- The INSERT of a scrape log fails for no reason but a constraint. -/
def inserts (s : Server) : Action → Bool
  | .run i o =>
    match s.tasks[i]? with
    | some (.scrape _ .insertLog) => !o.sqlFails
    | _ => true
  | _ => true

/-- The goroutine of a poll that has the user's log still to insert. -/
inductive Awaits (uid : Uuid) : Task → Prop
  | acquire : Awaits uid (.scrape ⟨uid, 0, true, true, none⟩ .acquire)
  | insertLog : Awaits uid (.scrape ⟨uid, 0, true, true, none⟩ .insertLog)

/-- A first automatic attempt for the user, not before `n`. -/
def Attempted (s : Server) (n : Int) (uid : Uuid) : Prop :=
  ∃ att ∈ s.trace.attempts, att.parent = none ∧ att.log.userID = uid ∧ att.log.retryCount = 0 ∧
    att.log.isAuto = 1 ∧ unix n ≤ att.log.startedAt

/-- The user found due at `n` has an attempt, or no account any more, or a goroutine. -/
structure Served (s : Server) (n : Int) (uid : Uuid) : Prop where
  past : n ≤ s.now
  drawn : uid ∈ s.drawn
  served : s.Attempted n uid ∨ s.db.hasUser uid = false ∨ ∃ t ∈ s.tasks, Awaits uid t

theorem attempted_step (h : s.step env a = some s') (hs : s.Attempted n uid) : s'.Attempted n uid := by
  obtain ⟨att, hatt, hrest⟩ := hs
  refine ⟨att, ?_, hrest⟩
  rcases attempts_step h with hsame | ⟨job, id, key, hins⟩
  · rw [hsame]
    exact hatt
  · rw [hins.attempts]
    exact List.mem_cons_of_mem _ hatt

theorem hasUser_of_insertScrapeLog {w : World} {l : ScrapeLog} (hreg : ∀ l ∈ w.db.scrapeLogs, l.id ∈ w.drawn)
    (hkeys : ∀ l ∈ w.db.scrapeLogs, ∀ key, l.scrapeKey = some key → key ∈ w.drawn) (hid : l.id ∉ w.drawn)
    (hkey : ∀ key, l.scrapeKey = some key → key ∉ w.drawn) (h : w.db.insertScrapeLog l = none) :
    w.db.hasUser l.userID = false := by
  refine Bool.eq_false_iff.mpr fun huser => ?_
  rw [DB.insertScrapeLog, if_pos huser, Option.map_eq_none_iff] at h
  obtain ⟨k, hk, hclash⟩ := Table.insert_eq_none h
  rcases hclash with hsame | ⟨hsame, hsome⟩
  · exact hid (hsame ▸ hreg k hk)
  · obtain ⟨key, hkey'⟩ := Option.isSome_iff_exists.mp hsome
    exact hkey key (hsame ▸ hkey') (hkeys k hk key hkey')

theorem awaits_step {o : Outcome} {w w' : World} {t t' : Task} {jobs : List ScrapeJob}
    (h : runTask env o w t = some (w', t', jobs)) (ht : Awaits uid t)
    (hsql : t = .scrape ⟨uid, 0, true, true, none⟩ .insertLog → o.sqlFails = false)
    (hreg : ∀ l ∈ w.db.scrapeLogs, l.id ∈ w.drawn)
    (hkeys : ∀ l ∈ w.db.scrapeLogs, ∀ key, l.scrapeKey = some key → key ∈ w.drawn) :
    Awaits uid t' ∨ w'.db.hasUser uid = false ∨
      ∃ id key, w'.trace.attempts =
        ⟨ScrapeJob.newLog ⟨uid, 0, true, true, none⟩ id key (unix w.now), none⟩ :: w.trace.attempts := by
  cases ht with
  | acquire =>
    obtain ⟨⟨w₁, job', pc'⟩, hr, heq⟩ := Option.map_eq_some_iff.mp h
    cases heq
    cases scrapeForUser_cases hr with
    | acquire => exact .inl .insertLog
  | insertLog =>
    obtain ⟨⟨w₁, job', pc'⟩, hr, heq⟩ := Option.map_eq_some_iff.mp h
    cases heq
    cases scrapeForUser_cases hr with
    | insertFailed hid hkey hne hexec =>
      rw [exec_executed (hsql rfl)] at hexec
      refine .inr (.inl (hasUser_of_insertScrapeLog (w := w) hreg hkeys hid ?_ hexec))
      rintro key ⟨⟩
      exact hkey
    | inserted => exact .inr (.inr ⟨_, _, rfl⟩)

theorem served_keeps (hok : s.inserts a = true) (hreg : s.Registered) (hs : s.Served n uid)
    (h : s.step env a = some s') : s'.Served n uid := by
  refine ⟨hs.past.trans (clock_step h), drawn_step h hs.drawn, ?_⟩
  rcases hs.served with hattempted | hgone | ⟨t, ht, hawaits⟩
  · exact .inl (attempted_step h hattempted)
  · exact .inr (.inl (hasUser_false_step h hs.drawn hgone))
  · cases a with
    | run i o =>
      obtain ⟨t₀, w, t', jobs, ht₀, hrun, rfl⟩ := step_run h
      rcases mem_pooled_of_mem ht₀ ht t' (jobs.map ScrapeJob.task) with rfl | hkept
      · have hsql : t = .scrape ⟨uid, 0, true, true, none⟩ .insertLog → o.sqlFails = false := by
          rintro rfl
          simpa [inserts, ht₀] using hok
        rcases awaits_step hrun hawaits hsql hreg.logs hreg.keys with hstill | hgone | ⟨id, key, hatt⟩
        · exact .inr (.inr ⟨t', mem_pooled_self ht₀, hstill⟩)
        · exact .inr (.inl hgone)
        · have hle : unix n ≤ unix s.now := unix_mono hs.past
          refine .inl ⟨⟨ScrapeJob.newLog ⟨uid, 0, true, true, none⟩ id key (unix s.now), none⟩, ?_, rfl, rfl,
            rfl, rfl, hle⟩
          change _ ∈ w.trace.attempts
          rw [hatt]
          exact List.mem_cons_self
      · exact .inr (.inr ⟨t, hkept, hawaits⟩)
    | schedule o =>
      obtain ⟨_, _, _, _, rfl⟩ := step_schedule h
      exact .inr (.inr ⟨t, List.mem_append_left _ ht, hawaits⟩)
    | arrive r =>
      cases h
      exact .inr (.inr ⟨t, List.mem_append_left _ ht, hawaits⟩)
    | _ =>
      cases h
      exact .inr (.inr ⟨t, ht, hawaits⟩)

theorem served_select {db : DB} (hreg : s.Registered) (hselect : s.dueSelect a = some (n, db))
    (hdue : uid ∈ db.dueUsers (unix n)) (huser : db.hasUser uid = true) (h : s.step env a = some s') :
    s'.Served n uid := by
  cases a with
  | schedule o =>
    simp only [dueSelect] at hselect
    split_ifs at hselect with hat
    cases hselect
    obtain ⟨hsch, hsql⟩ := hat
    obtain ⟨w, sch, jobs, hrun, rfl⟩ := step_schedule h
    rw [hsch] at hrun
    simp only [runScheduler, hsql] at hrun
    cases hrun
    obtain ⟨u, hu, rfl⟩ := DB.hasUser_iff.mp huser
    refine ⟨le_rfl, hreg.users u hu, .inr (.inr ⟨_, ?_, .acquire⟩)⟩
    refine List.mem_append_right _ (List.mem_map.mpr ⟨_, List.mem_map.mpr ⟨u.id, hdue, rfl⟩, rfl⟩)
  | _ => cases hselect

def Waits (s : Server) : Prop := (∃ t ∈ s.tasks, t.waitedFor = false) → s.scheduler = .waitScrapes

theorem runTask_waitedFor {o : Outcome} {w w' : World} {t t' : Task} {jobs : List ScrapeJob}
    (h : runTask env o w t = some (w', t', jobs)) :
    (t'.waitedFor = false → t.waitedFor = false) ∧ ∀ job ∈ jobs, job.task.waitedFor = true := by
  cases runTask_cases h with
  | scrape hr =>
    refine ⟨?_, by simp⟩
    intro hwaits
    cases scrapeForUser_cases hr <;> simp_all [Task.waitedFor, ScrapeJob.retryOf]
  | submitFailure hr =>
    refine ⟨fun hwaits => hwaits, ?_⟩
    cases scrapeSubmitFailure_cases hr with
    | retried hretry =>
      obtain ⟨l, _, _, _, rfl⟩ := handleScrapeFailure_some hretry
      simp [ScrapeJob.task, Task.waitedFor]
    | _ => simp
  | writeCredentials hr =>
    refine ⟨fun hwaits => hwaits, ?_⟩
    cases writeCredentials_cases hr <;> simp [ScrapeJob.task, Task.waitedFor]
  | @begun token req u t jobs hb =>
    cases req with
    | triggerScrape userID =>
      simp only [AuthedRequest.begin] at hb
      split_ifs at hb
      · cases hb
        exact ⟨fun hwaits => hwaits, by simp⟩
      · cases userID with
        | error _ =>
          cases hb
          exact ⟨fun hwaits => hwaits, by simp⟩
        | ok id =>
          cases hb
          exact ⟨fun hwaits => hwaits, by simp [ScrapeJob.task, Task.waitedFor]⟩
    | _ =>
      cases hb
      exact ⟨fun hwaits => hwaits, by simp⟩
  | _ => exact ⟨fun hwaits => hwaits, by simp⟩

theorem waits_step (hs : s.Waits) (h : s.step env a = some s') : s'.Waits := by
  rintro ⟨t, ht, hwaits⟩
  cases a with
  | run i o =>
    obtain ⟨t₀, w, t', jobs, ht₀, hrun, rfl⟩ := step_run h
    obtain ⟨hself, hspawned⟩ := runTask_waitedFor hrun
    rcases mem_pooled ht with hold | rfl | hnew
    · exact hs ⟨t, hold, hwaits⟩
    · exact hs ⟨t₀, mem_of_getElem?_pool ht₀, hself hwaits⟩
    · obtain ⟨job, hjob, rfl⟩ := List.mem_map.mp hnew
      rw [hspawned job hjob] at hwaits
      cases hwaits
  | schedule o =>
    obtain ⟨w, sch, jobs, hrun, rfl⟩ := step_schedule h
    change sch = .waitScrapes
    rcases List.mem_append.mp ht with hold | hnew
    · have hsch := hs ⟨t, hold, hwaits⟩
      have hnot : s.tasks.all Task.waitedFor = false :=
        List.all_eq_false.mpr ⟨t, hold, by simp [hwaits]⟩
      rw [hsch, hnot] at hrun
      cases hrun
    · obtain ⟨job, hjob, rfl⟩ := List.mem_map.mp hnew
      generalize s.scheduler = sch₀ at hrun
      cases runScheduler_cases hrun with
      | due => rfl
      | reapRetry hretry =>
        obtain ⟨l, _, _, _, rfl⟩ := handleScrapeFailure_some hretry
        rw [List.mem_singleton.mp hjob] at hwaits
        cases hwaits
      | _ => cases hjob
  | arrive r =>
    cases h
    rcases List.mem_append.mp ht with hold | hnew
    · exact hs ⟨t, hold, hwaits⟩
    · rw [List.mem_singleton.mp hnew] at hwaits
      cases r <;> cases hwaits
  | _ =>
    cases h
    exact hs ⟨t, ht, hwaits⟩

theorem waits_of_reaches {ok : Server → Action → Bool} (h : Reaches (step env) ok (boot db start) s) :
    s.Waits := by
  refine h.invariant ?_ fun _ _ _ _ hs ha => waits_step hs ha
  rintro ⟨t, ht, _⟩
  cases ht

/-- Once the poll has gone past its WaitGroup, each user it found due has a first attempt
or no account any more. -/
theorem none_passed_over {record : List (Int × DB)}
    (h : Reaches (recorded (step env) dueSelect) (fun p => inserts p.1) (boot db start, []) (s, record))
    {db₁ : DB} (hn : (n, db₁) ∈ record) (hpast : s.scheduler ≠ .waitScrapes)
    (hdue : uid ∈ db₁.dueUsers (unix n)) (huser : db₁.hasUser uid = true)
    (hstill : s.db.hasUser uid = true) : s.Attempted n uid := by
  have hserved : s.Registered ∧ ∀ p ∈ record, ∀ uid ∈ p.2.dueUsers (unix p.1), p.2.hasUser uid = true →
      s.Served p.1 uid := by
    refine h.invariant_recorded (I := fun s record => s.Registered ∧ ∀ p ∈ record,
      ∀ uid ∈ p.2.dueUsers (unix p.1), p.2.hasUser uid = true → s.Served p.1 uid)
      ⟨registered_boot, by simp⟩ ?_
    intro s record a s' hok hs ha
    refine ⟨registered_step hs.1 ha, ?_⟩
    intro p hp uid hdue huser
    cases List.mem_append.mp hp with
    | inl hnew => exact served_select hs.1 (Option.mem_toList.mp hnew) hdue huser ha
    | inr hold => exact served_keeps hok hs.1 (hs.2 p hold uid hdue huser) ha
  rcases (hserved.2 _ hn uid hdue huser).served with hattempted | hgone | ⟨t, ht, hawaits⟩
  · exact hattempted
  · rw [hgone] at hstill
    cases hstill
  · have hreach : Reaches (step env) inserts (boot db start) s := reaches_of_recorded h
    have hwaits := waits_of_reaches hreach
    exact absurd (hwaits ⟨t, ht, by cases hawaits <;> rfl⟩) hpast

def polledTwice : Server × List (Int × DB) :=
  after (recorded (step sampleEnv) dueSelect) (fun p => inserts p.1) (boot sampleDB 0, []) hungScrape

theorem none_passed_over_twice : polledTwice.1.Attempted (121 * 1000000000) "u1" := by
  have hrun : Reaches (recorded (step sampleEnv) dueSelect) (fun p => inserts p.1)
      (boot sampleDB 0, []) (polledTwice.1, polledTwice.2) := reaches_recorded_after (by decide +kernel)
  obtain ⟨db₁, hlast, hdue, huser⟩ : ∃ db₁ : DB, polledTwice.2.head? = some (121 * 1000000000, db₁) ∧
      "u1" ∈ db₁.dueUsers (unix (121 * 1000000000)) ∧ db₁.hasUser "u1" = true :=
    ⟨_, rfl, by decide +kernel, by decide +kernel⟩
  exact none_passed_over hrun (List.mem_of_head? hlast) (by decide +kernel) hdue huser (by decide +kernel)

/-! A poll on its own. -/

/-- No statement of the work fails. -/
def faultless (_ : Server) (p : List Action × Action) : Bool := !fails p.2

theorem Swept.earlier {m : Int} (h : s.Swept m) (hle : n ≤ m) : s.Swept n := by
  refine ⟨hle.trans h.past, ?_⟩
  intro l hl hrunning hold
  have hle' : unix (n - scrapeTimeout) ≤ unix (m - scrapeTimeout) := unix_mono (by omega)
  exact h.listed l hl hrunning (by omega)

/-- The poll whose SELECT at `n` read `db₁` is under way, or over. -/
structure Polling (n : Int) (db₁ : DB) (s : Server) : Prop where
  registered : s.Registered
  waits : s.Waits
  past : n ≤ s.now
  served : ∀ uid ∈ db₁.dueUsers (unix n), db₁.hasUser uid = true → s.Served n uid
  reaper : s.scheduler = .waitScrapes ∨ s.scheduler = .stale ∨ s.Swept n

theorem polling_step {db₁ : DB} (hok : fails a = false) (hs : s.Polling n db₁)
    (h : s.step env a = some s') : s'.Polling n db₁ := by
  have hinserts : s.inserts a = true := by
    cases a with
    | run i o =>
      have hsql : o.sqlFails = false := hok
      simp only [inserts, hsql]
      split <;> rfl
    | _ => rfl
  have hmarks : s.marks a = true := by
    cases a with
    | schedule o =>
      have hsql : o.sqlFails = false := hok
      simp only [marks, hsql]
      split <;> rfl
    | _ => rfl
  refine ⟨registered_step hs.registered h, waits_step hs.waits h, hs.past.trans (clock_step h), ?_, ?_⟩
  · intro uid hdue huser
    exact served_keeps hinserts hs.registered (hs.served uid hdue huser) h
  · rcases hs.reaper with hsch | hsch | hswept
    · cases a with
      | schedule o =>
        obtain ⟨w, sch, jobs, hrun, rfl⟩ := step_schedule h
        rw [hsch] at hrun
        cases runScheduler_cases hrun
        exact .inr (.inl rfl)
      | run i o =>
        obtain ⟨_, _, _, _, _, _, rfl⟩ := step_run h
        exact .inl hsch
      | _ =>
        cases h
        exact .inl hsch
    · cases a with
      | schedule o =>
        have hselect : s.staleSelect (.schedule o) = some s.now := if_pos ⟨hsch, hok⟩
        exact .inr (.inr ((swept_select hselect h).earlier hs.past))
      | run i o =>
        obtain ⟨_, _, _, _, _, _, rfl⟩ := step_run h
        exact .inr (.inl hsch)
      | _ =>
        cases h
        exact .inr (.inl hsch)
    · exact .inr (.inr (swept_step hmarks hswept h))

theorem polling_workStep {db₁ : DB} {p : List Action × Action} (hok : s.faultless p = true)
    (hs : s.Polling n db₁) (h : s.workStep env p = some s') : s'.Polling n db₁ := by
  obtain ⟨t, hwait, _, hstep⟩ := workStep_eq_some h
  have ht : t.Polling n db₁ := by
    refine hwait.invariant hs ?_
    intro u b u' hb hu hstep
    have hfault : fails b = false := by cases b <;> first | rfl | cases hb
    exact polling_step hfault hu hstep
  exact polling_step (by simpa [faultless] using hok) ht hstep

/-- What a poll has done when nothing is left of it. -/
structure Polled (n : Int) (db₁ : DB) (s : Server) : Prop where
  resting : s.Resting
  attempted : ∀ uid ∈ db₁.dueUsers (unix n), db₁.hasUser uid = true → s.db.hasUser uid = true →
    s.Attempted n uid
  reaped : ∀ l ∈ s.db.scrapeLogs, l.status = .running → unix (n - scrapeTimeout) ≤ l.startedAt

/-- A poll that finds its due users gets to its end, whatever goroutines are under way: by
then each of them has a first attempt, and no scrape runs that was overdue. -/
theorem poll_completes {db₁ : DB} (h : Reaches (step env) anyStep (boot db start) s)
    (hselect : s.dueSelect a = some (n, db₁)) (hstep : s.step env a = some s') :
    Inevitable (workStep env) faultless (Polled n db₁) s' := by
  have hreach : Reaches (step env) anyStep (boot db start) s' := h.tail ⟨a, rfl, hstep⟩
  have hreg : s.Registered := registered_of_reaches h
  obtain ⟨hpast, hwaiting⟩ : n = s.now ∧ s'.scheduler = .waitScrapes := by
    cases a with
    | schedule o =>
      simp only [dueSelect] at hselect
      split_ifs at hselect with hat
      cases hselect
      obtain ⟨w, sch, jobs, hrun, rfl⟩ := step_schedule hstep
      rw [hat.1] at hrun
      simp only [runScheduler, hat.2] at hrun
      cases hrun
      exact ⟨rfl, rfl⟩
    | _ => cases hselect
  have hpolling : s'.Polling n db₁ := by
    refine ⟨registered_step hreg hstep, waits_of_reaches hreach, ?_, ?_, .inl hwaiting⟩
    · rw [hpast]
      exact clock_step hstep
    · intro uid hdue huser
      exact served_select hreg hselect hdue huser hstep
  have hrest : Inevitable (workStep env) faultless Resting s' :=
    inevitable_rest (fun _ p hp => by simp [faultless, hp]) (permits_of_reaches hreach)
  refine (hrest.and_invariant hpolling fun _ _ _ hok hs ha => polling_workStep hok hs ha).mono ?_
  rintro t ⟨hresting, hs⟩
  refine ⟨hresting, ?_, ?_⟩
  · intro uid hdue huser hstill
    rcases (hs.served uid hdue huser).served with hattempted | hgone | ⟨u, hu, hawaits⟩
    · exact hattempted
    · rw [hgone] at hstill
      cases hstill
    · have hover := hresting.tasks u hu
      cases hawaits <;> cases hover
  · intro l hl hrunning
    rcases hs.reaper with hsch | hsch | hswept
    · cases hsch.symm.trans hresting.scheduler
    · cases hsch.symm.trans hresting.scheduler
    · by_contra hlt
      have hlisted := hswept.listed l hl hrunning (by omega)
      rw [hresting.scheduler] at hlisted
      cases hlisted

def beforePoll : Server :=
  after (step sampleEnv) anyStep (boot sampleDB 0) (firstPoll ++ launch 0 "log1" "key1" "c1" ++ polls 3 ++
    [.advance (121 * 1000000000)] ++ polls 1)

theorem poll_completes_next :
    Inevitable (workStep sampleEnv) faultless (Polled (121 * 1000000000) beforePoll.db)
      (after (step sampleEnv) anyStep beforePoll (polls 1)) := by
  have hrun : Reaches (step sampleEnv) anyStep (boot sampleDB 0) beforePoll :=
    reaches_after (by decide +kernel)
  exact poll_completes (a := .schedule uneventful) hrun rfl rfl

end Server
end ScheduleSync
