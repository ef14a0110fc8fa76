import ScheduleSync.Ingestion
import ScheduleSync.Writes

/-! The rows of scrape_logs. Five writers change them without a lock; what each of them
writes keeps the row terminal when it is finished, its retries bounded and its counts in
order, whatever the others have written before. -/
namespace ScheduleSync

/-- What retention, the reaper and the retry decision take for granted. -/
structure ScrapeLog.WellFormed (l : ScrapeLog) : Prop where
  status : l.status = .running ∨ l.status = .success ∨ l.status = .failure
  finished : l.finishedAt = none ↔ l.status = .running
  keyed : l.scrapeKey ≠ none
  retries : l.retryCount ≤ maxRetries
  automatic : 0 < l.retryCount → l.isAuto = 1
  counts : (l.shiftsFound = none ∧ l.shiftsNew = none) ∨
    ∃ found new, l.shiftsFound = some found ∧ l.shiftsNew = some new ∧ new ≤ found

def Verdict.Counted : Verdict → Prop
  | .reportedShifts found new => new ≤ found
  | _ => True

theorem ScrapeLog.WellFormed.finish {l : ScrapeLog} (h : l.WellFormed) {v : Verdict} (hv : v.Counted)
    (now : Int) : (l.finish v now).WellFormed := by
  cases v with
  | reportedShifts found new =>
    exact ⟨.inr (.inl rfl), by simp [ScrapeLog.finish], h.keyed, h.retries, h.automatic,
      .inr ⟨found, new, rfl, rfl, hv⟩⟩
  | _ =>
    exact ⟨.inr (.inr rfl), by simp [ScrapeLog.finish], h.keyed, h.retries, h.automatic, h.counts⟩

/-- An attempt within the retries allowed; only automatic ones are retried. -/
structure ScrapeJob.Bounded (job : ScrapeJob) : Prop where
  retries : job.retryCount ≤ maxRetries
  automatic : 0 < job.retryCount → job.isAuto = true

theorem ScrapeJob.bounded_first {job : ScrapeJob} (h : job.retryCount = 0) : job.Bounded :=
  ⟨by omega, by omega⟩

theorem ScrapeJob.Bounded.newLog {job : ScrapeJob} (h : job.Bounded) (id key : Uuid) (now : Int) :
    (job.newLog id key now).WellFormed where
  status := .inl rfl
  finished := by simp [ScrapeJob.newLog]
  keyed := by simp [ScrapeJob.newLog]
  retries := h.retries
  automatic hpos := by simp [ScrapeJob.newLog, boolToInt, h.automatic hpos]
  counts := .inl ⟨rfl, rfl⟩

def Write.Sound : Write → Prop
  | .insertScrapeLog l => l.WellFormed
  | .finishScrapeLog _ v _ => v.Counted
  | _ => True

theorem Write.Done.wellFormed {db db' : DB} {x : Write} (h : x.Done db db') (hx : x.Sound)
    (hdb : ∀ l ∈ db.scrapeLogs, l.WellFormed) : ∀ l ∈ db'.scrapeLogs, l.WellFormed := by
  intro l hl
  cases h.scrapeLogs hl with
  | inl hold =>
    obtain ⟨l₀, hl₀, rfl⟩ := hold
    have hwf := hdb l₀ hl₀
    obtain ⟨v, now, rfl, hedit⟩ | ⟨_, _, _, hedit⟩ := x.edit_cases l₀
    · rw [hedit]
      exact hwf.finish hx now
    · rw [hedit]
      exact ⟨hwf.status, hwf.finished, hwf.keyed, hwf.retries, hwf.automatic, hwf.counts⟩
  | inr heq =>
    rw [heq] at hx
    exact hx

/-! What the tasks carry from one statement to the next. -/

def SubmitShiftsPc.Sound : SubmitShiftsPc → Prop
  | .count i => i.newCount + i.rest.length ≤ i.found
  | .insert i _ _ _ _ => i.newCount + i.rest.length < i.found
  | _ => True

def Task.Sound : Task → Prop
  | .scrape job _ => job.Bounded
  | .submitShifts _ pc => pc.Sound
  | _ => True

section Steps
variable {env : Env} {o : Outcome} {w w' : World}

theorem handleScrapeFailure_bounded {logID userID : Uuid} {job : ScrapeJob}
    (h : handleScrapeFailure o w logID userID = some job) : job.Bounded := by
  obtain ⟨l, _, _, hcount, rfl⟩ := handleScrapeFailure_some h
  exact ⟨hcount, fun _ => rfl⟩

theorem scrapeForUser_bounded {job job' : ScrapeJob} {pc pc' : ScrapePc}
    (h : scrapeForUser env o w job pc = some (w', job', pc')) (hjob : job.Bounded) :
    job'.Bounded := by
  cases scrapeForUser_cases h with
  | retried _ hcount => exact ⟨hcount, fun _ => rfl⟩
  | _ => exact hjob

theorem scrapeSubmitShifts_sound {key : String} {pc pc' : SubmitShiftsPc}
    (h : scrapeSubmitShifts env o w key pc = some (w', pc')) (hpc : pc.Sound) : pc'.Sound := by
  cases scrapeSubmitShifts_cases h with
  | readTimezone => simp [SubmitShiftsPc.Sound]
  | skipped hrest =>
    simp only [SubmitShiftsPc.Sound, hrest, List.length_cons] at hpc ⊢
    omega
  | counted hrest =>
    simp only [SubmitShiftsPc.Sound, hrest, List.length_cons] at hpc ⊢
    omega
  | insertFailed => exact Nat.le_of_lt hpc
  | inserted =>
    simp only [SubmitShiftsPc.Sound] at hpc ⊢
    split <;> omega
  | _ => trivial

theorem scrapeSubmitFailure_bounded {key : String} {pc pc' : SubmitFailurePc} {jobs : List ScrapeJob}
    (h : scrapeSubmitFailure o w key pc = some (w', pc', jobs)) : ∀ job ∈ jobs, job.Bounded := by
  cases scrapeSubmitFailure_cases h with
  | retried hretry => simpa using handleScrapeFailure_bounded hretry
  | _ => simp

theorem writeCredentials_first {userID : Uuid} {pc pc' : WriteCredentialsPc} {jobs : List ScrapeJob}
    (h : writeCredentials env o w userID pc = some (w', pc', jobs)) :
    ∀ job ∈ jobs, job.retryCount = 0 := by
  cases writeCredentials_cases h <;> simp

theorem begin_first {u : User} {req : AuthedRequest} {t : Task} {jobs : List ScrapeJob}
    (h : req.begin u = (t, jobs)) : ∀ job ∈ jobs, job.retryCount = 0 := by
  cases req with
  | triggerScrape userID =>
    simp only [AuthedRequest.begin] at h
    split at h
    · cases h
      simp
    · split at h <;> cases h <;> simp
  | _ =>
    cases h
    simp

theorem runTask_sound {t t' : Task} {jobs : List ScrapeJob}
    (h : runTask env o w t = some (w', t', jobs)) (ht : t.Sound) :
    t'.Sound ∧ ∀ job ∈ jobs, job.Bounded := by
  have hfirst : (∀ job ∈ jobs, job.retryCount = 0) → ∀ job ∈ jobs, job.Bounded :=
    fun hzero job hjob => ScrapeJob.bounded_first (hzero job hjob)
  cases runTask_cases h with
  | submitShifts hr => exact ⟨scrapeSubmitShifts_sound hr ht, by simp⟩
  | submitFailure hr => exact ⟨trivial, scrapeSubmitFailure_bounded hr⟩
  | scrape hr => exact ⟨scrapeForUser_bounded hr ht, by simp⟩
  | begun hb =>
    refine ⟨?_, hfirst (begin_first hb)⟩
    cases AuthedRequest.begin_cases hb <;> trivial
  | writeCredentials hr => exact ⟨trivial, hfirst (writeCredentials_first hr)⟩
  | _ => exact ⟨trivial, by simp⟩

theorem runScheduler_bounded {waited : Bool} {sch sch' : Scheduler} {jobs : List ScrapeJob}
    (h : runScheduler o w waited sch = some (w', sch', jobs)) : ∀ job ∈ jobs, job.Bounded := by
  cases runScheduler_cases h with
  | due =>
    intro job hjob
    obtain ⟨uid, _, rfl⟩ := List.mem_map.mp hjob
    exact ScrapeJob.bounded_first rfl
  | reapRetry hretry => simpa using handleScrapeFailure_bounded hretry
  | _ => simp

theorem write_sound {t : Task} (ht : t.Sound) {x : Write} (hx : t.write env o w = some x) :
    x.Sound := by
  cases Task.writes_of_write hx with
  | insertLog => exact ht.newLog _ _ _
  | @reportShifts _ i =>
    have hcount : i.newCount + i.rest.length ≤ i.found := ht
    exact (Nat.le_add_right _ _).trans hcount
  | _ => trivial

theorem scheduler_write_sound {sch : Scheduler} {x : Write} (hx : sch.write o w = some x) :
    x.Sound := by
  cases Scheduler.writes_of_write hx <;> trivial

end Steps

namespace Server
variable {env : Env} {s s' : Server} {a : Action}

structure LogsSound (s : Server) : Prop where
  rows : ∀ l ∈ s.db.scrapeLogs, l.WellFormed
  tasks : ∀ t ∈ s.tasks, t.Sound

theorem sound_of_jobs {jobs : List ScrapeJob} (h : ∀ job ∈ jobs, job.Bounded) :
    ∀ t ∈ jobs.map ScrapeJob.task, t.Sound := by
  intro t ht
  obtain ⟨job, hjob, rfl⟩ := List.mem_map.mp ht
  exact h job hjob

theorem rows_sound_step (hs : s.LogsSound) (h : s.step env a = some s') :
    ∀ l ∈ s'.db.scrapeLogs, l.WellFormed := by
  refine db_step h (P := fun db => ∀ l ∈ db.scrapeLogs, l.WellFormed) hs.rows ?_
  intro x hwr hdone _
  refine hdone.wellFormed ?_ hs.rows
  cases a with
  | run i o =>
    obtain ⟨t, ht, hx⟩ := Option.bind_eq_some_iff.mp hwr
    exact write_sound (hs.tasks t (mem_of_getElem?_pool ht)) hx
  | schedule o => exact scheduler_write_sound hwr
  | _ => cases hwr

theorem tasks_sound_step (hs : s.LogsSound) (h : s.step env a = some s') :
    ∀ t ∈ s'.tasks, t.Sound := by
  cases a with
  | run i o =>
    obtain ⟨t, w, t', jobs, ht, hrun, rfl⟩ := step_run h
    obtain ⟨ht', hjobs⟩ := runTask_sound hrun (hs.tasks t (mem_of_getElem?_pool ht))
    exact forall_pooled hs.tasks ht' (sound_of_jobs hjobs)
  | schedule o =>
    obtain ⟨w, sch, jobs, hrun, rfl⟩ := step_schedule h
    intro t ht
    cases List.mem_append.mp ht with
    | inl hold => exact hs.tasks t hold
    | inr hnew => exact sound_of_jobs (runScheduler_bounded hrun) t hnew
  | arrive r =>
    cases h
    intro t ht
    cases List.mem_append.mp ht with
    | inl hold => exact hs.tasks t hold
    | inr hnew =>
      rw [List.mem_singleton.mp hnew]
      cases r <;> trivial
  | _ =>
    cases h
    exact hs.tasks

theorem logsSound_step (hs : s.LogsSound) (h : s.step env a = some s') : s'.LogsSound :=
  ⟨rows_sound_step hs h, tasks_sound_step hs h⟩

/-- Every row of scrape_logs, in every order of the statements of all writers. -/
theorem log_rows_wellFormed {start : Int} (h : Reaches (step env) anyStep (boot .empty start) s) :
    (∀ l ∈ s.db.scrapeLogs, l.WellFormed) ∧
      ∀ l ∈ s.db.scrapeLogs, ∀ l' ∈ s.db.scrapeLogs, l.scrapeKey = l'.scrapeKey → l = l' := by
  have hsound : s.LogsSound := by
    refine h.invariant ⟨?_, ?_⟩ fun _ _ _ _ hs ha => logsSound_step hs ha
    · intro l hl
      cases hl
    · intro t ht
      cases ht
  refine ⟨hsound.rows, ?_⟩
  intro l hl l' hl' hkey
  have hkeyed := (hsound.rows l hl).keyed
  exact Table.eq_of_clash hl hl' (.inr ⟨hkey, Option.isSome_iff_ne_none.mpr hkeyed⟩)

def firstSync (token : String) : List Action :=
  .arrive (.requestPin "a@x.com") :: List.replicate 2 (.run 0 {}) ++
    [.run 0 { uuid := "u1", token := token }, .run 0 {}, .run 0 {},
      .arrive (.verifyPin "a@x.com" "000000"), .run 1 {}, .run 1 {}, .run 1 { uuid := "s1", token := "tok" },
      .arrive (.authed "tok" (.writeCredentials (.ok sampleInput)))] ++
    List.replicate 7 (.run 2 {}) ++
    upload 3 "log1" "key1" "c1" (sampleShift "2026-03-08T09:00:00" "2026-03-08T13:00:00") ++
    ingest 4 "sh1"

def firstToken : String := String.ofList (List.replicate 64 '0')

def syncedOnce : Server :=
  after (step sampleEnv) anyStep (boot .empty 0) (firstSync firstToken)

theorem log_rows_wellFormed_synced : syncedOnce.db.scrapeLogs.rows.length = 1 ∧
    ∀ l ∈ syncedOnce.db.scrapeLogs, l.WellFormed :=
  ⟨by decide +kernel, (log_rows_wellFormed (reaches_after (by decide +kernel))).1⟩

end Server
end ScheduleSync
