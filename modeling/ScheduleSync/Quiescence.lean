import Mathlib.Data.Prod.Lex
import ScheduleSync.ConcurrencyCap
import ScheduleSync.Inevitable
import ScheduleSync.Saves
import ScheduleSync.Writes

/-! The service comes to rest. Every task has a bounded amount of work ahead of it, the
goroutines it will start included, and as long as one of them is unfinished one can make
a step: a scrape that waits for the semaphore waits for scrapes that do not wait. -/
namespace ScheduleSync

def ScrapeJob.retriesLeft (job : ScrapeJob) : Nat := if job.isAuto then maxRetries - job.retryCount else 0

def ScrapePc.remaining (retries : Nat) : ScrapePc → Nat
  | .acquire => 7 * retries + 10
  | .insertLog => 7 * retries + 9
  | .readTimezone _ _ => 7 * retries + 8
  | .pullImage _ _ _ => 7 * retries + 7
  | .createContainer _ _ _ => 7 * retries + 6
  | .saveContainerID _ _ => 7 * retries + 5
  | .startContainer _ _ => 7 * retries + 4
  | .markFailed _ _ => 7 * retries + 3
  | .scheduleNext _ => 2
  | .release => 1
  | .done => 0

def scrapeWork : Nat := 7 * maxRetries + 10

def GetCredentialsPc.remaining : GetCredentialsPc → Nat
  | .lookup => 4
  | .loadDEK _ => 3
  | .loadRow _ _ => 2
  | .markFetched _ => 1
  | .answered _ => 0

def SubmitShiftsPc.remaining : SubmitShiftsPc → Nat
  | .lookup (.error _) => 1
  | .lookup (.ok shifts) => 2 * shifts.length + 4
  | .readTimezone _ _ shifts => 2 * shifts.length + 3
  | .count i => 2 * i.rest.length + 2
  | .insert i _ _ _ _ => 2 * i.rest.length + 3
  | .scheduleNext _ _ _ => 1
  | .answered _ => 0

def SubmitFailurePc.remaining : SubmitFailurePc → Nat
  | .lookup _ => scrapeWork + 3
  | .markFailed _ _ _ => scrapeWork + 2
  | .handleFailure _ _ => scrapeWork + 1
  | .scheduleNext _ _ => 1
  | .answered _ => 0

def FindUserPc.remaining : FindUserPc → Nat
  | .select => 3
  | .insert => 2
  | .reload => 1

def RequestPinPc.remaining : RequestPinPc → Nat
  | .store => 5
  | .find _ pc => pc.remaining + 1
  | .mail _ => 1
  | .answered _ => 0

def VerifyPinPc.remaining : VerifyPinPc → Nat
  | .verify => 5
  | .find pc => pc.remaining + 1
  | .createSession _ => 1
  | .answered _ => 0

def WriteCredentialsPc.remaining : WriteCredentialsPc → Nat
  | .credentialLimit _ => scrapeWork + 6
  | .scrapeLimit _ => scrapeWork + 5
  | .selectDEK _ => scrapeWork + 4
  | .insertDEK _ => scrapeWork + 3
  | .upsert _ _ => scrapeWork + 2
  | .schedule _ => scrapeWork + 1
  | .answered _ => 0

/-- Steps to the end of the task and of the goroutines it starts, at most. -/
def Task.remaining : Task → Nat
  | .getCredentials _ pc => pc.remaining
  | .submitShifts _ pc => pc.remaining
  | .submitFailure _ pc => pc.remaining
  | .scrape job pc => pc.remaining job.retriesLeft
  | .requestPin _ pc => pc.remaining
  | .verifyPin _ _ pc => pc.remaining
  | .logout _ => 1
  | .authed _ _ => scrapeWork + 7
  | .writeCredentials _ pc => pc.remaining
  | .deleteAccount _ => 1
  | .updateTimezone _ _ => 1
  | .finished _ => 0

theorem FindUserPc.remaining_pos (pc : FindUserPc) : 0 < pc.remaining := by cases pc <;> exact Nat.succ_pos _

theorem SubmitShiftsPc.remaining_lookup_pos (body : Except String (List CallbackShift)) :
    0 < (SubmitShiftsPc.lookup body).remaining := by
  cases body <;> exact Nat.succ_pos _

theorem ScrapeJob.remaining_task_le (job : ScrapeJob) : job.task.remaining ≤ scrapeWork := by
  simp only [task, Task.remaining, ScrapePc.remaining, retriesLeft, scrapeWork]
  split <;> omega

theorem ScrapeJob.retriesLeft_retryOf {job : ScrapeJob} (hauto : job.isAuto = true)
    (hcount : job.retryCount < maxRetries) (logID : Uuid) :
    (job.retryOf logID).retriesLeft + 1 = job.retriesLeft := by
  simp only [retriesLeft, retryOf, hauto, if_true]
  omega

theorem tally_spawned_le (jobs : List ScrapeJob) :
    tally Task.remaining (jobs.map ScrapeJob.task) ≤ scrapeWork * jobs.length := by
  induction jobs with
  | nil => exact Nat.zero_le _
  | cons job jobs ih =>
    have hjob := job.remaining_task_le
    simp only [tally, List.map_cons, List.sum_cons, List.length_cons, Nat.mul_succ] at ih ⊢
    omega

/-! Every step brings the work ahead of its task down, by more than what it starts. -/

section Work
variable {env : Env} {o : Outcome} {w w' : World}

theorem scrapeForUser_remaining {job job' : ScrapeJob} {pc pc' : ScrapePc}
    (h : scrapeForUser env o w job pc = some (w', job', pc')) :
    pc'.remaining job'.retriesLeft < pc.remaining job.retriesLeft := by
  cases scrapeForUser_cases h with
  | @retried logID err hauto hcount =>
    have hless := ScrapeJob.retriesLeft_retryOf hauto hcount logID
    simp only [ScrapePc.remaining]
    omega
  | _ => simp only [ScrapePc.remaining]; omega

theorem findOrCreateUser_remaining {email : String} {pc pc' : FindUserPc}
    (h : findOrCreateUser o w email pc = some (w', .more pc')) : pc'.remaining < pc.remaining := by
  generalize hr : FindUserResult.more pc' = r at h
  cases findOrCreateUser_cases h with
  | unknown | insertFailed | inserted =>
    cases hr
    simp [FindUserPc.remaining]
  | _ => cases hr

theorem scrapeSubmitShifts_remaining {key : String} {pc pc' : SubmitShiftsPc}
    (h : scrapeSubmitShifts env o w key pc = some (w', pc')) : pc'.remaining < pc.remaining := by
  cases scrapeSubmitShifts_cases h with
  | noKey | notFound => exact SubmitShiftsPc.remaining_lookup_pos _
  | finished hrest => simp [SubmitShiftsPc.remaining, hrest]
  | skipped hrest | counted hrest =>
    simp only [SubmitShiftsPc.remaining, hrest, List.length_cons]
    omega
  | _ => simp [SubmitShiftsPc.remaining]

theorem scrapeSubmitFailure_remaining {key : String} {pc pc' : SubmitFailurePc} {jobs : List ScrapeJob}
    (h : scrapeSubmitFailure o w key pc = some (w', pc', jobs)) :
    pc'.remaining + scrapeWork * jobs.length < pc.remaining := by
  cases scrapeSubmitFailure_cases h <;> simp [SubmitFailurePc.remaining, scrapeWork]

theorem requestPin_remaining {email : String} {pc pc' : RequestPinPc}
    (h : requestPin env o w email pc = some (w', pc')) : pc'.remaining < pc.remaining := by
  cases requestPin_cases h with
  | find hfind =>
    have hless := findOrCreateUser_remaining hfind
    exact Nat.succ_lt_succ hless
  | found hfind => exact Nat.succ_lt_succ (FindUserPc.remaining_pos _)
  | _ => simp [RequestPinPc.remaining, FindUserPc.remaining]

theorem verifyPin_remaining {email pin : String} {pc pc' : VerifyPinPc}
    (h : verifyPin env o w email pin pc = some (w', pc')) : pc'.remaining < pc.remaining := by
  cases verifyPin_cases h with
  | find hfind =>
    have hless := findOrCreateUser_remaining hfind
    exact Nat.succ_lt_succ hless
  | found hfind => exact Nat.succ_lt_succ (FindUserPc.remaining_pos _)
  | _ => simp [VerifyPinPc.remaining, FindUserPc.remaining]

theorem writeCredentials_remaining {userID : Uuid} {pc pc' : WriteCredentialsPc} {jobs : List ScrapeJob}
    (h : writeCredentials env o w userID pc = some (w', pc', jobs)) :
    pc'.remaining + scrapeWork * jobs.length < pc.remaining := by
  cases writeCredentials_cases h <;> simp [WriteCredentialsPc.remaining]

theorem AuthedRequest.begin_remaining {u : User} {req : AuthedRequest} {t : Task} {jobs : List ScrapeJob}
    (h : req.begin u = (t, jobs)) : t.remaining + scrapeWork * jobs.length < scrapeWork + 7 := by
  cases req with
  | triggerScrape userID =>
    simp only [AuthedRequest.begin] at h
    split_ifs at h
    · cases h
      simp [Task.remaining]
    · cases userID with
      | error _ =>
        cases h
        simp [Task.remaining]
      | ok id =>
        cases h
        simp [Task.remaining]
  | _ =>
    cases h
    simp [Task.remaining, WriteCredentialsPc.remaining]

theorem runTask_remaining {t t' : Task} {jobs : List ScrapeJob}
    (h : runTask env o w t = some (w', t', jobs)) :
    t'.remaining + tally Task.remaining (jobs.map ScrapeJob.task) < t.remaining := by
  have hspawned := tally_spawned_le jobs
  cases runTask_cases h with
  | getCredentials hr =>
    cases scrapeGetCredentials_cases hr <;> simp [Task.remaining, GetCredentialsPc.remaining]
  | submitShifts hr => exact scrapeSubmitShifts_remaining hr
  | submitFailure hr =>
    have hless := scrapeSubmitFailure_remaining hr
    simp only [Task.remaining]
    omega
  | scrape hr => exact scrapeForUser_remaining hr
  | requestPin hr => exact requestPin_remaining hr
  | verifyPin hr => exact verifyPin_remaining hr
  | logout | deleteAccount | updateTimezone => exact Nat.zero_lt_one
  | refused err => exact Nat.succ_pos _
  | begun hb =>
    have hless := AuthedRequest.begin_remaining hb
    change t'.remaining + _ < scrapeWork + 7
    omega
  | writeCredentials hr =>
    have hless := writeCredentials_remaining hr
    simp only [Task.remaining]
    omega

end Work

/-! The semaphore is taken by those who hold it, and by no one else. -/

def ScrapePc.holds : ScrapePc → Nat
  | .acquire => 0
  | .done => 0
  | _ => 1

def Task.holds : Task → Nat
  | .scrape _ pc => pc.holds
  | _ => 0

section Permits
variable {env : Env} {o : Outcome} {w w' : World}

theorem execDropped_sem (w : World) (o : Outcome) (db : DB) : (w.execDropped o db).sem = w.sem := by
  unfold World.execDropped
  split <;> rfl

theorem scheduleNext_sem (w : World) (o : Outcome) (logID userID : Uuid) :
    (w.scheduleNext o logID userID).sem = w.sem := execDropped_sem w o _

theorem scrapeForUser_sem {job job' : ScrapeJob} {pc pc' : ScrapePc}
    (h : scrapeForUser env o w job pc = some (w', job', pc')) (hheld : pc.holds ≤ w.sem) :
    w'.sem + pc.holds = w.sem + pc'.holds := by
  cases scrapeForUser_cases h with
  | acquire => rfl
  | release =>
    simp only [ScrapePc.holds] at hheld ⊢
    omega
  | saveContainerID | retried | gaveUp => simp only [ScrapePc.holds, execDropped_sem]
  | scheduleNext => simp only [ScrapePc.holds, scheduleNext_sem]
  | _ => rfl

theorem findOrCreateUser_sem {email : String} {pc : FindUserPc} {r : FindUserResult}
    (h : findOrCreateUser o w email pc = some (w', r)) : w'.sem = w.sem := by
  cases findOrCreateUser_cases h <;> rfl

theorem runTask_sem {t t' : Task} {jobs : List ScrapeJob} (h : runTask env o w t = some (w', t', jobs))
    (ht : ∀ job pc, t ≠ .scrape job pc) : w'.sem = w.sem ∧ t.holds = 0 ∧ t'.holds = 0 := by
  cases runTask_cases h with
  | scrape => exact absurd rfl (ht _ _)
  | getCredentials hr =>
    refine ⟨?_, rfl, rfl⟩
    cases scrapeGetCredentials_cases hr with
    | markFetched => exact execDropped_sem w o _
    | _ => rfl
  | submitShifts hr =>
    refine ⟨?_, rfl, rfl⟩
    cases scrapeSubmitShifts_cases hr with
    | finished => exact execDropped_sem w o _
    | scheduleNext => exact scheduleNext_sem w o _ _
    | _ => rfl
  | submitFailure hr =>
    refine ⟨?_, rfl, rfl⟩
    cases scrapeSubmitFailure_cases hr with
    | markFailed => exact execDropped_sem w o _
    | scheduleNext => exact scheduleNext_sem w o _ _
    | _ => rfl
  | requestPin hr =>
    refine ⟨?_, rfl, rfl⟩
    cases requestPin_cases hr with
    | find hfind | found hfind | notFound hfind => exact findOrCreateUser_sem hfind
    | _ => rfl
  | verifyPin hr =>
    refine ⟨?_, rfl, rfl⟩
    cases verifyPin_cases hr with
    | find hfind | found hfind | notFound hfind => exact findOrCreateUser_sem hfind
    | _ => rfl
  | logout =>
    refine ⟨?_, rfl, rfl⟩
    unfold logout
    split
    · rfl
    · exact execDropped_sem w o _
  | refused err => exact ⟨rfl, rfl, rfl⟩
  | begun hb =>
    refine ⟨rfl, rfl, ?_⟩
    cases AuthedRequest.begin_cases hb <;> rfl
  | writeCredentials hr =>
    refine ⟨?_, rfl, rfl⟩
    cases writeCredentials_cases hr <;> rfl
  | deleteAccount =>
    refine ⟨?_, rfl, rfl⟩
    unfold deleteAccount
    split <;> rfl
  | @updateTimezone userID body r =>
    refine ⟨?_, rfl, rfl⟩
    cases body with
    | error msg => rfl
    | ok tz =>
      simp only [updateTimezone]
      split_ifs <;> rfl

theorem runTask_permits {t t' : Task} {jobs : List ScrapeJob} (h : runTask env o w t = some (w', t', jobs))
    (hheld : t.holds ≤ w.sem) : w'.sem + t.holds = w.sem + t'.holds := by
  by_cases hscrape : ∃ job pc, t = .scrape job pc
  · obtain ⟨job, pc, rfl⟩ := hscrape
    obtain ⟨⟨w₁, job', pc'⟩, hr, heq⟩ := Option.map_eq_some_iff.mp h
    cases heq
    exact scrapeForUser_sem hr hheld
  · obtain ⟨hsem, hzero, hzero'⟩ := runTask_sem h fun job pc heq => hscrape ⟨job, pc, heq⟩
    omega

theorem runScheduler_sem {waited : Bool} {sch sch' : Scheduler} {jobs : List ScrapeJob}
    (h : runScheduler o w waited sch = some (w', sch', jobs)) : w'.sem = w.sem := by
  cases runScheduler_cases h with
  | reapMark | retention => exact execDropped_sem w o _
  | reapSchedule => exact scheduleNext_sem w o _ _
  | _ => rfl

end Permits

/-! A task that is not over can make a step, unless it waits for the semaphore. -/

structure Outcome.Unused (w : World) (o : Outcome) : Prop where
  uuid : o.uuid ∉ w.drawn
  key : o.key ∉ w.drawn
  ne : o.uuid ≠ o.key
  containerID : ∀ c ∈ w.containers, c.id ≠ o.containerID

theorem Outcome.exists_unused (w : World) : ∃ o : Outcome, o.Unused w ∧ o.sqlFails = false := by
  obtain ⟨u, hu⟩ := exists_unused_string w.drawn
  obtain ⟨k, hk⟩ := exists_unused_string (u :: w.drawn)
  obtain ⟨c, hc⟩ := exists_unused_string (w.containers.map Container.id)
  rw [List.mem_cons, not_or] at hk
  refine ⟨{ uuid := u, key := k, containerID := c }, ⟨hu, hk.2, fun heq => hk.1 heq.symm, ?_⟩, rfl⟩
  intro x hx heq
  exact hc (List.mem_map.mpr ⟨x, hx, heq⟩)

def Task.over : Task → Bool
  | .getCredentials _ (.answered _) => true
  | .submitShifts _ (.answered _) => true
  | .submitFailure _ (.answered _) => true
  | .scrape _ .done => true
  | .requestPin _ (.answered _) => true
  | .verifyPin _ _ (.answered _) => true
  | .writeCredentials _ (.answered _) => true
  | .finished _ => true
  | _ => false

section Progress
variable {env : Env} {o : Outcome} {w : World} (ho : o.Unused w)
include ho

theorem scrapeForUser_isSome {job : ScrapeJob} {pc : ScrapePc} (hdone : pc ≠ .done)
    (hpermit : pc = .acquire → w.sem < maxConcurrentScrapes) :
    (scrapeForUser env o w job pc).isSome = true := by
  cases pc with
  | acquire => simp [scrapeForUser, hpermit rfl]
  | insertLog =>
    simp only [scrapeForUser, ho.uuid, ho.key, ho.ne, or_self, if_false]
    split <;> rfl
  | createContainer logID key tzName =>
    have hnew : (w.containers.any fun c => c.id == o.containerID) = false := by
      simpa using ho.containerID
    simp only [scrapeForUser, hnew]
    split <;> rfl
  | pullImage | startContainer | markFailed =>
    simp only [scrapeForUser]
    split_ifs <;> rfl
  | done => exact absurd rfl hdone
  | _ => rfl

theorem findOrCreateUser_isSome {email : String} {pc : FindUserPc} :
    (findOrCreateUser o w email pc).isSome = true := by
  cases pc with
  | select =>
    simp only [findOrCreateUser]
    split
    · rfl
    · split <;> rfl
  | insert =>
    simp only [findOrCreateUser, ho.uuid, if_false]
    split
    · rfl
    · split <;> rfl
  | reload =>
    simp only [findOrCreateUser]
    split <;> rfl

omit ho in
theorem scrapeGetCredentials_isSome {key : String} {pc : GetCredentialsPc}
    (hover : (Task.getCredentials key pc).over = false) :
    (scrapeGetCredentials env o w key pc).isSome = true := by
  cases pc with
  | answered r => cases hover
  | lookup =>
    simp only [scrapeGetCredentials]
    split
    · rfl
    · split
      · rfl
      · split <;> rfl
  | loadDEK userID =>
    simp only [scrapeGetCredentials]
    split <;> rfl
  | loadRow userID plainDEK =>
    simp only [scrapeGetCredentials]
    split
    · rfl
    · split <;> rfl
  | markFetched creds => rfl

theorem scrapeSubmitShifts_isSome {key : String} {pc : SubmitShiftsPc}
    (hover : (Task.submitShifts key pc).over = false) :
    (scrapeSubmitShifts env o w key pc).isSome = true := by
  cases pc with
  | answered r => cases hover
  | lookup body =>
    simp only [scrapeSubmitShifts]
    split
    · rfl
    · split
      · rfl
      · split <;> rfl
  | count i =>
    simp only [scrapeSubmitShifts]
    split
    · rfl
    · split <;> rfl
  | insert i sh start stop already =>
    simp only [scrapeSubmitShifts, ho.uuid, if_false]
    split <;> rfl
  | _ => rfl

omit ho in
theorem scrapeSubmitFailure_isSome {key : String} {pc : SubmitFailurePc}
    (hover : (Task.submitFailure key pc).over = false) :
    (scrapeSubmitFailure o w key pc).isSome = true := by
  cases pc with
  | answered r => cases hover
  | lookup body =>
    simp only [scrapeSubmitFailure]
    split
    · rfl
    · split
      · rfl
      · split <;> rfl
  | handleFailure logID userID =>
    simp only [scrapeSubmitFailure]
    split <;> rfl
  | _ => rfl

theorem requestPin_isSome {email : String} {pc : RequestPinPc}
    (hover : (Task.requestPin email pc).over = false) : (requestPin env o w email pc).isSome = true := by
  cases pc with
  | answered r => cases hover
  | store =>
    simp only [requestPin]
    split_ifs <;> rfl
  | find pin pc =>
    have hfind : (findOrCreateUser o w email pc).isSome = true := findOrCreateUser_isSome ho
    obtain ⟨⟨w', r⟩, hr⟩ := Option.isSome_iff_exists.mp hfind
    simp only [requestPin, hr]
    cases r <;> rfl
  | mail pin =>
    simp only [requestPin]
    split <;> rfl

theorem verifyPin_isSome {email pin : String} {pc : VerifyPinPc}
    (hover : (Task.verifyPin email pin pc).over = false) :
    (verifyPin env o w email pin pc).isSome = true := by
  cases pc with
  | answered r => cases hover
  | verify =>
    simp only [verifyPin]
    split
    · rfl
    · split <;> rfl
  | find pc =>
    have hfind : (findOrCreateUser o w email pc).isSome = true := findOrCreateUser_isSome ho
    obtain ⟨⟨w', r⟩, hr⟩ := Option.isSome_iff_exists.mp hfind
    simp only [verifyPin, hr]
    cases r <;> rfl
  | createSession u =>
    simp only [verifyPin, ho.uuid, if_false]
    split <;> rfl

omit ho in
theorem writeCredentials_isSome {userID : Uuid} {pc : WriteCredentialsPc}
    (hover : (Task.writeCredentials userID pc).over = false) :
    (writeCredentials env o w userID pc).isSome = true := by
  cases pc with
  | answered r => cases hover
  | credentialLimit body =>
    simp only [writeCredentials]
    split <;> rfl
  | schedule now => rfl
  | selectDEK input =>
    simp only [writeCredentials]
    split
    · rfl
    · split
      · rfl
      · split <;> rfl
  | _ =>
    simp only [writeCredentials]
    split
    · rfl
    · split <;> rfl

theorem runTask_isSome {t : Task} (hover : t.over = false)
    (hpermit : ∀ job, t = .scrape job .acquire → w.sem < maxConcurrentScrapes) :
    (runTask env o w t).isSome = true := by
  cases t with
  | getCredentials key pc => simpa only [runTask, Option.isSome_map] using scrapeGetCredentials_isSome hover
  | submitShifts key pc => simpa only [runTask, Option.isSome_map] using scrapeSubmitShifts_isSome ho hover
  | submitFailure key pc => simpa only [runTask, Option.isSome_map] using scrapeSubmitFailure_isSome hover
  | scrape job pc =>
    simp only [runTask, Option.isSome_map]
    refine scrapeForUser_isSome ho ?_ fun hpc => hpermit job (by rw [hpc])
    rintro rfl
    cases hover
  | requestPin email pc => simpa only [runTask, Option.isSome_map] using requestPin_isSome ho hover
  | verifyPin email pin pc => simpa only [runTask, Option.isSome_map] using verifyPin_isSome ho hover
  | authed token req =>
    simp only [runTask]
    split
    · rfl
    · split <;> rfl
  | writeCredentials userID pc =>
    simpa only [runTask, Option.isSome_map] using writeCredentials_isSome hover
  | finished r => cases hover
  | _ => rfl

end Progress

theorem exists_step (env : Env) {o : Outcome} {w : World} {ts : List Task} (ho : o.Unused w)
    (hsem : w.sem = tally Task.holds ts) (hover : ∃ t ∈ ts, t.over = false) :
    ∃ (i : Nat) (t : Task), ts[i]? = some t ∧ (runTask env o w t).isSome = true := by
  have hat : ∀ t ∈ ts, t.over = false → (∀ job, t = .scrape job .acquire → w.sem < maxConcurrentScrapes) →
      ∃ (i : Nat) (t : Task), ts[i]? = some t ∧ (runTask env o w t).isSome = true := by
    intro t ht hover hpermit
    obtain ⟨i, hi⟩ := List.mem_iff_getElem?.mp ht
    exact ⟨i, t, hi, runTask_isSome ho hover hpermit⟩
  by_cases hfree : w.sem < maxConcurrentScrapes
  · obtain ⟨t, ht, hover⟩ := hover
    exact hat t ht hover fun _ _ => hfree
  · have hheld : 0 < tally Task.holds ts := by
      have hcap : 0 < maxConcurrentScrapes := by decide
      omega
    obtain ⟨t, ht, hholds⟩ := exists_of_tally_pos hheld
    have hgoing : t.over = false ∧ ∀ job, t ≠ .scrape job .acquire := by
      cases t with
      | scrape job pc => cases pc <;> simp_all [Task.holds, ScrapePc.holds, Task.over]
      | _ => cases hholds
    exact hat t ht hgoing.1 fun job heq => absurd heq (hgoing.2 job)

theorem Task.waitedFor_of_over {t : Task} (h : t.over = true) : t.waitedFor = true := by
  cases t with
  | scrape job pc => cases pc <;> simp_all [Task.over, Task.waitedFor]
  | _ => rfl

theorem Task.holds_of_over {t : Task} (h : t.over = true) : t.holds = 0 := by
  cases t with
  | scrape job pc => cases pc <;> simp_all [Task.over, Task.holds, ScrapePc.holds]
  | _ => rfl

/-! The scheduler: what is left of its pass. -/

def Scheduler.phase : Scheduler → Nat
  | .idle => 0
  | .due => 4
  | .waitScrapes => 3
  | .stale => 2
  | _ => 1

def Scheduler.statementsLeft : Scheduler → Nat
  | .reap rest => 4 * rest.length
  | .reapMark _ rest => 4 * rest.length + 3
  | .reapRetry _ rest => 4 * rest.length + 2
  | .reapSchedule _ rest => 4 * rest.length + 1
  | .retention _ rest => rest.length
  | _ => 0

def Scheduler.remaining (sch : Scheduler) : Nat ×ₗ Nat := toLex (sch.phase, sch.statementsLeft)

section Scheduling
variable {o : Outcome} {w w' : World} {waited : Bool} {sch sch' : Scheduler} {jobs : List ScrapeJob}

theorem runScheduler_remaining (h : runScheduler o w waited sch = some (w', sch', jobs))
    (hidle : sch ≠ .idle) : sch'.remaining < sch.remaining := by
  rw [Scheduler.remaining, Scheduler.remaining, Prod.Lex.toLex_lt_toLex]
  cases runScheduler_cases h with
  | retentionTick | pollTick => exact absurd rfl hidle
  | @notKilled e rest | @killed e rest =>
    refine .inr ⟨rfl, ?_⟩
    change 4 * rest.length + 3 < 4 * (rest.length + 1)
    omega
  | _ => simp [Scheduler.phase, Scheduler.statementsLeft]

theorem runScheduler_isSome (hwaited : waited = true) : (runScheduler o w waited sch).isSome = true := by
  subst hwaited
  cases sch with
  | reap stale =>
    cases stale with
    | nil => rfl
    | cons e rest =>
      simp only [runScheduler]
      split <;> rfl
  | retention now stmts => cases stmts <;> rfl
  | reapRetry e rest =>
    simp only [runScheduler]
    split <;> rfl
  | reapMark | reapSchedule => rfl
  | waitScrapes => simp [runScheduler]
  | _ =>
    simp only [runScheduler]
    split <;> rfl

end Scheduling

namespace Server
variable {env : Env} {s s' : Server} {a : Action} {db : DB} {now : Int}

/-- What happens of itself, between any two steps of the tasks. -/
def background (_ : Server) : Action → Bool
  | .advance _ => true
  | .containerExit _ => true
  | .cleanupPins => true
  | .sweepLimiters => true
  | _ => false

def begunWork (s : Server) : Action → Bool
  | .run _ _ => true
  | .schedule _ => s.scheduler != .idle
  | _ => false

/-- The next step of work that has begun, after anything that happens of itself. -/
def workStep (env : Env) (s : Server) (p : List Action × Action) : Option Server :=
  (runWithin (step env) background s p.1).bind fun t =>
    if begunWork t p.2 then step env t p.2 else none

/-- Every request is answered, every scrape goroutine has returned and given its permit
back, and the scheduler waits for its next tick. -/
structure Resting (s : Server) : Prop where
  scheduler : s.scheduler = .idle
  tasks : ∀ t ∈ s.tasks, t.over = true
  sem : s.sem = 0

/-- The permits taken are those of the goroutines that hold one. -/
def Permits (s : Server) : Prop := s.sem = tally Task.holds s.tasks

theorem permits_spawned (jobs : List ScrapeJob) : tally Task.holds (jobs.map ScrapeJob.task) = 0 := by
  rw [tally_eq_zero]
  exact List.forall_mem_map.mpr fun _ _ => rfl

theorem permits_step (hs : s.Permits) (h : s.step env a = some s') : s'.Permits := by
  cases a with
  | run i o =>
    obtain ⟨t, w, t', jobs, ht, hrun, rfl⟩ := step_run h
    have hheld : t.holds ≤ s.sem := by
      rw [Permits] at hs
      rw [hs]
      exact le_tally Task.holds (mem_of_getElem?_pool ht)
    have hsem := runTask_permits hrun hheld
    have hcount := tally_pooled Task.holds ht t' (jobs.map ScrapeJob.task)
    rw [permits_spawned] at hcount
    rw [Permits] at hs ⊢
    change w.sem = tally Task.holds (pooled s.tasks i t' (jobs.map ScrapeJob.task))
    omega
  | schedule o =>
    obtain ⟨w, sch, jobs, hrun, rfl⟩ := step_schedule h
    rw [Permits] at hs ⊢
    change w.sem = tally Task.holds (s.tasks ++ jobs.map ScrapeJob.task)
    rw [tally_append, permits_spawned, runScheduler_sem hrun]
    exact hs
  | arrive r =>
    cases h
    have hr : r.task.holds = 0 := by cases r <;> rfl
    rw [Permits] at hs ⊢
    change s.sem = tally Task.holds (s.tasks ++ [r.task])
    rw [tally_append, tally_singleton, hr]
    exact hs
  | _ =>
    cases h
    exact hs

theorem permits_of_reaches (h : Reaches (step env) anyStep (boot db now) s) : s.Permits :=
  h.invariant rfl fun _ _ _ _ hs ha => permits_step hs ha

theorem background_kept (h : Reaches (step env) background s s') :
    s'.scheduler = s.scheduler ∧ s'.tasks = s.tasks ∧ s'.sem = s.sem := by
  refine h.invariant (I := fun t => t.scheduler = s.scheduler ∧ t.tasks = s.tasks ∧ t.sem = s.sem)
    ⟨rfl, rfl, rfl⟩ ?_
  intro t a t' hok hkept ha
  cases a with
  | run | schedule | arrive => cases hok
  | _ =>
    cases ha
    exact hkept

theorem workStep_eq_some {p : List Action × Action} (h : s.workStep env p = some s') :
    ∃ t, Reaches (step env) background s t ∧ begunWork t p.2 = true ∧ t.step env p.2 = some s' := by
  obtain ⟨t, hwait, h⟩ := Option.bind_eq_some_iff.mp h
  split_ifs at h with hbegun
  exact ⟨t, reaches_of_runWithin hwait, hbegun, h⟩

theorem workStep_of_step (hbegun : begunWork s a = true) (h : s.step env a = some s') :
    s.workStep env ([], a) = some s' := by
  simp only [workStep, runWithin, Option.bind_some, hbegun, if_true, h]

/-- The work ahead of the scheduler, and then that of the tasks: its steps may start some. -/
def remaining (s : Server) : (Nat ×ₗ Nat) ×ₗ Nat :=
  toLex (s.scheduler.remaining, tally Task.remaining s.tasks)

theorem remaining_step (hbegun : begunWork s a = true) (h : s.step env a = some s') :
    s'.remaining < s.remaining := by
  rw [remaining, remaining, Prod.Lex.toLex_lt_toLex]
  cases a with
  | run i o =>
    obtain ⟨t, w, t', jobs, ht, hrun, rfl⟩ := step_run h
    have hless := runTask_remaining hrun
    have hcount := tally_pooled Task.remaining ht t' (jobs.map ScrapeJob.task)
    refine .inr ⟨rfl, ?_⟩
    change tally Task.remaining (pooled s.tasks i t' (jobs.map ScrapeJob.task)) < _
    omega
  | schedule o =>
    obtain ⟨w, sch, jobs, hrun, rfl⟩ := step_schedule h
    exact .inl (runScheduler_remaining hrun (by simpa [begunWork] using hbegun))
  | _ => cases hbegun

theorem exists_workStep (env : Env) (hs : s.Permits) (hrest : ¬s.Resting) :
    ∃ p t, fails p.2 = false ∧ s.workStep env p = some t := by
  by_cases hover : ∃ t ∈ s.tasks, t.over = false
  · obtain ⟨o, ho, hsql⟩ := Outcome.exists_unused s.toWorld
    obtain ⟨i, t, ht, hrun⟩ := exists_step env ho hs hover
    obtain ⟨⟨w, t', jobs⟩, hrun⟩ := Option.isSome_iff_exists.mp hrun
    have hstep : s.step env (.run i o) =
        some { s with toWorld := w, tasks := pooled s.tasks i t' (jobs.map ScrapeJob.task) } := by
      simp only [step, ht, hrun]
    exact ⟨([], .run i o), _, hsql, workStep_of_step rfl hstep⟩
  · have hall : ∀ t ∈ s.tasks, t.over = true := fun t ht =>
      Bool.not_eq_false _ ▸ fun hfalse => hover ⟨t, ht, hfalse⟩
    have hsem : s.sem = 0 := by
      rw [Permits] at hs
      rw [hs, tally_eq_zero]
      exact fun t ht => Task.holds_of_over (hall t ht)
    have hidle : s.scheduler ≠ .idle := fun heq => hrest ⟨heq, hall, hsem⟩
    have hwaited : s.tasks.all Task.waitedFor = true :=
      List.all_eq_true.mpr fun t ht => Task.waitedFor_of_over (hall t ht)
    have hruns : (runScheduler uneventful s.toWorld (s.tasks.all Task.waitedFor) s.scheduler).isSome = true :=
      runScheduler_isSome hwaited
    obtain ⟨⟨w, sch, jobs⟩, hrun⟩ := Option.isSome_iff_exists.mp hruns
    have hstep : s.step env (.schedule uneventful) =
        some { s with
          toWorld := w, scheduler := sch, tasks := s.tasks ++ jobs.map ScrapeJob.task } := by
      simp only [step, hrun]
    exact ⟨([], .schedule uneventful), _, rfl, workStep_of_step (by simpa [begunWork] using hidle) hstep⟩

theorem inevitable_rest {ok : Server → List Action × Action → Bool}
    (hok : ∀ s p, fails p.2 = false → ok s p = true) (hs : s.Permits) :
    Inevitable (workStep env) ok Resting s := by
  refine Inevitable.of_measure (I := Permits) wellFounded_lt remaining ?_ ?_ hs
  · intro s hs hrest
    obtain ⟨p, t, hfault, hp⟩ := exists_workStep env hs hrest
    exact ⟨t, p, hok s p hfault, hp⟩
  · intro s t hs _ hmove
    obtain ⟨p, _, hp⟩ := hmove
    obtain ⟨u, hwait, hbegun, hstep⟩ := workStep_eq_some hp
    obtain ⟨hsch, htasks, hsem⟩ := background_kept hwait
    have hu : u.Permits := by
      rw [Permits, htasks, hsem]
      exact hs
    refine ⟨permits_step hu hstep, ?_⟩
    have hsame : u.remaining = s.remaining := by rw [remaining, remaining, hsch, htasks]
    rw [← hsame]
    exact remaining_step hbegun hstep

/-- Whatever has been asked of it, and in whichever order its goroutines are scheduled, the
service answers every request and comes to rest. -/
theorem comes_to_rest (h : Reaches (step env) anyStep (boot db now) s) :
    Inevitable (workStep env) anyStep Resting s :=
  inevitable_rest (fun _ _ _ => rfl) (permits_of_reaches h)

theorem comes_to_rest_crowd :
    Inevitable (workStep sampleEnv) anyStep Resting
      (after (step sampleEnv) anyStep (boot crowdDB 0) (firstPoll ++ saveBegun)) :=
  comes_to_rest (reaches_after (by decide +kernel))

end Server
end ScheduleSync
