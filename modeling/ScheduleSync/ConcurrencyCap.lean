import ScheduleSync.Effects

/-! The cap on concurrent scrapes. The semaphore is given back when the container
has started, long before it is done, so it bounds the launches under way and not
the containers that live. Only a launch that counts both stays under the cap. -/
namespace ScheduleSync

def liveCount (cs : List Container) : Nat := cs.countP Container.live

def ScrapePc.starting : ScrapePc → Nat
  | .acquire => 0
  | .scheduleNext _ => 0
  | .release => 0
  | .done => 0
  | _ => 1

def Task.starting : Task → Nat
  | .scrape _ pc => pc.starting
  | _ => 0

section Containers
variable {cs : List Container}

theorem liveCount_map_le (cs : List Container) (f : Container → Container)
    (hf : ∀ c, (f c).live = true → c.live = true) :
    liveCount (cs.map f) ≤ liveCount cs := by
  rw [liveCount, liveCount, List.countP_map]
  exact List.countP_mono_left fun c _ hc => hf c hc

theorem ids_map (f : Container → Container) (hf : ∀ c, (f c).id = c.id) :
    (cs.map f).map Container.id = cs.map Container.id := by
  rw [List.map_map]
  exact List.map_congr_left fun c _ => hf c

def Container.start (id : String) (c : Container) : Container :=
  if c.id == id then { c with phase := .running } else c

theorem Container.start_id (id : String) (c : Container) : (c.start id).id = c.id := by
  unfold Container.start
  split <;> rfl

theorem liveCount_start (id : String) (hids : (cs.map Container.id).Nodup) :
    liveCount (cs.map (Container.start id)) ≤ liveCount cs + 1 := by
  induction cs with
  | nil => simp [liveCount]
  | cons c cs ih =>
    obtain ⟨hnotin, hrest⟩ := List.nodup_cons.mp hids
    rw [List.map_cons, liveCount, liveCount, List.countP_cons, List.countP_cons]
    by_cases hc : c.id = id
    · have hsame : cs.map (Container.start id) = cs := by
        conv_rhs => rw [← List.map_id cs]
        refine List.map_congr_left fun x hx => ?_
        have hne : x.id ≠ id := by
          intro heq
          have hmem : x.id ∈ cs.map Container.id := List.mem_map_of_mem hx
          exact hnotin (hc.trans heq.symm ▸ hmem)
        simp [Container.start, hne]
      rw [hsame]
      split <;> omega
    · have hsame : c.start id = c := by simp [Container.start, hc]
      have hle := ih hrest
      rw [liveCount, liveCount] at hle
      rw [hsame]
      omega

end Containers

theorem execDropped_containers (w : World) (o : Outcome) (db : DB) :
    (w.execDropped o db).containers = w.containers := by
  unfold World.execDropped
  split <;> rfl

theorem scheduleNext_containers (w : World) (o : Outcome) (logID userID : Uuid) :
    (w.scheduleNext o logID userID).containers = w.containers :=
  execDropped_containers w o _

section Handlers
variable {env : Env} {o : Outcome} {w w' : World}

theorem scrapeSubmitShifts_containers {key : String} {pc pc' : SubmitShiftsPc}
    (h : scrapeSubmitShifts env o w key pc = some (w', pc')) : w'.containers = w.containers := by
  cases scrapeSubmitShifts_cases h with
  | finished => exact execDropped_containers w o _
  | scheduleNext => exact scheduleNext_containers w o _ _
  | _ => rfl

theorem scrapeSubmitFailure_containers {key : String} {pc pc' : SubmitFailurePc}
    {jobs : List ScrapeJob} (h : scrapeSubmitFailure o w key pc = some (w', pc', jobs)) :
    w'.containers = w.containers := by
  cases scrapeSubmitFailure_cases h with
  | markFailed => exact execDropped_containers w o _
  | scheduleNext => exact scheduleNext_containers w o _ _
  | _ => rfl

theorem writeCredentials_containers {userID : Uuid} {pc pc' : WriteCredentialsPc}
    {jobs : List ScrapeJob} (h : writeCredentials env o w userID pc = some (w', pc', jobs)) :
    w'.containers = w.containers := by
  cases writeCredentials_cases h <;> rfl

theorem deleteAccount_containers {userID : Uuid} :
    (deleteAccount o w userID).1.containers = w.containers := by
  unfold deleteAccount
  split <;> rfl

theorem runTask_containers {t t' : Task} {jobs : List ScrapeJob}
    (h : runTask env o w t = some (w', t', jobs)) (ht : ∀ job pc, t ≠ .scrape job pc) :
    w'.containers = w.containers ∧ t'.starting = 0 := by
  cases runTask_cases h with
  | scrape => exact absurd rfl (ht _ _)
  | getCredentials hr =>
    refine ⟨?_, rfl⟩
    cases scrapeGetCredentials_reads hr with
    | inl hw => rw [hw]
    | inr hw =>
      rw [hw.2]
      exact execDropped_containers w o _
  | submitShifts hr => exact ⟨scrapeSubmitShifts_containers hr, rfl⟩
  | submitFailure hr => exact ⟨scrapeSubmitFailure_containers hr, rfl⟩
  | requestPin hr => exact ⟨(requestPin_unrelated hr).containers, rfl⟩
  | verifyPin hr => exact ⟨(verifyPin_unrelated hr).containers, rfl⟩
  | logout => exact ⟨logout_unrelated.containers, rfl⟩
  | refused err => exact ⟨rfl, rfl⟩
  | begun hb =>
    refine ⟨rfl, ?_⟩
    cases AuthedRequest.begin_cases hb <;> rfl
  | writeCredentials hr => exact ⟨writeCredentials_containers hr, rfl⟩
  | deleteAccount => exact ⟨deleteAccount_containers, rfl⟩
  | updateTimezone => exact ⟨updateTimezone_unrelated.containers, rfl⟩

/-- What one step of a scrape does to the containers and to its own right to start one. -/
structure Starts (w w' : World) (pc pc' : ScrapePc) : Prop where
  ids : (w'.containers.map Container.id).Nodup
  count : liveCount w'.containers + pc'.starting ≤
    liveCount w.containers + pc.starting + if pc = .acquire then 1 else 0

theorem Starts.of_eq {pc pc' : ScrapePc} (hids : (w.containers.map Container.id).Nodup)
    (hw : w'.containers = w.containers) (hpc : pc'.starting ≤ pc.starting) :
    Starts w w' pc pc' := by
  rw [← hw] at hids
  refine ⟨hids, ?_⟩
  rw [hw]
  omega

theorem scrapeForUser_starts {job job' : ScrapeJob} {pc pc' : ScrapePc}
    (h : scrapeForUser env o w job pc = some (w', job', pc'))
    (hids : (w.containers.map Container.id).Nodup) : Starts w w' pc pc' := by
  cases scrapeForUser_cases h with
  | acquire => exact ⟨hids, by simp [ScrapePc.starting]⟩
  | insertFailed => exact .of_eq hids rfl (Nat.zero_le _)
  | created hdocker hnew =>
    refine ⟨?_, ?_⟩
    · refine List.nodup_cons.mpr ⟨?_, hids⟩
      intro hmem
      obtain ⟨c, hc, hid⟩ := List.mem_map.mp hmem
      exact hnew c hc hid
    · simp [liveCount, Container.live, ScrapePc.starting]
  | saveContainerID => exact .of_eq hids (execDropped_containers w o _) (Nat.le_refl _)
  | @started logID containerID =>
    refine ⟨?_, ?_⟩
    · rw [show (w.containers.map fun c => if c.id == containerID then { c with phase := .running }
        else c) = w.containers.map (Container.start containerID) from rfl,
        ids_map _ (Container.start_id containerID)]
      exact hids
    · have hle := liveCount_start containerID hids
      simp only [ScrapePc.starting]
      exact hle
  | retried => exact .of_eq hids (execDropped_containers w o _) (Nat.le_refl _)
  | gaveUp => exact .of_eq hids (execDropped_containers w o _) (Nat.zero_le _)
  | scheduleNext => exact .of_eq hids (scheduleNext_containers w o _ _) (Nat.le_refl _)
  | _ => exact .of_eq hids rfl (Nat.le_refl _)

theorem runScheduler_kills {waited : Bool} {sch sch' : Scheduler} {jobs : List ScrapeJob}
    (h : runScheduler o w waited sch = some (w', sch', jobs)) :
    w'.containers = w.containers ∨ ∃ id, w'.containers = killContainer id w.containers := by
  cases runScheduler_cases h with
  | @killed e rest => exact .inr ⟨e.containerID, rfl⟩
  | reapMark | retention => exact .inl (execDropped_containers w o _)
  | reapSchedule => exact .inl (scheduleNext_containers w o _ _)
  | _ => exact .inl rfl

theorem runScheduler_containers {waited : Bool} {sch sch' : Scheduler} {jobs : List ScrapeJob}
    (h : runScheduler o w waited sch = some (w', sch', jobs)) :
    ∃ f : Container → Container, (∀ c, (f c).id = c.id) ∧ (∀ c, (f c).live = true → c.live = true) ∧
      w'.containers = w.containers.map f := by
  cases runScheduler_kills h with
  | inl hsame =>
    exact ⟨id, fun _ => rfl, fun _ hc => hc, hsame.trans (List.map_id _).symm⟩
  | inr hkill =>
    obtain ⟨id, hkill⟩ := hkill
    refine ⟨fun c => if c.id == id && c.phase == .running
      then { c with phase := .exited, killed := true } else c, ?_, ?_, hkill⟩
    · intro c
      dsimp only
      split <;> rfl
    · intro c hc
      dsimp only at hc
      split at hc
      · simp [Container.live] at hc
      · exact hc

end Handlers

namespace Server
variable {env : Env} {s s' : Server} {a : Action} {db : DB} {now : Int}

def starting (s : Server) : Nat := tally Task.starting s.tasks

/-- A scrape that takes the semaphore finds the containers that live, and those other
holders may still start, below the cap. -/
def acquiresBelowCap (s : Server) : Action → Bool
  | .run i _ =>
    match s.tasks[i]? with
    | some (.scrape _ .acquire) =>
      decide (liveCount s.containers + s.starting < maxConcurrentScrapes)
    | _ => true
  | _ => true

structure Capped (s : Server) : Prop where
  ids : (s.containers.map Container.id).Nodup
  cap : liveCount s.containers + s.starting ≤ maxConcurrentScrapes

theorem capped_boot : (boot db now).Capped := by
  refine ⟨List.nodup_nil, ?_⟩
  exact Nat.zero_le _

theorem capped_map (hs : s.Capped) (f : Container → Container) (hid : ∀ c, (f c).id = c.id)
    (hlive : ∀ c, (f c).live = true → c.live = true) (hc : s'.containers = s.containers.map f)
    (hstart : s'.starting = s.starting) : s'.Capped := by
  refine ⟨?_, ?_⟩
  · rw [hc, ids_map f hid]
    exact hs.ids
  · have hle := liveCount_map_le s.containers f hlive
    have hcap := hs.cap
    rw [hc, hstart]
    omega

theorem starting_spawned (jobs : List ScrapeJob) :
    tally Task.starting (jobs.map ScrapeJob.task) = 0 := by
  rw [tally_eq_zero]
  exact List.forall_mem_map.mpr fun _ _ => rfl

theorem capped_run {i : Nat} {o : Outcome} (hok : s.acquiresBelowCap (.run i o) = true)
    (hs : s.Capped) (h : s.step env (.run i o) = some s') : s'.Capped := by
  obtain ⟨t, w, t', jobs, ht, hrun, rfl⟩ := step_run h
  have hcount := tally_pooled Task.starting ht t' (jobs.map ScrapeJob.task)
  rw [starting_spawned] at hcount
  have hcap := hs.cap
  rw [starting] at hcap
  by_cases hscrape : ∃ job pc, t = .scrape job pc
  · obtain ⟨job, pc, rfl⟩ := hscrape
    obtain ⟨⟨w₁, job', pc'⟩, hr, heq⟩ := Option.map_eq_some_iff.mp hrun
    cases heq
    have hstarts := scrapeForUser_starts hr hs.ids
    have hle := hstarts.count
    simp only [Task.starting] at hcount
    have hgoal : liveCount w.containers +
        tally Task.starting (pooled s.tasks i (.scrape job' pc') ([].map ScrapeJob.task)) ≤
          maxConcurrentScrapes := by
      by_cases hpc : pc = .acquire
      · subst hpc
        have hbelow : liveCount s.containers + s.starting < maxConcurrentScrapes := by
          simpa [acquiresBelowCap, ht] using hok
        have hzero : ScrapePc.acquire.starting = 0 := rfl
        rw [if_pos rfl, hzero] at hle
        rw [hzero] at hcount
        rw [starting] at hbelow
        omega
      · rw [if_neg hpc] at hle
        omega
    exact ⟨hstarts.ids, hgoal⟩
  · have hne : ∀ job pc, t ≠ .scrape job pc := fun job pc heq => hscrape ⟨job, pc, heq⟩
    obtain ⟨hc, hzero⟩ := runTask_containers hrun hne
    have hgoal : liveCount w.containers +
        tally Task.starting (pooled s.tasks i t' (jobs.map ScrapeJob.task)) ≤
          maxConcurrentScrapes := by
      rw [hc]
      omega
    refine ⟨?_, hgoal⟩
    rw [hc]
    exact hs.ids

theorem capped_step (hok : s.acquiresBelowCap a = true) (hs : s.Capped)
    (h : s.step env a = some s') : s'.Capped := by
  cases a with
  | run i o => exact capped_run hok hs h
  | schedule o =>
    obtain ⟨w, sch, jobs, hrun, rfl⟩ := step_schedule h
    obtain ⟨f, hid, hlive, hc⟩ := runScheduler_containers hrun
    refine capped_map hs f hid hlive hc ?_
    rw [starting, tally_append, starting_spawned]
    rfl
  | arrive r =>
    cases h
    refine capped_map hs (fun c => if r.reports == some c.scrapeKey then { c with reported := true }
      else c) ?_ ?_ rfl ?_
    · intro c
      split <;> rfl
    · intro c hc
      split at hc
      · simp [Container.live] at hc
      · exact hc
    · have hr : r.task.starting = 0 := by cases r <;> rfl
      rw [starting, tally_append, tally_singleton, hr]
      rfl
  | containerExit id =>
    cases h
    refine capped_map hs (fun c => if c.id == id && c.phase == .running then { c with phase := .exited }
      else c) ?_ ?_ rfl rfl
    · intro c
      split <;> rfl
    · intro c hc
      split at hc
      · rename_i hrun
        have hphase := ((Bool.and_eq_true _ _).mp hrun).2
        simpa [Container.live, beq_iff_eq.mp hphase] using hc
      · exact hc
  | _ =>
    cases h
    exact ⟨hs.ids, hs.cap⟩

/-- No more than maxConcurrentScrapes containers live. -/
theorem live_le_cap (h : Reaches (step env) acquiresBelowCap (boot db now) s) :
    liveCount s.containers ≤ maxConcurrentScrapes := by
  have hs : s.Capped := h.invariant capped_boot fun _ _ _ hok hs ha => capped_step hok hs ha
  have hcap := hs.cap
  omega

def crowdDB : DB :=
  { DB.empty with
    users := ⟨[sampleUser, ⟨"u2", "b@x.com", false, "UTC", "ics2", 0, 0⟩,
      ⟨"u3", "c@x.com", false, "UTC", "ics3", 0, 0⟩, ⟨"u4", "d@x.com", false, "UTC", "ics4", 0, 0⟩], by decide⟩
    scrapeSchedule := ⟨[⟨"u1", 0, none⟩, ⟨"u2", 0, none⟩, ⟨"u3", 0, none⟩, ⟨"u4", 0, none⟩], by decide⟩ }

def threeAtOnce : List Action :=
  firstPoll ++ launch 0 "log1" "key1" "c1" ++ launch 1 "log2" "key2" "c2" ++
    launch 2 "log3" "key3" "c3"

def fourthAfterReport : List Action :=
  threeAtOnce ++ [.arrive (.submitShifts "key1" (.ok []))] ++ launch 3 "log4" "key4" "c4"

theorem live_le_cap_fourth :
    liveCount (after (step sampleEnv) acquiresBelowCap (boot crowdDB 0) fourthAfterReport).containers ≤
      maxConcurrentScrapes :=
  live_le_cap (reaches_after (by decide +kernel))

def fourAtOnce : List Action := threeAtOnce ++ launch 3 "log4" "key4" "c4"

/-- Four due users: the semaphore is free again before any of their scrapes is over. -/
theorem live_above_cap :
    ∃ s, Reaches (step sampleEnv) anyStep (boot crowdDB 0) s ∧
      maxConcurrentScrapes < liveCount s.containers :=
  ⟨after (step sampleEnv) anyStep (boot crowdDB 0) fourAtOnce, reaches_after (by decide +kernel),
    by decide +kernel⟩

end Server
end ScheduleSync
