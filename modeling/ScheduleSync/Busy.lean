import ScheduleSync.Lineage

/-! Users with a scrape in progress, and the first attempts on their way to their
INSERT. The scheduler, a save and the admin trigger all start first attempts
without looking at either. -/
namespace ScheduleSync

def Worker.serves (u : Uuid) (W : Worker) : Bool :=
  W.job.any (fun job => job.userID == u && job.parent.isSome) ||
    (W.holding ++ W.owing).any fun r => r.userID == u

theorem Worker.serves_iff {u : Uuid} {W : Worker} : W.serves u = true ↔
    (∃ job, W.job = some job ∧ job.userID = u ∧ job.parent.isSome = true) ∨
      ∃ r ∈ W.holding ++ W.owing, r.userID = u := by
  rw [Worker.serves, Bool.or_eq_true, List.any_eq_true]
  simp only [Option.any_eq_true, Bool.and_eq_true, beq_iff_eq]

def Worker.first (u : Uuid) (W : Worker) : Nat :=
  if W.job.any fun job => job.userID == u && job.parent.isNone then 1 else 0

section First
variable (u : Uuid)

@[simp] theorem first_mk (l h o : List LogRef) : (Worker.mk none l h o).first u = 0 := rfl

theorem first_ofJob (job : ScrapeJob) :
    (Worker.ofJob job).first u = if job.userID = u ∧ job.parent = none then 1 else 0 := by
  simp [Worker.first, Worker.ofJob]

theorem first_ofJob_retry {job : ScrapeJob} {P : Uuid} (h : job.parent = some P) :
    (Worker.ofJob job).first u = 0 := by
  rw [first_ofJob, if_neg]
  rintro ⟨_, hnone⟩
  rw [h] at hnone
  cases hnone

end First

theorem Scheduler.countP_launches (o : Outcome) (w : World) (sch : Scheduler) (u : Uuid) :
    ((sch.call o w).launches.countP fun job => job.userID == u) ≤ 1 := by
  cases sch with
  | due =>
    simp only [Scheduler.call]
    split
    · exact Nat.zero_le _
    · have hnodup : (w.db.dueUsers (unix w.now)).Nodup := by
        have hrows : (w.db.scrapeSchedule.rows.map ScrapeSchedule.userID).Nodup :=
          List.pairwise_map.mpr (w.db.scrapeSchedule.unique.imp fun hab heq => hab heq)
        exact hrows.sublist (List.filter_sublist.map _)
      have hcount := List.nodup_iff_count_le_one.mp hnodup u
      simpa [List.countP_map, Function.comp_def, List.count] using hcount
  | retention now stmts => cases stmts <;> exact Nat.zero_le _
  | _ => exact Nat.zero_le _

theorem Task.length_launches (env : Env) (o : Outcome) (w : World) (t : Task) :
    (t.call env o w).launches.length ≤ 1 := by
  cases t with
  | authed token req =>
    have hbegin : ∀ u : User, (req.begin u).2.length ≤ 1 := by
      intro u
      cases req with
      | triggerScrape userID =>
        simp only [AuthedRequest.begin]
        split_ifs
        · exact Nat.zero_le _
        · cases userID with
          | error _ => exact Nat.zero_le _
          | ok id => exact Nat.le_refl _
      | _ => exact Nat.zero_le _
    simp only [Task.call, runTask]
    split
    · rename_i hstep
      split_ifs at hstep
      · cases hstep
        exact Nat.zero_le _
      · split at hstep
        · cases hstep
          exact Nat.zero_le _
        · rename_i u _
          obtain ⟨_, hb⟩ := Prod.mk.inj (Option.some.inj hstep)
          have hu := hbegin u
          rw [hb] at hu
          exact hu
    · exact Nat.zero_le _
  | writeCredentials userID pc =>
    cases pc with
    | schedule now => exact Nat.le_refl _
    | _ => exact Nat.zero_le _
  | scrape job pc => cases pc <;> exact Nat.zero_le _
  | submitShifts key pc =>
    cases pc with
    | count i =>
      simp only [Task.call, SubmitShiftsPc.call]
      split <;> exact Nat.zero_le _
    | _ => exact Nat.zero_le _
  | submitFailure key pc => cases pc <;> exact Nat.zero_le _
  | _ => exact Nat.zero_le _

namespace Server
variable {env : Env} {s s' : Server} {a : Action} {db₀ : DB} {u : Uuid}

def firstJobs (s : Server) (u : Uuid) : Nat := tally (Worker.first u) s.workers

def engaged (s : Server) (u : Uuid) : Bool :=
  s.db.scrapeLogs.rows.any (fun l => l.userID == u && l.status == .running) ||
    s.workers.any (Worker.serves u)

def busy (s : Server) (u : Uuid) : Bool := s.engaged u || decide (0 < s.firstJobs u)

/-- First attempts of `u` are only started while `u` is not busy. -/
def startsIdle (env : Env) (u : Uuid) (s : Server) (a : Action) : Bool :=
  (s.call env a).launches.all fun job => job.userID != u || !s.busy u

/-- First attempts are only started for users who are not busy. -/
def startsAllIdle (env : Env) (s : Server) (a : Action) : Bool :=
  (s.call env a).launches.all fun job => !s.busy job.userID

/-- No administrator asks for a scrape. -/
def untriggered (_ : Server) : Action → Bool
  | .arrive (.authed _ (.triggerScrape _)) => false
  | _ => true

theorem startsIdle_of_all (h : s.startsAllIdle env a = true) (u : Uuid) :
    s.startsIdle env u a = true := by
  rw [startsIdle, List.all_eq_true]
  intro job hjob
  have hidle := List.all_eq_true.mp h job hjob
  by_cases hu : job.userID = u
  · rw [hu] at hidle
    simp [hidle]
  · simp [hu]

theorem countP_launches_le_one (env : Env) (s : Server) (a : Action) (u : Uuid) :
    ((s.call env a).launches.countP fun job => job.userID == u) ≤ 1 := by
  cases a with
  | run i o =>
    simp only [call]
    split
    · exact Nat.zero_le _
    · exact (List.countP_le_length).trans (Task.length_launches env o s.toWorld _)
  | schedule o => exact Scheduler.countP_launches o s.toWorld s.scheduler u
  | _ => exact Nat.zero_le _

theorem tally_first_launches :
    tally (Worker.first u) ((s.call env a).launches.map Worker.ofJob) =
      (s.call env a).launches.countP fun job => job.userID == u := by
  have hgen : ∀ jobs : List ScrapeJob, (∀ job ∈ jobs, job.parent = none) →
      tally (Worker.first u) (jobs.map Worker.ofJob) = jobs.countP fun job => job.userID == u := by
    intro jobs
    induction jobs with
    | nil => intro _; rfl
    | cons job jobs ih =>
      intro hnone
      have hjob := hnone job List.mem_cons_self
      have hrest := ih fun j hj => hnone j (List.mem_cons_of_mem _ hj)
      have hcons : tally (Worker.first u) ((job :: jobs).map Worker.ofJob) =
          (Worker.ofJob job).first u + tally (Worker.first u) (jobs.map Worker.ofJob) := by
        simp [tally]
      rw [hcons, hrest, first_ofJob, List.countP_cons]
      simp only [hjob, and_true, beq_iff_eq]
      omega
  exact hgen _ fun job hjob => (call_launches hjob).1

theorem firstJobs_step (h : s.step env a = some s') :
    s'.firstJobs u ≤ s.firstJobs u + (s.call env a).launches.countP fun job => job.userID == u := by
  obtain ⟨i, W, W', spawned, hW, hws, _, hwork⟩ := step_effect h
  have ht : s'.firstJobs u + W.first u = s.firstJobs u + W'.first u + tally (Worker.first u) spawned := by
    rw [firstJobs, hws]
    exact tally_pooled (Worker.first u) hW W' spawned
  cases hwork with
  | quiet =>
    rw [tally_first_launches] at ht
    omega
  | arrive =>
    rw [tally_singleton, first_mk] at ht
    omega
  | finishRetry r job =>
    rw [tally_nil, first_ofJob_retry u (retryOf_parent r.logID job)] at ht
    omega
  | handOver r rest job l _ hparent =>
    rw [tally_singleton, first_ofJob_retry u hparent, first_mk, first_mk] at ht
    omega
  | remove =>
    rw [tally_nil] at ht
    omega
  | _ =>
    simp only [tally_nil, first_mk] at ht
    omega

theorem first_origin (h : s.step env a = some s') {V : Worker} (hV : V ∈ s'.workers)
    {job : ScrapeJob} (hjob : V.job = some job) (hparent : job.parent = none) :
    V ∈ s.workers ∨ job ∈ (s.call env a).launches := by
  obtain ⟨i, W, W', spawned, hW, hws, _, hwork⟩ := step_effect h
  rw [hws] at hV
  have hretry : ∀ {j : ScrapeJob} {P : Uuid}, j.parent = some P → j ≠ job := by
    intro j P hP heq
    rw [heq, hparent] at hP
    cases hP
  cases mem_pooled hV with
  | inl hold => exact .inl hold
  | inr hnew =>
    cases hwork with
    | quiet =>
      cases hnew with
      | inl heq => exact .inl (heq ▸ mem_of_getElem?_pool hW)
      | inr hspawned =>
        obtain ⟨j, hj, rfl⟩ := List.mem_map.mp hspawned
        cases hjob
        exact .inr hj
    | remove =>
      cases hnew with
      | inl heq => exact .inl (heq ▸ mem_of_getElem?_pool hW)
      | inr hspawned => cases hspawned
    | arrive =>
      cases hnew with
      | inl heq => exact .inl (heq ▸ mem_of_getElem?_pool hW)
      | inr hspawned =>
        rw [List.mem_singleton.mp hspawned] at hjob
        cases hjob
    | finishRetry r j =>
      cases hnew with
      | inl heq =>
        subst heq
        exact absurd (Option.some.inj hjob) (hretry (retryOf_parent r.logID j))
      | inr hspawned => cases hspawned
    | handOver r rest j l _ hP =>
      cases hnew with
      | inl heq =>
        subst heq
        cases hjob
      | inr hspawned =>
        rw [List.mem_singleton.mp hspawned] at hjob
        exact absurd (Option.some.inj hjob) (hretry hP)
    | _ =>
      cases hnew with
      | inl heq =>
        subst heq
        cases hjob
      | inr hspawned => cases hspawned

theorem firstJobs_insert {job : ScrapeJob} {id key : Uuid} (h : s.Inserts s' job id key) :
    s'.firstJobs u + (Worker.ofJob job).first u = s.firstJobs u := by
  have ht := h.tally (Worker.first u)
  rw [first_mk] at ht
  exact ht

theorem mem_workers_le_firstJobs {job : ScrapeJob} (h : Worker.ofJob job ∈ s.workers)
    (hparent : job.parent = none) : 0 < s.firstJobs job.userID := by
  have hle := le_tally (Worker.first job.userID) h
  rw [first_ofJob, if_pos ⟨rfl, hparent⟩] at hle
  exact hle

theorem idle_of_startsIdle (hok : s.startsIdle env u a = true)
    (hpos : 0 < (s.call env a).launches.countP fun job => job.userID == u) : s.busy u = false := by
  obtain ⟨job, hjob, hu⟩ := List.countP_pos_iff.mp hpos
  have hidle := List.all_eq_true.mp hok job hjob
  simpa [beq_iff_eq.mp hu] using hidle

theorem not_engaged_of_idle (h : s.busy u = false) : s.engaged u = false :=
  (Bool.or_eq_false_iff.mp h).1

theorem firstJobs_of_idle (h : s.busy u = false) : s.firstJobs u = 0 := by
  have hfirst := (Bool.or_eq_false_iff.mp h).2
  have hpos := of_decide_eq_false hfirst
  omega

theorem engaged_of_row {l : ScrapeLog} (hl : l ∈ s.db.scrapeLogs) (hu : l.userID = u)
    (hrun : l.status = .running) : s.engaged u = true := by
  rw [engaged, Bool.or_eq_true, List.any_eq_true]
  exact .inl ⟨l, hl, by simp [hu, hrun]⟩

theorem engaged_of_worker {W : Worker} (hW : W ∈ s.workers) (h : W.serves u = true) :
    s.engaged u = true := by
  rw [engaged, Bool.or_eq_true, List.any_eq_true (p := Worker.serves u)]
  exact .inr ⟨W, hW, h⟩

theorem engaged_of_standing {L : Uuid} {c : LogCore} (h : s.db.standing L = some c)
    (hu : c.userID = u) (hrun : c.isRunning) : s.engaged u = true := by
  obtain ⟨l, hl, rfl⟩ := Option.map_eq_some_iff.mp h
  exact engaged_of_row (DB.mem_of_scrapeLog hl).1 hu hrun

theorem engaged_of_active (hl : Lineage db₀ s) {k : ScrapeLog} (hk : k ∈ s.known db₀)
    (hactive : Lifecycle.Active LogCore.isRunning (s.standing k.id)) :
    s.engaged k.userID = true := by
  have href : ∀ W ∈ s.workers, ∀ r ∈ W.holding ++ W.owing, r.logID = k.id →
      s.engaged k.userID = true := by
    intro W hW r hr hid
    have hmem : r ∈ W.refs := by
      rw [Worker.refs, List.append_assoc]
      exact List.mem_append_right _ hr
    obtain ⟨k', hk', hid', huser, _⟩ := (hl.workers W hW).refs r hmem
    have heq : k' = k := hl.eq_of_id hk' hk (hid'.trans hid)
    subst heq
    exact engaged_of_worker hW (Worker.serves_iff.mpr (.inr ⟨r, hr, huser.symm⟩))
  have hcount : ∀ refs : List LogRef, 0 < countRefs k.id refs → ∃ r ∈ refs, r.logID = k.id := by
    intro refs hpos
    obtain ⟨r, hr, hid⟩ := List.countP_pos_iff.mp hpos
    exact ⟨r, hr, beq_iff_eq.mp hid⟩
  rcases hactive with ⟨l, hrow, hrun⟩ | hpos | hpos
  · obtain ⟨k', hk', hid', huser, _⟩ := hl.row _ _ hrow
    have heq : k' = k := hl.eq_of_id hk' hk hid'
    subst heq
    exact engaged_of_standing hrow huser hrun
  · obtain ⟨W, hW, hWpos⟩ := exists_of_tally_pos (show 0 < tally _ s.workers from hpos)
    obtain ⟨r, hr, hid⟩ := hcount _ hWpos
    exact href W hW r (List.mem_append_left _ hr) hid
  · obtain ⟨W, hW, hWpos⟩ := exists_of_tally_pos (show 0 < tally _ s.workers from hpos)
    by_cases hjob : W.job.bind ScrapeJob.parent = some k.id
    · obtain ⟨job, hj, hparent⟩ := Option.bind_eq_some_iff.mp hjob
      have hfollows := (hl.workers W hW).job job hj
      rw [ScrapeJob.Follows, hparent] at hfollows
      obtain ⟨k', hk', hid', huser, _⟩ := hfollows
      have heq : k' = k := hl.eq_of_id hk' hk hid'
      subst heq
      refine engaged_of_worker hW (Worker.serves_iff.mpr (.inl ⟨job, hj, huser.symm, ?_⟩))
      rw [hparent]
      rfl
    · rw [Worker.owes, if_neg hjob] at hWpos
      obtain ⟨r, hr, hid⟩ := hcount _ hWpos
      exact href W hW r (List.mem_append_right _ hr) hid

end Server
end ScheduleSync
