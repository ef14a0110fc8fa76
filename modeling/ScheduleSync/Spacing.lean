import ScheduleSync.Busy
import ScheduleSync.FinishedLogs
import ScheduleSync.OneScrape

/-! Automatic scrapes at least 16 hours apart. next_scrape_at moves only in
ScheduleNext, when an attempt and its retries are over; until then the user is
due at every poll. The spacing holds where the due query passes busy users by. -/
namespace ScheduleSync
def Attempt.firstAuto (u : Uuid) (att : Attempt) : Prop :=
  att.log.userID = u ∧ att.log.isAuto = 1 ∧ att.log.retryCount = 0

namespace Server
variable {env : Env} {s s' : Server} {a : Action} {db₀ : DB} {now : Int} {u : Uuid}

/-- Any two automatic first attempts of `u` start at least minScrapeInterval apart. -/
def Spaced (u : Uuid) (s : Server) : Prop :=
  ∀ att ∈ s.trace.attempts, ∀ att' ∈ s.trace.attempts, Attempt.firstAuto u att →
    Attempt.firstAuto u att' → att ≠ att' →
    att.log.startedAt + unix minScrapeInterval ≤ att'.log.startedAt ∨
      att'.log.startedAt + unix minScrapeInterval ≤ att.log.startedAt

theorem unix_minScrapeInterval : unix minScrapeInterval = 16 * 3600 := by decide

/-- `u` saves no credentials, and keeps the account. -/
def leftAlone (env : Env) (u : Uuid) (s : Server) (a : Action) : Bool :=
  (s.call env a).saves != some u && (s.call env a).deletes != some u

/-- The INSERT of a retry of `u` and the UPDATE of ScheduleNext for `u` do not fail. -/
def writesSucceed (env : Env) (u : Uuid) (s : Server) (a : Action) : Bool :=
  ((s.call env a).failsInsert.all fun job => job.userID != u || job.parent.isNone) &&
    ((s.call env a).schedulesNext != some u || !(s.call env a).sqlFails)

def spacesOut (env : Env) (u : Uuid) (s : Server) (a : Action) : Bool :=
  s.leftAlone env u a && s.writesSucceed env u a && s.startsIdle env u a

def NextAfter (u : Uuid) (s : Server) (t : Int) : Prop :=
  ∀ r ∈ s.db.scrapeSchedule, r.userID = u → t + 16 * 3600 ≤ r.nextScrapeAt

section Step
variable (hok : s.spacesOut env u a = true) (h : s.step env a = some s')
include hok h

theorem engaged_step_row (hl : Lineage db₀ s) {l : ScrapeLog} (hmem : l ∈ s.db.scrapeLogs) (hu : l.userID = u)
    (hrun : l.status = .running) : s'.engaged u = true := by
  obtain ⟨i, W, W', spawned, hW, hws, _, hwork⟩ := step_effect h
  have hrow := DB.standing_of_mem hmem
  have hself : W' ∈ s'.workers := by
    rw [hws]
    exact mem_pooled_self hW
  have hsame : s'.db.standing l.id = s.db.standing l.id → s'.engaged u = true :=
    fun heq => engaged_of_standing (heq.trans hrow) hu hrun
  have hdel : (s.call env a).deletes ≠ some u := by
    simp only [spacesOut, leftAlone, Bool.and_eq_true, bne_iff_ne] at hok
    exact hok.1.1.2
  have huser : ∀ r ∈ W.refs, r.logID = l.id → r.userID = u := by
    intro r hr hid
    obtain ⟨k, hk, hkid, hkuser, _⟩ := (hl.workers W (mem_of_getElem?_pool hW)).refs r hr
    obtain ⟨k', hk', hkid', hkuser', _⟩ := hl.row _ _ hrow
    have heq : k = k' := hl.eq_of_id hk hk' (hkid.trans (hid.trans hkid'.symm))
    subst heq
    exact hkuser.symm.trans (hkuser'.symm.trans hu)
  cases hwork with
  | remove _ hrow' =>
    cases hrow' l.id with
    | inl heq => exact hsame heq
    | inr hgone =>
      cases hgone.2 l.core hrow with
      | inl hd => exact absurd (hd.trans (congrArg some hu)) hdel
      | inr hret =>
        obtain ⟨t, stmt, _, hrem⟩ := hret
        have hcore : l.core.status = .running := hrun
        cases stmt <;> simp [RetentionStatement.removes, hcore] at hrem
  | insert job id key hnew _ hrow' =>
    have hne : l.id ≠ id := by
      intro heq
      obtain ⟨k, hk, hkid, _⟩ := hl.row _ _ hrow
      exact hnew (heq ▸ hkid ▸ hl.drawn k hk)
    exact hsame ((hrow' l.id).trans (if_neg hne))
  | finish r rest hfin =>
    by_cases hid : l.id = r.logID
    · refine engaged_of_worker hself (Worker.serves_iff.mpr (.inr ⟨r, by simp, ?_⟩))
      exact huser r (by simp [Worker.refs]) hid.symm
    · exact hsame ((finish_step hfin).1 hid)
  | finishRetry r job hfin _ hjuser =>
    by_cases hid : l.id = r.logID
    · refine engaged_of_worker hself (Worker.serves_iff.mpr (.inl ⟨_, rfl, ?_, rfl⟩))
      have hr := huser r (by simp [Worker.refs]) hid.symm
      exact hjuser.trans hr
    · exact hsame ((finish_step hfin).1 hid)
  | settle r rest hrow' => exact hsame (hrow' l.id)
  | quiet _ hq | arrive _ hq | check _ hq | insertFails _ hq | launched _ hq | launchFails _ hq
  | handOver _ _ _ _ hq => exact hsame (hq.row l.id)

theorem engaged_step_worker {V : Worker} (hV : V ∈ s.workers) (hserves : V.serves u = true) :
    s'.engaged u = true ∨ NextAfter u s' (unix s.now) := by
  obtain ⟨i, W, W', spawned, hW, hws, _, hwork⟩ := step_effect h
  simp only [spacesOut, writesSucceed, Bool.and_eq_true] at hok
  obtain ⟨⟨_, hinsert, hnext⟩, _⟩ := hok
  have hself : W'.serves u = true → s'.engaged u = true := by
    intro hs
    refine engaged_of_worker ?_ hs
    rw [hws]
    exact mem_pooled_self hW
  cases mem_pooled_of_mem hW hV W' spawned with
  | inr hmem =>
    left
    refine engaged_of_worker ?_ hserves
    rw [hws]
    exact hmem
  | inl heq =>
    subst heq
    cases hwork with
    | quiet | arrive | remove => exact .inl (hself hserves)
    | check | launched | launchFails => simp [Worker.serves] at hserves
    | insert job id key _ _ hrow =>
      left
      obtain ⟨hu, _⟩ : job.userID = u ∧ job.parent.isSome = true := by
        simpa [Worker.serves, Worker.ofJob] using hserves
      exact engaged_of_standing ((hrow id).trans (if_pos rfl)) hu rfl
    | insertFails job _ hcall =>
      obtain ⟨hu, hparent⟩ : job.userID = u ∧ job.parent.isSome = true := by
        simpa [Worker.serves, Worker.ofJob] using hserves
      rw [hcall] at hinsert
      simp [hu, Option.isNone_iff_eq_none, Option.isSome_iff_ne_none.mp hparent] at hinsert
    | finish r rest =>
      left
      apply hself
      rw [Worker.serves_iff] at hserves ⊢
      simpa [or_comm] using hserves
    | finishRetry r job _ _ huser =>
      left
      have hu : r.userID = u := by simpa [Worker.serves] using hserves
      exact hself (Worker.serves_iff.mpr (.inl ⟨_, rfl, huser.trans hu, rfl⟩))
    | handOver r rest job l _ hparent huser =>
      left
      rw [Worker.serves_iff] at hserves
      obtain ⟨j, hj, _⟩ | ⟨x, hx, hu⟩ := hserves
      · cases hj
      · cases List.mem_append.mp hx with
        | inl hx => exact hself (Worker.serves_iff.mpr (.inr ⟨x, by simp [hx], hu⟩))
        | inr hx =>
          rw [List.mem_singleton.mp hx] at hu
          refine engaged_of_worker (W := .ofJob job) ?_ ?_
          · rw [hws]
            exact mem_pooled_spawned List.mem_cons_self
          · exact Worker.serves_iff.mpr (.inl ⟨job, rfl, huser.trans hu, by rw [hparent]; rfl⟩)
    | settle r rest _ _ _ hcall hrows =>
      rw [Worker.serves_iff] at hserves
      obtain ⟨j, hj, _⟩ | ⟨x, hx, hu⟩ := hserves
      · cases hj
      · cases List.mem_append.mp hx with
        | inl hx => exact .inl (hself (Worker.serves_iff.mpr (.inr ⟨x, by simp [hx], hu⟩)))
        | inr hx =>
          right
          rw [List.mem_singleton.mp hx] at hu
          rw [hcall, hu] at hnext
          intro y hy hyu
          exact hrows (by simpa using hnext) y hy (hyu.trans hu.symm)

theorem engaged_step (hl : Lineage db₀ s) (hengaged : s.engaged u = true) :
    s'.engaged u = true ∨ NextAfter u s' (unix s.now) := by
  rw [engaged, Bool.or_eq_true, List.any_eq_true, List.any_eq_true (p := Worker.serves u)] at hengaged
  cases hengaged with
  | inl hrow =>
    obtain ⟨l, hmem, hp⟩ := hrow
    simp only [Bool.and_eq_true, beq_iff_eq] at hp
    exact .inl (engaged_step_row hok h hl hmem hp.1 hp.2)
  | inr hworker =>
    obtain ⟨V, hV, hserves⟩ := hworker
    exact engaged_step_worker hok h hV hserves

theorem nextAfter_step {t : Int} (ht : t ≤ unix s.now) (hnext : NextAfter u s t) :
    NextAfter u s' t := by
  obtain ⟨_, _, _, _, _, _, hframe, _⟩ := step_effect h
  intro r hr hu
  cases hframe.schedule r hr with
  | inl hold => exact hnext r hold hu
  | inr hwritten =>
    cases hwritten with
    | inl hsave =>
      simp only [spacesOut, leftAlone, Bool.and_eq_true, bne_iff_ne] at hok
      exact absurd (hsave.trans (congrArg some hu)) hok.1.1.1
    | inr hsched =>
      have := hsched.2
      omega

end Step

/-- Attempts of `u` are over and rescheduled or keep `u` engaged, and the automatic first
attempt about to start is late enough for all before it. -/
structure Paced (u : Uuid) (s : Server) : Prop where
  past : ∀ att ∈ s.trace.attempts, att.log.startedAt ≤ unix s.now
  paced : ∀ att ∈ s.trace.attempts, att.log.userID = u →
    NextAfter u s att.log.startedAt ∨ s.engaged u = true
  first : s.firstJobs u ≤ 1
  pending : ∀ W ∈ s.workers, ∀ job, W.job = some job → job.userID = u → job.parent = none →
    job.isAuto = true → ∀ att ∈ s.trace.attempts, Attempt.firstAuto u att →
      att.log.startedAt + 16 * 3600 ≤ unix s.now
  spaced : Spaced u s

theorem paced_boot : Paced u (boot db₀ now) := by
  refine ⟨?_, ?_, Nat.zero_le _, ?_, ?_⟩
  · intro att hatt
    cases hatt
  · intro att hatt
    cases hatt
  · intro W _ job _ _ _ _ att hatt
    cases hatt
  · intro att hatt
    cases hatt

section Step
variable (hok : s.spacesOut env u a = true) (hs : Paced u s)

include hok hs

theorem paced_old (hl : Lineage db₀ s) (h : s.step env a = some s') {att : Attempt}
    (hatt : att ∈ s.trace.attempts) (hu : att.log.userID = u) :
    NextAfter u s' att.log.startedAt ∨ s'.engaged u = true := by
  have hpast := hs.past att hatt
  cases hs.paced att hatt hu with
  | inl hnext => exact .inl (nextAfter_step hok h hpast hnext)
  | inr hengaged =>
    cases engaged_step hok h hl hengaged with
    | inl hb => exact .inr hb
    | inr hnext =>
      left
      intro r hr hru
      have := hnext r hr hru
      omega

theorem first_le_one (h : s.step env a = some s') : s'.firstJobs u ≤ 1 := by
  simp only [spacesOut, Bool.and_eq_true] at hok
  have hle := firstJobs_step (u := u) h
  have hone := countP_launches_le_one env s a u
  have hfirst := hs.first
  by_cases hpos : 0 < (s.call env a).launches.countP fun job => job.userID == u
  · have hzero := firstJobs_of_idle (idle_of_startsIdle hok.2 hpos)
    omega
  · omega

theorem pending_started {job : ScrapeJob} (hjob : job ∈ (s.call env a).launches)
    (hu : job.userID = u) (hauto : job.isAuto = true) {att : Attempt}
    (hatt : att ∈ s.trace.attempts) (hatu : att.log.userID = u) :
    att.log.startedAt + 16 * 3600 ≤ unix s.now := by
  simp only [spacesOut, Bool.and_eq_true] at hok
  have hpos : 0 < (s.call env a).launches.countP fun j => j.userID == u :=
    List.countP_pos_iff.mpr ⟨job, hjob, by simp [hu]⟩
  have hidle := idle_of_startsIdle hok.2 hpos
  obtain ⟨r, hr, hru, hdue⟩ := call_launches_due hjob hauto
  cases hs.paced att hatt hatu with
  | inl hnext =>
    have := hnext r hr (hru.trans hu)
    omega
  | inr hengaged =>
    rw [not_engaged_of_idle hidle] at hengaged
    cases hengaged

theorem pending_step (hl : Lineage db₀ s) (h : s.step env a = some s') {W : Worker}
    (hW : W ∈ s'.workers) {job : ScrapeJob} (hjob : W.job = some job) (hu : job.userID = u)
    (hparent : job.parent = none) (hauto : job.isAuto = true) {att : Attempt}
    (hatt : att ∈ s'.trace.attempts) (hfirst : Attempt.firstAuto u att) :
    att.log.startedAt + 16 * 3600 ≤ unix s'.now := by
  have hnow := now_step h
  have hold : att ∈ s.trace.attempts → att.log.startedAt + 16 * 3600 ≤ unix s'.now := by
    intro hmem
    cases first_origin h hW hjob hparent with
    | inl hbefore =>
      have := hs.pending W hbefore job hjob hu hparent hauto att hmem hfirst
      omega
    | inr hstarted =>
      have := pending_started hok hs hstarted hu hauto hmem hfirst.1
      omega
  cases attempts_step h with
  | inl heq =>
    rw [heq] at hatt
    exact hold hatt
  | inr hinserts =>
    obtain ⟨j, id, key, hins⟩ := hinserts
    rw [hins.attempts] at hatt
    cases List.mem_cons.mp hatt with
    | inr hmem => exact hold hmem
    | inl heq =>
      -- the inserted attempt and the waiting one would be two first attempts of `u`
      subst heq
      obtain ⟨hju, _, hjcount⟩ := hfirst
      have hjparent : j.parent = none := parent_of_retryCount hl hins.worker hjcount
      have hcount := firstJobs_insert (u := u) hins
      rw [first_ofJob, if_pos ⟨hju, hjparent⟩] at hcount
      have hwaits : 0 < s'.firstJobs u := by
        have hle := le_tally (Worker.first u) hW
        have hone : W.first u = 1 := by
          simp [Worker.first, hjob, hu, hparent]
        rw [hone] at hle
        exact hle
      have hone := hs.first
      omega

omit hok in
theorem spaced_step (hl : Lineage db₀ s) (h : s.step env a = some s') : Spaced u s' := by
  cases attempts_step h with
  | inl heq =>
    intro att hatt att' hatt'
    rw [heq] at hatt hatt'
    exact hs.spaced att hatt att' hatt'
  | inr hinserts =>
    obtain ⟨j, id, key, hins⟩ := hinserts
    have hnew : ∀ att ∈ s.trace.attempts, Attempt.firstAuto u att →
        Attempt.firstAuto u ⟨j.newLog id key (unix s.now), j.parent⟩ →
        att.log.startedAt + unix minScrapeInterval ≤ unix s.now := by
      intro att hatt hfirst hjfirst
      obtain ⟨hju, hjauto, hjcount⟩ := hjfirst
      have hjparent := parent_of_retryCount hl hins.worker hjcount
      have hauto : j.isAuto = true := by
        cases hb : j.isAuto with
        | true => rfl
        | false => simp [ScrapeJob.newLog, boolToInt, hb] at hjauto
      rw [unix_minScrapeInterval]
      exact hs.pending _ hins.worker j rfl hju hjparent hauto att hatt hfirst
    intro att hatt att' hatt' hfirst hfirst' hne
    rw [hins.attempts] at hatt hatt'
    cases List.mem_cons.mp hatt with
    | inl heq =>
      subst heq
      cases List.mem_cons.mp hatt' with
      | inl heq' => exact absurd heq'.symm hne
      | inr hmem' => exact .inr (hnew att' hmem' hfirst' hfirst)
    | inr hmem =>
      cases List.mem_cons.mp hatt' with
      | inl heq' =>
        subst heq'
        exact .inl (hnew att hmem hfirst hfirst')
      | inr hmem' => exact hs.spaced att hmem att' hmem' hfirst hfirst' hne

theorem paced_step (hl : Lineage db₀ s) (h : s.step env a = some s') : Paced u s' := by
  have hnow := now_step h
  refine ⟨?_, ?_, first_le_one hok hs h, ?_, spaced_step hs hl h⟩
  · intro att hatt
    cases attempts_step h with
    | inl heq =>
      rw [heq] at hatt
      exact (hs.past att hatt).trans hnow
    | inr hinserts =>
      obtain ⟨j, id, key, hins⟩ := hinserts
      rw [hins.attempts] at hatt
      cases List.mem_cons.mp hatt with
      | inl heq => rw [heq]; exact hnow
      | inr hmem => exact (hs.past att hmem).trans hnow
  · intro att hatt hu
    cases attempts_step h with
    | inl heq =>
      rw [heq] at hatt
      exact paced_old hok hs hl h hatt hu
    | inr hinserts =>
      obtain ⟨j, id, key, hins⟩ := hinserts
      rw [hins.attempts] at hatt
      cases List.mem_cons.mp hatt with
      | inl heq =>
        right
        rw [heq] at hu
        exact engaged_of_standing hins.row hu rfl
      | inr hmem => exact paced_old hok hs hl h hmem hu
  · intro W hW job hjob hu hparent hauto att hatt hfirst
    exact pending_step hok hs hl h hW hjob hu hparent hauto hatt hfirst

end Step

theorem spaced_of_reaches (h : Reaches (step env) (spacesOut env u) (boot db₀ now) s) :
    Spaced u s := by
  have hboth : Lineage db₀ s ∧ Paced u s := by
    refine h.invariant (I := fun s => Lineage db₀ s ∧ Paced u s) ⟨lineage_boot, paced_boot⟩ ?_
    intro s a s' hok hs ha
    exact ⟨lineage_step hs.1 ha, paced_step hok hs.2 hs.1 ha⟩
  exact hboth.2.spaced

def nextDay : List Action :=
  soloReport 0 "log1" "key1" ++ List.replicate 3 (.schedule {}) ++
    [.advance (25 * (60 * 60 * 1000000000)), .schedule {}, .schedule {},
      .run 2 {}, .run 2 { uuid := "log2", key := "key2" }]

theorem spaced_next_day :
    Spaced "u1" (after (step sampleEnv) (spacesOut sampleEnv "u1") (boot sampleDB 0) nextDay) :=
  spaced_of_reaches (reaches_after (by decide +kernel))

/-- `u` is left alone, and no administrator asks for a scrape. -/
def onlyScheduled (env : Env) (u : Uuid) (s : Server) (a : Action) : Bool :=
  s.leftAlone env u a && s.untriggered a

/-- Polls a minute apart start two automatic first attempts a minute apart. -/
theorem spaced_one_minute :
    ∃ s, Reaches (step sampleEnv) (onlyScheduled sampleEnv "u1") (boot sampleDB 0) s ∧
      ¬ Spaced "u1" s := by
  refine ⟨after (step sampleEnv) (onlyScheduled sampleEnv "u1") (boot sampleDB 0) secondPoll,
    reaches_after (by decide +kernel), ?_⟩
  intro h
  have hrows : ∃ att att', (after (step sampleEnv) (onlyScheduled sampleEnv "u1")
      (boot sampleDB 0) secondPoll).trace.attempts = [att, att'] ∧
      (att.log.userID = "u1" ∧ att.log.isAuto = 1 ∧ att.log.retryCount = 0) ∧
      (att'.log.userID = "u1" ∧ att'.log.isAuto = 1 ∧ att'.log.retryCount = 0) ∧ att ≠ att' ∧
      att.log.startedAt = 60 ∧ att'.log.startedAt = 0 :=
    ⟨_, _, rfl, by decide +kernel⟩
  obtain ⟨att, att', hatts, hfirst, hfirst', hne, hstart, hstart'⟩ := hrows
  have hspaced := h att (by rw [hatts]; simp) att' (by rw [hatts]; simp) hfirst hfirst' hne
  rw [unix_minScrapeInterval] at hspaced
  omega

end Server
end ScheduleSync
