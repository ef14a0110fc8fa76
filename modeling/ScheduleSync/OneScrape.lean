import ScheduleSync.Busy
import ScheduleSync.Dispositions

/-! One scrape per user at a time. Neither the due query nor a save nor the admin
trigger looks at what is running, and next_scrape_at moves only when a scrape is
over; the property holds in the runs that start nothing for a busy user. -/
namespace ScheduleSync
namespace Server
variable {env : Env} {s s' : Server} {a : Action} {db₀ : DB} {now : Int}

/-- Any two running rows of one user are the same row. -/
def OneRunning (db : DB) : Prop :=
  ∀ l ∈ db.scrapeLogs, ∀ l' ∈ db.scrapeLogs, l.status = .running → l'.status = .running →
    l.userID = l'.userID → l = l'

/-- The step's terminal UPDATE, if it makes one, does not fail. -/
def finishSucceeds (env : Env) (s : Server) (a : Action) : Bool :=
  (s.call env a).finishes.isNone || !(s.call env a).sqlFails

/-- First attempts are only started for idle users, only the sole holder of a log
finishes it, and a container fails to start only while its row is running. -/
def oneAtATime (env : Env) (s : Server) (a : Action) : Bool :=
  s.startsAllIdle env a && s.soleFinisher env a && s.failsRunning env a && s.finishSucceeds env a

abbrev ActiveLog (s : Server) (L : Uuid) : Prop :=
  Lifecycle.Active LogCore.isRunning (s.standing L)

/-- A user has one active log, or one first attempt about to start, or neither. -/
structure Alone (db₀ : DB) (s : Server) : Prop where
  fresh : s.Fresh
  most : ∀ L, Lifecycle.AtMostOnce LogCore.isRunning (s.standing L)
  active : ∀ k ∈ s.known db₀, ∀ k' ∈ s.known db₀, k.userID = k'.userID →
    s.ActiveLog k.id → s.ActiveLog k'.id → k = k'
  first : ∀ u, s.firstJobs u ≤ 1
  idle : ∀ k ∈ s.known db₀, s.ActiveLog k.id → s.firstJobs k.userID = 0

theorem alone_boot (hdb : OneRunning db₀) : Alone db₀ (boot db₀ now) := by
  have hknown : (boot db₀ now).known db₀ = db₀.scrapeLogs.rows := rfl
  have hrunning : ∀ k ∈ (boot db₀ now).known db₀, (boot db₀ now).ActiveLog k.id →
      k.status = .running := by
    intro k hk hactive
    rw [hknown] at hk
    rcases hactive with ⟨l, hl, hrun⟩ | hpos | hpos
    · have hrow : db₀.standing k.id = some k.core := DB.standing_of_mem hk
      have heq : l = k.core := Option.some.inj (hl.symm.trans hrow)
      subst heq
      exact hrun
    · cases hpos
    · cases hpos
  refine ⟨fresh_boot, fun L => Lifecycle.atMostOnce_untouched (db₀.standing L), ?_, ?_, ?_⟩
  · intro k hk k' hk' huser hactive hactive'
    exact hdb k hk k' hk' (hrunning k hk hactive) (hrunning k' hk' hactive') huser
  · intro u
    exact Nat.zero_le _
  · intro k _ _
    rfl

theorem active_parent (hl : Lineage db₀ s) {job : ScrapeJob} (hW : Worker.ofJob job ∈ s.workers)
    {P : Uuid} (hparent : job.parent = some P) :
    ∃ p ∈ s.known db₀, p.id = P ∧ p.userID = job.userID ∧ s.ActiveLog p.id := by
  have hfollows := (hl.workers _ hW).job job rfl
  rw [ScrapeJob.Follows, hparent] at hfollows
  obtain ⟨p, hp, hid, huser, _⟩ := hfollows
  have hle := le_tally (Worker.owes P) hW
  rw [owes_ofJob, if_pos hparent] at hle
  have howes : 0 < s.owers p.id := by
    rw [hid]
    exact hle
  exact ⟨p, hp, hid, huser, .inr (.inr howes)⟩

section Step
variable (hok : s.oneAtATime env a = true) (hl : Lineage db₀ s) (hs : Alone db₀ s)
  (h : s.step env a = some s')
include hok hs h

theorem most_step (L : Uuid) : Lifecycle.AtMostOnce LogCore.isRunning (s'.standing L) := by
  simp only [oneAtATime, Bool.and_eq_true] at hok
  obtain ⟨⟨⟨_, hsole⟩, hfails⟩, hfin⟩ := hok
  refine Lifecycle.step_atMostOnce (standing_step hs.fresh h L) (exclusive_of_soleFinisher hsole L)
    (fun r hmay => isRunning_of_failsRunning hfails hmay) ?_ (hs.most L)
  rintro ⟨hfinishes, hforget⟩
  simp [finishSucceeds, hfinishes, hforget] at hfin

theorem active_before {L : Uuid} (hdrawn : L ∈ s.drawn) (hactive : s'.ActiveLog L) :
    s.ActiveLog L := by
  simp only [oneAtATime, Bool.and_eq_true] at hok
  have hfails := hok.1.2
  cases Lifecycle.step_active (standing_step hs.fresh h L)
    (fun r hmay => isRunning_of_failsRunning hfails hmay) hactive with
  | inl hbefore => exact hbefore
  | inr hnew => exact absurd hdrawn hnew.1

include hl

theorem alone_quiet (hatt : s'.trace.attempts = s.trace.attempts) : Alone db₀ s' := by
  have hknown : s'.known db₀ = s.known db₀ := known_eq hatt
  have hbefore : ∀ k ∈ s'.known db₀, s'.ActiveLog k.id → s.ActiveLog k.id := by
    intro k hk hactive
    rw [hknown] at hk
    exact active_before hok hs h (hl.drawn k hk) hactive
  have hstarts : s.startsAllIdle env a = true := by
    simp only [oneAtATime, Bool.and_eq_true] at hok
    exact hok.1.1.1
  have hlaunch : ∀ u, (0 < (s.call env a).launches.countP fun job => job.userID == u) →
      s.firstJobs u = 0 := fun u hpos => firstJobs_of_idle (idle_of_startsIdle (startsIdle_of_all hstarts _) hpos)
  refine ⟨fresh_step hs.fresh h, most_step hok hs h, ?_, ?_, ?_⟩
  · intro k hk k' hk' huser hactive hactive'
    have h₁ := hbefore k hk hactive
    have h₂ := hbefore k' hk' hactive'
    rw [hknown] at hk hk'
    exact hs.active k hk k' hk' huser h₁ h₂
  · intro u
    have hle := firstJobs_step (u := u) h
    have hone := countP_launches_le_one env s a u
    have hfirst := hs.first u
    have hzero := hlaunch u
    omega
  · intro k hk hactive
    have hact := hbefore k hk hactive
    rw [hknown] at hk
    have hle := firstJobs_step (u := k.userID) h
    have hengaged := engaged_of_active hl hk hact
    have hnone : ((s.call env a).launches.countP fun job => job.userID == k.userID) = 0 := by
      by_contra hpos
      have hidle := idle_of_startsIdle (startsIdle_of_all hstarts _) (Nat.pos_of_ne_zero hpos)
      rw [not_engaged_of_idle hidle] at hengaged
      cases hengaged
    have hfirst := hs.idle k hk hact
    omega

/-- What retries a log settles it, and what retries nothing was the user's one first
attempt: either way no other log of the user is active. -/
theorem alone_insert {job : ScrapeJob} {id key : Uuid} (hins : s.Inserts s' job id key) :
    Alone db₀ s' := by
  have hmost := most_step hok hs h
  have hbefore : ∀ k ∈ s.known db₀, s'.ActiveLog k.id → s.ActiveLog k.id :=
    fun k hk hactive => active_before hok hs h (hl.drawn k hk) hactive
  have hfirst : ∀ u, s'.firstJobs u + (Worker.ofJob job).first u = s.firstJobs u :=
    fun u => firstJobs_insert hins
  have hother : ∀ k ∈ s.known db₀, k.userID = job.userID → ¬ s'.ActiveLog k.id := by
    intro k hk huser hactive
    have hact := hbefore k hk hactive
    cases hparent : job.parent with
    | none =>
      have hpos := mem_workers_le_firstJobs hins.worker hparent
      have hzero := hs.idle k hk hact
      rw [huser] at hzero
      omega
    | some P =>
      obtain ⟨p, hp, hid, hpuser, howes⟩ := active_parent hl hins.worker hparent
      have heq : k = p := hs.active k hk p hp (huser.trans hpuser.symm) hact howes
      subst heq
      have hsettled : 0 < s'.settled P := by
        rw [settled, hins.attempts, List.countP_cons]
        simp [hparent]
      rw [hid] at hactive
      exact Lifecycle.inactive_of_settled (hmost P) hsettled hactive
  refine ⟨fresh_step hs.fresh h, hmost, ?_, ?_, ?_⟩
  · intro k hk k' hk' huser hactive hactive'
    rw [hins.known] at hk hk'
    rcases List.mem_cons.mp hk with rfl | hk
    · rcases List.mem_cons.mp hk' with rfl | hk'
      · rfl
      · exact absurd hactive' (hother k' hk' huser.symm)
    · rcases List.mem_cons.mp hk' with rfl | hk'
      · exact absurd hactive (hother k hk huser)
      · exact hs.active k hk k' hk' huser (hbefore k hk hactive) (hbefore k' hk' hactive')
  · intro u
    have hone := hs.first u
    have hu := hfirst u
    omega
  · intro k hk hactive
    rw [hins.known] at hk
    have hu := hfirst k.userID
    rcases List.mem_cons.mp hk with rfl | hk
    · cases hparent : job.parent with
      | none =>
        have hone := hs.first job.userID
        have hu' := hfirst job.userID
        rw [first_ofJob, if_pos ⟨rfl, hparent⟩] at hu'
        show s'.firstJobs job.userID = 0
        omega
      | some P =>
        obtain ⟨p, hp, hid, hpuser, howes⟩ := active_parent hl hins.worker hparent
        have hzero := hs.idle p hp howes
        have hu' := hfirst job.userID
        rw [hpuser] at hzero
        show s'.firstJobs job.userID = 0
        omega
    · have hzero := hs.idle k hk (hbefore k hk hactive)
      omega

theorem alone_step : Alone db₀ s' := by
  cases attempts_step h with
  | inl hatt => exact alone_quiet hok hl hs h hatt
  | inr hins =>
    obtain ⟨job, id, key, hins⟩ := hins
    exact alone_insert hok hl hs h hins

end Step

theorem one_running (hdb : OneRunning db₀)
    (h : Reaches (step env) (oneAtATime env) (boot db₀ now) s) : OneRunning s.db := by
  have hboth : Lineage db₀ s ∧ Alone db₀ s := by
    refine h.invariant (I := fun s => Lineage db₀ s ∧ Alone db₀ s)
      ⟨lineage_boot, alone_boot hdb⟩ ?_
    intro s a s' hok hs ha
    exact ⟨lineage_step hs.1 ha, alone_step hok hs.1 hs.2 ha⟩
  obtain ⟨hl, hs⟩ := hboth
  intro l hmem l' hmem' hrun hrun' huser
  obtain ⟨k, hk, hid, hkuser, _⟩ := hl.row l.id l.core (DB.standing_of_mem hmem)
  obtain ⟨k', hk', hid', hkuser', _⟩ := hl.row l'.id l'.core (DB.standing_of_mem hmem')
  have hactive : s.ActiveLog k.id := .inl ⟨l.core, hid ▸ DB.standing_of_mem hmem, hrun⟩
  have hactive' : s.ActiveLog k'.id := .inl ⟨l'.core, hid' ▸ DB.standing_of_mem hmem', hrun'⟩
  have hsame : k.userID = k'.userID := hkuser.symm.trans (huser.trans hkuser')
  have heq := hs.active k hk k' hk' hsame hactive hactive'
  exact Table.eq_of_clash hmem hmem' (.inl (hid.symm.trans ((congrArg ScrapeLog.id heq).trans hid')))

theorem oneRunning_sampleDB : OneRunning sampleDB := by
  intro l hl
  cases hl

theorem one_running_retried :
    OneRunning (after (step sampleEnv) (oneAtATime sampleEnv) (boot sampleDB 0) retriedReport).db :=
  one_running oneRunning_sampleDB (reaches_after (by decide +kernel))

def secondPoll : List Action :=
  firstPoll ++ launch 0 "log1" "key1" "c1" ++
    List.replicate 3 (.schedule {}) ++ [.advance pollInterval.toNat, .schedule {}, .schedule {},
      .run 1 {}, .run 1 { uuid := "log2", key := "key2" }]

theorem two_running :
    ∃ s, Reaches (step sampleEnv) untriggered (boot sampleDB 0) s ∧ OneRunning sampleDB ∧
      ¬ OneRunning s.db := by
  refine ⟨after (step sampleEnv) untriggered (boot sampleDB 0) secondPoll,
    reaches_after (by decide +kernel), oneRunning_sampleDB, ?_⟩
  intro h
  have hrows : ∃ l l', (after (step sampleEnv) untriggered (boot sampleDB 0) secondPoll).db.scrapeLogs.rows =
      [l, l'] ∧ l.status = .running ∧ l'.status = .running ∧ l.userID = l'.userID ∧ l.id ≠ l'.id :=
    ⟨_, _, rfl, by decide +kernel⟩
  obtain ⟨l, l', hrows, hrun, hrun', huser, hne⟩ := hrows
  have hl : l ∈ (after (step sampleEnv) untriggered (boot sampleDB 0) secondPoll).db.scrapeLogs := by
    rw [Table.mem_def, hrows]
    simp
  have hl' : l' ∈ (after (step sampleEnv) untriggered (boot sampleDB 0) secondPoll).db.scrapeLogs := by
    rw [Table.mem_def, hrows]
    simp
  exact hne (congrArg ScrapeLog.id (h l hl l' hl' hrun hrun' huser))

end Server
end ScheduleSync
