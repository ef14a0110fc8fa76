import ScheduleSync.Standing

/-! Who descends from whom. Every log of a run is known by the attempt that
inserted it; rows, handlers and retries agree with that attempt on the user, the
retry count and the automatic flag, in every run and without any condition. -/
namespace ScheduleSync

section Known
variable {known known' : List ScrapeLog}

def Succeeds (known : List ScrapeLog) (parent : Option Uuid) (userID : Uuid)
    (retryCount isAuto : Nat) : Prop :=
  match parent with
  | none => retryCount = 0
  | some P => ∃ k ∈ known, k.id = P ∧ k.userID = userID ∧ k.isAuto = 1 ∧
      k.retryCount < maxRetries ∧ retryCount = k.retryCount + 1 ∧ isAuto = 1

theorem Succeeds.mono (hsub : ∀ k ∈ known, k ∈ known') {parent : Option Uuid} {userID : Uuid}
    {retryCount isAuto : Nat} (h : Succeeds known parent userID retryCount isAuto) :
    Succeeds known' parent userID retryCount isAuto := by
  cases parent with
  | none => exact h
  | some P =>
    obtain ⟨k, hk, hrest⟩ := h
    exact ⟨k, hsub k hk, hrest⟩

def LogRef.Knows (known : List ScrapeLog) (r : LogRef) : Prop :=
  ∃ k ∈ known, k.id = r.logID ∧ k.userID = r.userID ∧
    ∀ job, r.job = some job → k.retryCount = job.retryCount ∧ k.isAuto = boolToInt job.isAuto

def ScrapeJob.Follows (known : List ScrapeLog) (job : ScrapeJob) : Prop :=
  Succeeds known job.parent job.userID job.retryCount (boolToInt job.isAuto)

def Worker.refs (W : Worker) : List LogRef := W.launching ++ W.holding ++ W.owing

structure Worker.Lawful (known : List ScrapeLog) (W : Worker) : Prop where
  refs : ∀ r ∈ W.refs, r.Knows known
  job : ∀ job, W.job = some job → job.Follows known

theorem Worker.Lawful.mono (hsub : ∀ k ∈ known, k ∈ known') {W : Worker} (h : W.Lawful known) :
    W.Lawful known' := by
  refine ⟨?_, fun job hjob => (h.job job hjob).mono hsub⟩
  intro r hr
  obtain ⟨k, hk, hrest⟩ := h.refs r hr
  exact ⟨k, hsub k hk, hrest⟩

theorem lawful_idle : Worker.Lawful known {} := by
  refine ⟨?_, ?_⟩
  · intro r hr
    cases hr
  · intro job hjob
    cases hjob

theorem lawful_ofJob {job : ScrapeJob} (h : job.Follows known) :
    (Worker.ofJob job).Lawful known := by
  refine ⟨?_, ?_⟩
  · intro r hr
    cases hr
  · intro j hj
    cases hj
    exact h

theorem lawful_of_refs {W W' : Worker} (h : W.Lawful known) (hjob : W'.job = none)
    (hrefs : ∀ r ∈ W'.refs, r ∈ W.refs) : W'.Lawful known := by
  refine ⟨fun r hr => h.refs r (hrefs r hr), ?_⟩
  intro job hj
  rw [hjob] at hj
  cases hj

end Known

namespace Server
variable {env : Env} {s s' : Server} {a : Action} {db₀ : DB} {now : Int}

/-- Every scrape log there has been: the rows at the start and the attempts since. -/
def known (db₀ : DB) (s : Server) : List ScrapeLog :=
  s.trace.attempts.map Attempt.log ++ db₀.scrapeLogs.rows

structure Lineage (db₀ : DB) (s : Server) : Prop where
  ids : ((s.known db₀).map ScrapeLog.id).Nodup
  drawn : ∀ k ∈ s.known db₀, k.id ∈ s.drawn
  row : ∀ L l, s.db.standing L = some l → ∃ k ∈ s.known db₀, k.id = L ∧ l.userID = k.userID ∧
    l.retryCount = k.retryCount ∧ l.isAuto = k.isAuto
  workers : ∀ W ∈ s.workers, W.Lawful (s.known db₀)
  child : ∀ att ∈ s.trace.attempts,
    Succeeds (s.known db₀) att.parent att.log.userID att.log.retryCount att.log.isAuto

theorem lineage_boot : Lineage db₀ (boot db₀ now) := by
  have hknown : (boot db₀ now).known db₀ = db₀.scrapeLogs.rows := rfl
  refine ⟨?_, ?_, ?_, ?_, ?_⟩
  · rw [hknown]
    refine List.pairwise_map.mpr (db₀.scrapeLogs.unique.imp ?_)
    exact fun hab heq => hab (.inl heq)
  · intro k hk
    rw [hknown] at hk
    have hmem : k.id ∈ db₀.scrapeLogs.rows.map ScrapeLog.id := List.mem_map_of_mem hk
    simp [boot, World.boot, DB.drawn, hmem]
  · intro L l hl
    obtain ⟨k, hk, rfl⟩ := Option.map_eq_some_iff.mp hl
    obtain ⟨hmem, hid⟩ := DB.mem_of_scrapeLog hk
    exact ⟨k, hmem, hid, rfl, rfl, rfl⟩
  · intro W hW
    rw [List.mem_singleton.mp hW]
    exact lawful_idle
  · intro att hatt
    cases hatt

theorem Lineage.eq_of_id (h : Lineage db₀ s) {k k' : ScrapeLog} (hk : k ∈ s.known db₀)
    (hk' : k' ∈ s.known db₀) (hid : k.id = k'.id) : k = k' :=
  List.inj_on_of_nodup_map h.ids hk hk' hid

theorem known_eq (hatt : s'.trace.attempts = s.trace.attempts) : s'.known db₀ = s.known db₀ := by
  rw [known, hatt, known]

theorem row_step (h : s.step env a = some s') {L : Uuid} {l' : LogCore}
    (hl' : s'.db.standing L = some l') :
    (∃ l, s.db.standing L = some l ∧ l'.userID = l.userID ∧ l'.retryCount = l.retryCount ∧
      l'.isAuto = l.isAuto) ∨
    ∃ att ∈ s'.trace.attempts, att.log.id = L ∧ l' = att.log.core := by
  obtain ⟨_, _, _, _, _, _, _, hwork⟩ := step_effect h
  have hsame : s'.db.standing L = s.db.standing L →
      ∃ l, s.db.standing L = some l ∧ l'.userID = l.userID ∧ l'.retryCount = l.retryCount ∧
        l'.isAuto = l.isAuto := by
    intro heq
    exact ⟨l', heq ▸ hl', rfl, rfl, rfl⟩
  cases hwork with
  | remove _ hrow =>
    cases hrow L with
    | inl heq => exact .inl (hsame heq)
    | inr hgone =>
      rw [hgone.1] at hl'
      cases hl'
  | insert job id key _ _ hrow hatt =>
    by_cases hL : L = id
    · rw [hrow, if_pos hL] at hl'
      cases hl'
      right
      refine ⟨⟨job.newLog id key (unix s.now), job.parent⟩, ?_, hL.symm, rfl⟩
      rw [hatt]
      exact List.mem_cons_self
    · rw [hrow, if_neg hL] at hl'
      exact .inl ⟨l', hl', rfl, rfl, rfl⟩
  | finish r rest hfin | finishRetry r job hfin =>
    left
    rcases hfin.row with ⟨v, hrow⟩ | ⟨_, hrow⟩
    · rw [hrow] at hl'
      split at hl'
      · obtain ⟨l, hl, rfl⟩ := Option.map_eq_some_iff.mp hl'
        exact ⟨l, hl, by simp, by simp, by simp⟩
      · exact ⟨l', hl', rfl, rfl, rfl⟩
    · exact hsame (hrow L)
  | settle r rest hrow => exact .inl (hsame (hrow L))
  | quiet _ hq | arrive _ hq | check _ hq | insertFails _ hq | launched _ hq | launchFails _ hq
  | handOver _ _ _ _ hq => exact .inl (hsame (hq.row L))

/-- The step inserts the log `id` of the attempt `job`. -/
structure Inserts (s s' : Server) (job : ScrapeJob) (id key : Uuid) : Prop where
  fresh : id ∉ s.drawn
  drawn : id ∈ s'.drawn
  row : s'.db.standing id = some (job.newLog id key (unix s.now)).core
  attempts : s'.trace.attempts =
    ⟨job.newLog id key (unix s.now), job.parent⟩ :: s.trace.attempts
  worker : Worker.ofJob job ∈ s.workers
  tally : ∀ f : Worker → Nat, tally f s'.workers + f (.ofJob job) =
    tally f s.workers + f { launching := [⟨id, job.userID, some job⟩] }

theorem attempts_step (h : s.step env a = some s') :
    s'.trace.attempts = s.trace.attempts ∨ ∃ job id key, s.Inserts s' job id key := by
  obtain ⟨_, _, _, _, hW, hws, _, hwork⟩ := step_effect h
  cases hwork with
  | insert job id key hnew hdrawn hrow hatt =>
    right
    refine ⟨job, id, key, hnew, hdrawn, (hrow id).trans (if_pos rfl), hatt,
      mem_of_getElem?_pool hW, ?_⟩
    intro f
    rw [hws]
    exact tally_pooled f hW _ _
  | remove _ _ hatt => exact .inl hatt
  | settle _ _ _ hatt => exact .inl hatt
  | finish _ _ hfin | finishRetry _ _ hfin => exact .inl hfin.attempts
  | quiet _ hq | arrive _ hq | check _ hq | insertFails _ hq | launched _ hq | launchFails _ hq
  | handOver _ _ _ _ hq => exact .inl hq.attempts

theorem Inserts.known {job : ScrapeJob} {id key : Uuid} (h : s.Inserts s' job id key) :
    s'.known db₀ = job.newLog id key (unix s.now) :: s.known db₀ := by
  rw [Server.known, h.attempts, Server.known]
  rfl

theorem known_step (hs : Lineage db₀ s) (h : s.step env a = some s') :
    (∀ k ∈ s.known db₀, k ∈ s'.known db₀) ∧ ((s'.known db₀).map ScrapeLog.id).Nodup ∧
      ∀ k ∈ s'.known db₀, k.id ∈ s'.drawn := by
  obtain ⟨_, _, _, _, _, _, hframe, _⟩ := step_effect h
  rcases attempts_step h with hatt | ⟨job, id, key, hins⟩
  · rw [known_eq hatt]
    exact ⟨fun _ hk => hk, hs.ids, fun k hk => hframe.drawn _ (hs.drawn k hk)⟩
  · have hnotin : id ∉ (s.known db₀).map ScrapeLog.id := by
      intro hmem
      obtain ⟨k, hk, rfl⟩ := List.mem_map.mp hmem
      exact hins.fresh (hs.drawn k hk)
    rw [hins.known]
    refine ⟨fun k hk => List.mem_cons_of_mem _ hk, List.nodup_cons.mpr ⟨hnotin, hs.ids⟩, ?_⟩
    intro k hk
    cases List.mem_cons.mp hk with
    | inl hk =>
      rw [hk]
      exact hins.drawn
    | inr hk => exact hframe.drawn _ (hs.drawn k hk)

theorem lawful_step (hs : Lineage db₀ s) {W W' : Worker} {spawned : List Worker}
    (hW : W ∈ s.workers) (hsub : ∀ k ∈ s.known db₀, k ∈ s'.known db₀)
    (hwork : WorkStep (s.call env a) s.toWorld s'.toWorld W W' spawned) :
    W'.Lawful (s'.known db₀) ∧ ∀ V ∈ spawned, V.Lawful (s'.known db₀) := by
  have hlaw := (hs.workers W hW).mono hsub
  have hnil : ∀ V ∈ ([] : List Worker), V.Lawful (s'.known db₀) := by simp
  cases hwork with
  | quiet _ _ =>
    refine ⟨hlaw, ?_⟩
    intro V hV
    obtain ⟨job, hjob, rfl⟩ := List.mem_map.mp hV
    obtain ⟨hparent, hcount⟩ := call_launches hjob
    apply lawful_ofJob
    rw [ScrapeJob.Follows, hparent]
    exact hcount
  | arrive _ _ =>
    refine ⟨hlaw, ?_⟩
    intro V hV
    rw [List.mem_singleton.mp hV]
    exact lawful_idle
  | remove => exact ⟨hlaw, hnil⟩
  | check refs _ _ hrow =>
    refine ⟨⟨?_, fun job hjob => by cases hjob⟩, hnil⟩
    intro r hr
    simp only [Worker.refs, List.nil_append, List.append_nil] at hr
    obtain ⟨hjob, l, hl, huser, _⟩ := hrow r hr
    obtain ⟨k, hk, hid, hkuser, _⟩ := hs.row _ l hl
    refine ⟨k, hsub k hk, hid, hkuser.symm.trans huser, ?_⟩
    intro job hj
    rw [hjob] at hj
    cases hj
  | insert job id key _ _ _ hatt =>
    refine ⟨⟨?_, fun job hjob => by cases hjob⟩, hnil⟩
    intro r hr
    simp only [Worker.refs, List.append_nil] at hr
    rw [List.mem_singleton.mp hr]
    refine ⟨job.newLog id key (unix s.now), ?_, rfl, rfl, ?_⟩
    · rw [known, hatt]
      exact List.mem_cons_self
    · intro j hj
      cases hj
      exact ⟨rfl, rfl⟩
  | insertFails | launched => exact ⟨lawful_idle, hnil⟩
  | launchFails r => exact ⟨lawful_of_refs hlaw rfl (by simp [Worker.refs]), hnil⟩
  | finish r rest => exact ⟨lawful_of_refs hlaw rfl (by simp [Worker.refs, or_comm]), hnil⟩
  | settle r rest =>
    refine ⟨lawful_of_refs hlaw rfl ?_, hnil⟩
    intro x hx
    simp only [Worker.refs, List.nil_append, List.append_nil] at hx
    simp [Worker.refs, hx]
  | finishRetry r job _ hjob huser hauto hcount =>
    obtain ⟨k, hk, hid, hkuser, hkjob⟩ := hlaw.refs r (by simp [Worker.refs])
    obtain ⟨hkcount, hkauto⟩ := hkjob job hjob
    refine ⟨lawful_ofJob ⟨k, hk, hid, hkuser.trans huser.symm, ?_, ?_, ?_, rfl⟩, hnil⟩
    · rw [hkauto, hauto]
      rfl
    · omega
    · rw [hkcount]
      rfl
  | handOver r rest job l _ hparent huser hauto hread hisAuto hcount hnext =>
    obtain ⟨k', hk', hid', _, hkcount, hkauto⟩ := hs.row _ l hread
    refine ⟨⟨?_, fun job hj => by cases hj⟩, ?_⟩
    · intro x hx
      simp only [Worker.refs, List.nil_append, List.append_nil] at hx
      exact hlaw.refs x (by simp [Worker.refs, hx])
    · intro V hV
      rw [List.mem_singleton.mp hV]
      have hfollows : job.Follows (s.known db₀) := by
        obtain ⟨k₀, hk₀, hid₀, hkuser₀, _⟩ := (hs.workers _ hW).refs r (by simp [Worker.refs])
        have heq : k₀ = k' := hs.eq_of_id hk₀ hk' (hid₀.trans hid'.symm)
        subst heq
        rw [ScrapeJob.Follows, hparent]
        refine ⟨k₀, hk₀, hid₀, hkuser₀.trans huser.symm, by omega, by omega, by omega, ?_⟩
        rw [hauto]
        rfl
      exact lawful_ofJob (hfollows.mono hsub)

theorem lineage_step (hs : Lineage db₀ s) (h : s.step env a = some s') : Lineage db₀ s' := by
  obtain ⟨hsub, hids, hdrawn⟩ := known_step hs h
  refine ⟨hids, hdrawn, ?_, ?_, ?_⟩
  · intro L l' hl'
    rcases row_step h hl' with ⟨l, hl, huser, hcount, hauto⟩ | ⟨att, hatt, hid, rfl⟩
    · obtain ⟨k, hk, hid, hkuser, hkcount, hkauto⟩ := hs.row L l hl
      exact ⟨k, hsub k hk, hid, huser.trans hkuser, hcount.trans hkcount, hauto.trans hkauto⟩
    · refine ⟨att.log, ?_, hid, rfl, rfl, rfl⟩
      exact List.mem_append_left _ (List.mem_map_of_mem hatt)
  · obtain ⟨i, W, W', spawned, hW, hws, _, hwork⟩ := step_effect h
    have hnew := lawful_step hs (mem_of_getElem?_pool hW) hsub hwork
    rw [hws]
    exact forall_pooled (fun V hV => (hs.workers V hV).mono hsub) hnew.1 hnew.2
  · intro att hatt
    have hold : ∀ att ∈ s.trace.attempts,
        Succeeds (s'.known db₀) att.parent att.log.userID att.log.retryCount att.log.isAuto :=
      fun att hatt => (hs.child att hatt).mono hsub
    rcases attempts_step h with heq | ⟨job, id, key, hins⟩
    · rw [heq] at hatt
      exact hold att hatt
    · rw [hins.attempts] at hatt
      rcases List.mem_cons.mp hatt with rfl | hatt
      · exact Succeeds.mono hsub ((hs.workers _ hins.worker).job job rfl)
      · exact hold att hatt

theorem parent_of_retryCount (hl : Lineage db₀ s) {job : ScrapeJob}
    (hW : Worker.ofJob job ∈ s.workers) (hcount : job.retryCount = 0) : job.parent = none := by
  have hfollows := (hl.workers _ hW).job job rfl
  cases hparent : job.parent with
  | none => rfl
  | some P =>
    rw [ScrapeJob.Follows, hparent] at hfollows
    obtain ⟨k, _, _, _, _, _, hnext, _⟩ := hfollows
    omega

theorem lineage_of_reaches {ok : Server → Action → Bool}
    (h : Reaches (step env) ok (boot db₀ now) s) : Lineage db₀ s :=
  h.invariant lineage_boot fun _ _ _ _ hs ha => lineage_step hs ha

theorem known_of_reaches {ok : Server → Action → Bool} (hs : Lineage db₀ s)
    (h : Reaches (step env) ok s s') {k : ScrapeLog} (hk : k ∈ s.known db₀) : k ∈ s'.known db₀ := by
  have hboth : Lineage db₀ s' ∧ k ∈ s'.known db₀ := by
    refine h.invariant (I := fun t => Lineage db₀ t ∧ k ∈ t.known db₀) ⟨hs, hk⟩ ?_
    intro t a t' _ ht ha
    exact ⟨lineage_step ht.1 ha, (known_step ht.1 ha).1 k ht.2⟩
  exact hboth.2

theorem known_of_task (hs : Lineage db₀ s) {i : Nat} {t : Task} (ht : s.tasks[i]? = some t)
    {r : LogRef} (hr : r ∈ t.worker.refs) : ∃ k ∈ s.known db₀, k.id = r.logID ∧ k.userID = r.userID := by
  have hW : t.worker ∈ s.workers :=
    List.mem_cons_of_mem _ (List.mem_map_of_mem (mem_of_getElem?_pool ht))
  obtain ⟨k, hk, hid, huser, _⟩ := (hs.workers _ hW).refs r hr
  exact ⟨k, hk, hid, huser⟩

end Server
end ScheduleSync
