import ScheduleSync.Descent
import ScheduleSync.Lineage

/-! Each attempt is disposed of once: by one retry or by one ScheduleNext. The
handlers never claim the log they dispose of, so two that both saw it running
both dispose of it; where only the sole holder finishes, retries form a line. -/
namespace ScheduleSync
namespace Server
variable {env : Env} {s s' : Server} {a : Action} {db₀ : DB} {now : Int}

/-- Every statement of the step succeeds. -/
def noFailure (env : Env) (s : Server) (a : Action) : Bool :=
  !(s.call env a).sqlFails && (s.call env a).failsInsert.isNone

/-- No statement fails, only the sole holder of a log finishes it, and a container
fails to start only while its row is running. -/
def disposesOnce (env : Env) (s : Server) (a : Action) : Bool :=
  s.noFailure env a && s.soleFinisher env a && s.failsRunning env a

def Retries (s : Server) (p c : Attempt) : Prop :=
  p ∈ s.trace.attempts ∧ c ∈ s.trace.attempts ∧ c.parent = some p.log.id

def Descends (s : Server) : Attempt → Attempt → Prop := Relation.ReflTransGen s.Retries

/-- One disposition to a log that has left 'running', and retries in a line. -/
structure DisposedOnce (db₀ : DB) (s : Server) : Prop where
  atMost : ∀ L, s.settled L ≤ 1
  exactly : ∀ l ∈ s.db.scrapeLogs, l.status ≠ .running →
    (∀ l₀ ∈ db₀.scrapeLogs, l₀.id = l.id → l₀.status = .running) →
    s.owers l.id = 0 → s.settled l.id = 1
  retry : ∀ att ∈ s.trace.attempts, ∀ P, att.parent = some P →
    ∃ k ∈ s.known db₀, k.id = P ∧ k.userID = att.log.userID ∧ k.isAuto = 1 ∧
      k.retryCount < maxRetries ∧ att.log.retryCount = k.retryCount + 1 ∧ att.log.isAuto = 1
  line : ∀ first ∈ s.trace.attempts, first.parent = none →
    (∀ x y, s.Descends first x → s.Descends first y → s.Descends x y ∨ s.Descends y x) ∧
      ∀ ds : List Attempt, ds.Nodup → (∀ d ∈ ds, s.Descends first d) → ds.length ≤ maxRetries + 1

structure Disposing (db₀ : DB) (s : Server) : Prop where
  fresh : s.Fresh
  most : ∀ L, Lifecycle.AtMostOnce LogCore.isRunning (s.standing L)
  least : ∀ L, (∀ l, db₀.standing L = some l → l.isRunning) →
    Lifecycle.AtLeastOnce LogCore.isRunning (s.standing L)

theorem disposing_boot : Disposing db₀ (boot db₀ now) := by
  refine ⟨fresh_boot, ?_, ?_⟩
  · intro L
    exact Lifecycle.atMostOnce_untouched (db₀.standing L)
  · intro L hrun l hl hclosed
    exact absurd (hrun l hl) hclosed

theorem disposing_step (hok : s.disposesOnce env a = true) (hs : Disposing db₀ s)
    (h : s.step env a = some s') : Disposing db₀ s' := by
  simp only [disposesOnce, noFailure, Bool.and_eq_true, Bool.not_eq_true', Option.isNone_iff_eq_none]
    at hok
  obtain ⟨⟨⟨hsql, hinsert⟩, hsole⟩, hfails⟩ := hok
  refine ⟨fresh_step hs.fresh h, ?_, ?_⟩
  · intro L
    refine Lifecycle.step_atMostOnce (standing_step hs.fresh h L) (exclusive_of_soleFinisher hsole L)
      (fun r hmay => isRunning_of_failsRunning hfails hmay) ?_ (hs.most L)
    rintro ⟨_, hforget⟩
    rw [hsql] at hforget
    cases hforget
  · intro L hrun
    refine Lifecycle.step_atLeastOnce (standing_step hs.fresh h L) ?_ (hs.least L hrun)
    rintro ⟨job, hjob, _⟩
    rw [hinsert] at hjob
    cases hjob

theorem settled_le_one (hs : Disposing db₀ s) (L : Uuid) : s.settled L ≤ 1 := by
  have hle : s.owers L + s.settled L ≤ 1 := (hs.most L).atMost
  omega

theorem settled_eq_one (hs : Disposing db₀ s) {l : ScrapeLog} (hl : l ∈ s.db.scrapeLogs)
    (hclosed : l.status ≠ .running)
    (hrun : ∀ l₀ ∈ db₀.scrapeLogs, l₀.id = l.id → l₀.status = .running)
    (hnone : s.owers l.id = 0) : s.settled l.id = 1 := by
  have hle := settled_le_one hs l.id
  have hpos : 0 < s.owers l.id + s.settled l.id := by
    refine hs.least l.id ?_ l.core (DB.standing_of_mem hl) hclosed
    intro c hc
    obtain ⟨l₀, hl₀, rfl⟩ := Option.map_eq_some_iff.mp hc
    obtain ⟨hmem, hid⟩ := DB.mem_of_scrapeLog hl₀
    exact hrun l₀ hmem hid
  omega

theorem retries_unique (hsettled : ∀ L, s.settled L ≤ 1) : Relator.RightUnique s.Retries := by
  intro p c c' hc hc'
  have hone : (s.trace.attempts.filter fun att => att.parent == some p.log.id).length ≤ 1 := by
    have hle := hsettled p.log.id
    rw [settled, List.countP_eq_length_filter] at hle
    omega
  have hmem : ∀ x, s.Retries p x →
      x ∈ s.trace.attempts.filter fun att => att.parent == some p.log.id := by
    intro x hx
    exact List.mem_filter.mpr ⟨hx.2.1, beq_iff_eq.mpr hx.2.2⟩
  have h₁ := hmem c hc
  have h₂ := hmem c' hc'
  cases hf : s.trace.attempts.filter fun att => att.parent == some p.log.id with
  | nil =>
    rw [hf] at h₁
    cases h₁
  | cons x xs =>
    have hxs : xs = [] := by
      rw [hf, List.length_cons] at hone
      exact List.eq_nil_of_length_eq_zero (by omega)
    rw [hf, hxs, List.mem_singleton] at h₁ h₂
    exact h₁.trans h₂.symm

theorem retryCount_of_retries (hl : Lineage db₀ s) {p c : Attempt} (h : s.Retries p c) :
    c.log.retryCount = p.log.retryCount + 1 ∧ c.log.retryCount ≤ maxRetries := by
  obtain ⟨hp, hc, hparent⟩ := h
  have hsucc := hl.child c hc
  rw [hparent] at hsucc
  obtain ⟨k, hk, hid, _, _, hlt, hcount, _⟩ := hsucc
  have hp' : p.log ∈ s.known db₀ := List.mem_append_left _ (List.mem_map_of_mem hp)
  have heq : k = p.log := hl.eq_of_id hk hp' hid
  subst heq
  exact ⟨hcount, by omega⟩

theorem retryCount_le_of_descends (hl : Lineage db₀ s) {first d : Attempt}
    (hfirst : first ∈ s.trace.attempts) (hparent : first.parent = none) (h : s.Descends first d) :
    d.log.retryCount ≤ maxRetries := by
  rcases Relation.ReflTransGen.cases_tail h with rfl | ⟨p, _, hstep⟩
  · have hsucc := hl.child d hfirst
    rw [hparent] at hsucc
    rw [show d.log.retryCount = 0 from hsucc]
    exact Nat.zero_le _
  · exact (retryCount_of_retries hl hstep).2

theorem disposed_once (h : Reaches (step env) (disposesOnce env) (boot db₀ now) s) :
    DisposedOnce db₀ s := by
  have hl := lineage_of_reaches h
  have hs : Disposing db₀ s :=
    h.invariant disposing_boot fun _ _ _ hok hs ha => disposing_step hok hs ha
  have hunique := retries_unique (settled_le_one hs)
  refine ⟨settled_le_one hs, ?_, ?_, ?_⟩
  · intro l hmem hclosed hrun hnone
    exact settled_eq_one hs hmem hclosed hrun hnone
  · intro att hatt P hP
    have hsucc := hl.child att hatt
    rw [hP] at hsucc
    exact hsucc
  · intro first hfirst hparent
    refine ⟨?_, ?_⟩
    · intro x y hx hy
      exact Relation.ReflTransGen.total_of_right_unique hunique hx hy
    · intro ds hnodup hds
      exact length_le_of_line (fun att => att.log.retryCount) hunique
        (fun p c hpc => (retryCount_of_retries hl hpc).1)
        (fun d hd => retryCount_le_of_descends hl hfirst hparent hd) hnodup hds

def retriedReport : List Action :=
  firstPoll ++ launch 0 "log1" "key1" "c1" ++ [.arrive (.submitFailure "key1" (.ok ⟨[], []⟩))] ++
    List.replicate 3 (.run 1 {}) ++ launch 2 "log2" "key2" "c2" ++
    [.arrive (.submitShifts "key2" (.ok []))] ++ List.replicate 4 (.run 3 {})

theorem disposed_once_retried :
    DisposedOnce sampleDB
      (after (step sampleEnv) (disposesOnce sampleEnv) (boot sampleDB 0) retriedReport) :=
  disposed_once (reaches_after (by decide +kernel))

def forkedRetry : List Action :=
  firstPoll ++ launch 0 "log1" "key1" "c1" ++
    [.schedule {}, .advance (121 * 1000000000), .schedule {},
      .arrive (.submitFailure "key1" (.ok ⟨[], []⟩)), .run 1 {},
      .schedule {}, .schedule {}, .schedule {}, .run 1 {}, .run 1 {},
      .run 2 {}, .run 2 { uuid := "log2", key := "key2" },
      .run 3 {}, .run 3 { uuid := "log3", key := "key3" }]

/-- The failure report and the reaper both saw the log running, and each starts a
retry, with no statement failing. -/
theorem disposed_twice :
    ∃ s, Reaches (step sampleEnv) (noFailure sampleEnv) (boot sampleDB 0) s ∧
      ¬ DisposedOnce sampleDB s := by
  refine ⟨after (step sampleEnv) (noFailure sampleEnv) (boot sampleDB 0) forkedRetry,
    reaches_after (by decide +kernel), ?_⟩
  intro h
  have hle := h.atMost "log1"
  have htwo : settled (after (step sampleEnv) (noFailure sampleEnv) (boot sampleDB 0) forkedRetry)
      "log1" = 2 := by decide +kernel
  omega

end Server
end ScheduleSync
