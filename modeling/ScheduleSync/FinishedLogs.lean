import ScheduleSync.Standing

/-! A finished scrape log stays as it finished. Each of the four terminal UPDATEs
is made by id alone, some steps after its handler saw the row running; the row is
final in the runs where no two of them are on their way to the same log. -/
namespace ScheduleSync
namespace Server
variable {env : Env} {s s' s₁ s₂ : Server} {a : Action} {db : DB} {now : Int}

/-- No terminal UPDATE reaches a log that another handler may finish, and no
container fails to start after its log was finished. -/
def keepsFinished (env : Env) (s : Server) (a : Action) : Bool :=
  s.soleFinisher env a && s.failsUnfinished env a

/-- Every finished row of `s₁` that `s₂` still has reads the same there. -/
def FinishedKept (s₁ s₂ : Server) : Prop :=
  ∀ l ∈ s₁.db.scrapeLogs, l.status ≠ .running → ∀ l' ∈ s₂.db.scrapeLogs, l'.id = l.id →
    l'.status = l.status ∧ l'.finishedAt = l.finishedAt ∧ l'.shiftsFound = l.shiftsFound ∧
      l'.shiftsNew = l.shiftsNew

structure HeldRunning (s : Server) : Prop where
  fresh : s.Fresh
  held : ∀ L, Lifecycle.HeldOpen LogCore.isRunning (s.standing L)

theorem heldRunning_boot : (boot db now).HeldRunning := by
  refine ⟨fresh_boot, ?_⟩
  intro L hpos
  cases hpos

theorem heldRunning_step (hok : s.keepsFinished env a = true) (hs : s.HeldRunning)
    (h : s.step env a = some s') : s'.HeldRunning := by
  obtain ⟨hsole, hfails⟩ := (Bool.and_eq_true _ _).mp hok
  refine ⟨fresh_step hs.fresh h, ?_⟩
  intro L
  have hmove := standing_step hs.fresh h L
  refine Lifecycle.step_heldOpen hmove (exclusive_of_soleFinisher hsole L) ?_ (hs.held L)
  exact fun l hmay => isRunning_of_failsUnfinished hfails hmay

theorem heldRunning_of_reaches (h : Reaches (step env) (keepsFinished env) (boot db now) s) :
    s.HeldRunning :=
  h.invariant heldRunning_boot fun _ _ _ hok hs ha => heldRunning_step hok hs ha

def FinalRow (L : Uuid) (l : LogCore) (s : Server) : Prop :=
  L ∈ s.drawn ∧ ∀ l', s.db.standing L = some l' → l' = l

theorem finalRow_step {L : Uuid} {l : LogCore} (hs : s.HeldRunning) (hl : ¬ l.isRunning)
    (h : s.step env a = some s') (hset : FinalRow L l s) : FinalRow L l s' := by
  obtain ⟨hdrawn, hrow⟩ := hset
  have hmove := standing_step hs.fresh h L
  obtain ⟨_, _, _, _, _, _, hframe, _⟩ := step_effect h
  refine ⟨hframe.drawn L hdrawn, ?_⟩
  intro l' hl'
  cases hc : s.db.standing L with
  | none =>
    have hgone := Lifecycle.step_gone hmove (fun hf => hf.1 hdrawn) hc
    rw [show s'.db.standing L = none from hgone] at hl'
    cases hl'
  | some c =>
    have hcl := hrow c hc
    subst hcl
    exact Lifecycle.step_closed hmove (hs.held L) hc hl hl'

theorem finished_kept (hboot : Reaches (step env) (keepsFinished env) (boot db now) s₁)
    (hrun : Reaches (step env) (keepsFinished env) s₁ s₂) : FinishedKept s₁ s₂ := by
  intro l hl hfin l' hl' hid
  have hstart : FinalRow l.id l.core s₁ := by
    have hrow := DB.standing_of_mem hl
    refine ⟨?_, ?_⟩
    · by_contra hnew
      have hunknown := (heldRunning_of_reaches hboot).fresh l.id hnew
      have hnone : s₁.db.standing l.id = none := congrArg Lifecycle.Standing.row hunknown
      rw [hrow] at hnone
      cases hnone
    · intro c hc
      exact Option.some.inj (hc.symm.trans hrow)
  have hboth : s₂.HeldRunning ∧ FinalRow l.id l.core s₂ := by
    refine hrun.invariant (I := fun s => s.HeldRunning ∧ FinalRow l.id l.core s)
      ⟨heldRunning_of_reaches hboot, hstart⟩ ?_
    intro s a s' hok hs ha
    exact ⟨heldRunning_step hok hs.1 ha, finalRow_step hs.1 hfin ha hs.2⟩
  have hrow' := DB.standing_of_mem hl'
  rw [hid] at hrow'
  have hcore := hboth.2.2 l'.core hrow'
  exact ⟨congrArg LogCore.status hcore, congrArg LogCore.finishedAt hcore,
    congrArg LogCore.shiftsFound hcore, congrArg LogCore.shiftsNew hcore⟩

def soloReport (i : Nat) (logID key : String) : List Action :=
  firstPoll ++ launch i logID key "c1" ++
    [.arrive (.submitShifts key (.ok []))] ++ List.replicate 4 (.run (i + 1) {})

theorem finished_kept_late_report :
    FinishedKept
      (after (step sampleEnv) (keepsFinished sampleEnv) (boot sampleDB 0) (soloReport 0 "log1" "key1"))
      (after (step sampleEnv) (keepsFinished sampleEnv)
        (after (step sampleEnv) (keepsFinished sampleEnv) (boot sampleDB 0)
          (soloReport 0 "log1" "key1"))
        [.arrive (.submitFailure "key1" (.ok ⟨[], []⟩)), .run 2 {}]) :=
  finished_kept (reaches_after (by decide +kernel)) (reaches_after (by decide +kernel))

theorem not_finishedKept {L : Uuid} {st st' : ScrapeStatus}
    (h₁ : (s₁.db.scrapeLog L).map ScrapeLog.status = some st)
    (h₂ : (s₂.db.scrapeLog L).map ScrapeLog.status = some st') (hst : st ≠ .running)
    (hne : st' ≠ st) : ¬ FinishedKept s₁ s₂ := by
  intro hkept
  obtain ⟨l, hl, rfl⟩ := Option.map_eq_some_iff.mp h₁
  obtain ⟨l', hl', rfl⟩ := Option.map_eq_some_iff.mp h₂
  obtain ⟨hmem, hid⟩ := DB.mem_of_scrapeLog hl
  obtain ⟨hmem', hid'⟩ := DB.mem_of_scrapeLog hl'
  exact hne (hkept l hmem hst l' hmem' (hid'.trans hid.symm)).1

def crossedReports : List Action :=
  firstPoll ++ launch 0 "log1" "key1" "c1" ++
    [.arrive (.submitShifts "key1" (.ok [])), .arrive (.submitFailure "key1" (.ok ⟨[], []⟩)),
      .run 1 {}, .run 2 {}, .run 1 {}, .run 1 {}]

/-- A success report and a failure report see the log running; the success report
finishes it, and the failure report turns it into a failure. -/
theorem finished_overwritten :
    ∃ s₁ s₂, Reaches (step sampleEnv) anyStep (boot sampleDB 0) s₁ ∧
      Reaches (step sampleEnv) anyStep s₁ s₂ ∧ ¬ FinishedKept s₁ s₂ := by
  refine ⟨after (step sampleEnv) anyStep (boot sampleDB 0) crossedReports,
    after (step sampleEnv) anyStep
      (after (step sampleEnv) anyStep (boot sampleDB 0) crossedReports) [.run 2 {}],
    reaches_after (by decide +kernel), reaches_after (by decide +kernel), ?_⟩
  have h₁ : ((after (step sampleEnv) anyStep (boot sampleDB 0) crossedReports).db.scrapeLog
      "log1").map ScrapeLog.status = some .success := by decide +kernel
  have h₂ : ((after (step sampleEnv) anyStep
      (after (step sampleEnv) anyStep (boot sampleDB 0) crossedReports)
      [.run 2 {}]).db.scrapeLog "log1").map ScrapeLog.status = some .failure := by decide +kernel
  exact not_finishedKept h₁ h₂ (by decide) (by decide)

end Server
end ScheduleSync
