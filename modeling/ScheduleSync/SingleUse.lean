import ScheduleSync.Standing

/-! Single use of a scrape key. scrapeGetCredentials checks credentials_fetched_at in
its first statement and sets it in its last, and does not look at the result of the
UPDATE. A key is used once in the runs where the last statement of a request finds no
other request between the two, and does not fail. -/
namespace ScheduleSync

def GetCredentialsPc.fetching : GetCredentialsPc → Nat
  | .lookup => 0
  | .answered _ => 0
  | _ => 1

def GetCredentialsPc.handedOut : GetCredentialsPc → Nat
  | .answered (.ok _) => 1
  | _ => 0

def Task.fetching (key : String) : Task → Nat
  | .getCredentials k pc => if k = key then pc.fetching else 0
  | _ => 0

def Task.handedOut (key : String) : Task → Nat
  | .getCredentials k pc => if k = key then pc.handedOut else 0
  | _ => 0

section Requests
variable {env : Env} {o : Outcome} {w w' : World} {key : String}

theorem scrapeGetCredentials_uses {pc pc' : GetCredentialsPc}
    (h : scrapeGetCredentials env o w key pc = some (w', pc')) :
    pc'.fetching ≤ pc.fetching ∧ pc'.handedOut = pc.handedOut ∨
      pc'.fetching = pc.fetching + 1 ∧ pc'.handedOut = pc.handedOut ∧
        (∃ l ∈ w.db.scrapeLogs, l.scrapeKey = some key ∧ l.credentialsFetchedAt = none) ∨
      (∃ creds, pc = .markFetched creds ∧ pc' = .answered (.ok creds)) := by
  cases scrapeGetCredentials_cases h with
  | @found l hsel hfetched =>
    obtain ⟨hmem, hkey, _⟩ := DB.mem_of_runningLog (select_eq_some hsel)
    exact .inr (.inl ⟨rfl, rfl, l, hmem, hkey, by simpa using hfetched⟩)
  | noDEK | noRow | notOpened => exact .inl ⟨Nat.zero_le _, rfl⟩
  | @markFetched creds => exact .inr (.inr ⟨creds, rfl, rfl⟩)
  | _ => exact .inl ⟨Nat.le_refl _, rfl⟩

theorem unused_of_ne {t t' : Task} {jobs : List ScrapeJob}
    (h : runTask env o w t = some (w', t', jobs)) (ht : ∀ pc, t ≠ .getCredentials key pc) :
    t.fetching key = 0 ∧ t.handedOut key = 0 ∧ t'.fetching key = 0 ∧ t'.handedOut key = 0 := by
  cases runTask_cases h with
  | @getCredentials _ k pc _ hr =>
    have hne : k ≠ key := by
      intro heq
      subst heq
      exact ht pc rfl
    simp [Task.fetching, Task.handedOut, hne]
  | begun hb =>
    refine ⟨rfl, rfl, ?_⟩
    cases AuthedRequest.begin_cases hb <;> exact ⟨rfl, rfl⟩
  | _ => exact ⟨rfl, rfl, rfl, rfl⟩

end Requests

namespace Server
variable {env : Env} {s s' : Server} {a : Action} {db : DB} {now : Int} {key : String}

def fetching (s : Server) (key : String) : Nat := tally (Task.fetching key) s.tasks

/-- Requests with this key that answered 200 with the credentials. -/
def handedOut (s : Server) (key : String) : Nat := tally (Task.handedOut key) s.tasks

/-- The UPDATE at the end of a request succeeds, and no other request with its key has
passed the check and is still to answer. -/
def fetchesAlone (s : Server) : Action → Bool
  | .run i o =>
    match s.tasks[i]? with
    | some (.getCredentials key (.markFetched _)) => !o.sqlFails && decide (s.fetching key ≤ 1)
    | _ => true
  | _ => true

/-- What a step does to the use of one key. -/
inductive KeyStep (s : Server) (a : Action) (s' : Server) (key : String) : Prop
  | rests (hfetching : s'.fetching key ≤ s.fetching key)
      (hout : s'.handedOut key = s.handedOut key)
  | passes (hfetching : s'.fetching key = s.fetching key + 1)
      (hout : s'.handedOut key = s.handedOut key)
      (hrow : ∃ l ∈ s.db.scrapeLogs, l.scrapeKey = some key ∧ l.credentialsFetchedAt = none)
  | hands (i : Nat) (o : Outcome) (creds : CredentialsInput) (haction : a = .run i o)
      (htask : s.tasks[i]? = some (.getCredentials key (.markFetched creds)))
      (hfetching : s'.fetching key + 1 = s.fetching key)
      (hout : s'.handedOut key = s.handedOut key + 1)
      (hdb : s'.toWorld = s.execDropped o (s.db.setCredentialsFetchedAt key (unix s.now)))

theorem unused_spawned (jobs : List ScrapeJob) (key : String) :
    tally (Task.fetching key) (jobs.map ScrapeJob.task) = 0 ∧
      tally (Task.handedOut key) (jobs.map ScrapeJob.task) = 0 := by
  refine ⟨?_, ?_⟩
  all_goals
    rw [tally_eq_zero]
    exact List.forall_mem_map.mpr fun _ _ => rfl

theorem keyStep_getCredentials {i : Nat} {o : Outcome} {w : World} {pc pc' : GetCredentialsPc}
    (ht : s.tasks[i]? = some (.getCredentials key pc))
    (hr : scrapeGetCredentials env o s.toWorld key pc = some (w, pc')) :
    KeyStep s (.run i o)
      { s with toWorld := w, tasks := pooled s.tasks i (.getCredentials key pc') [] } key := by
  have hf := tally_pooled (Task.fetching key) ht (.getCredentials key pc') []
  have hh := tally_pooled (Task.handedOut key) ht (.getCredentials key pc') []
  simp only [Task.fetching, Task.handedOut, if_true, tally_nil, Nat.add_zero] at hf hh
  cases scrapeGetCredentials_uses hr with
  | inl hrest =>
    obtain ⟨hle, hsame⟩ := hrest
    refine .rests ?_ ?_
    · simp only [fetching]
      omega
    · simp only [handedOut]
      omega
  | inr huse =>
    cases huse with
    | inl hpass =>
      obtain ⟨hnext, hsame, hrow⟩ := hpass
      refine .passes ?_ ?_ hrow
      · simp only [fetching]
        omega
      · simp only [handedOut]
        omega
    | inr hhand =>
      obtain ⟨creds, rfl, rfl⟩ := hhand
      cases hr
      have h₁ : (GetCredentialsPc.markFetched creds).fetching = 1 := rfl
      have h₂ : (GetCredentialsPc.markFetched creds).handedOut = 0 := rfl
      have h₃ : (GetCredentialsPc.answered (.ok creds)).fetching = 0 := rfl
      have h₄ : (GetCredentialsPc.answered (.ok creds)).handedOut = 1 := rfl
      rw [h₁, h₃] at hf
      rw [h₂, h₄] at hh
      refine .hands i o creds rfl ht ?_ ?_ rfl
      · simp only [fetching]
        omega
      · simp only [handedOut]
        omega

theorem keyStep_of_step (h : s.step env a = some s') (key : String) : KeyStep s a s' key := by
  have happend : ∀ us : List Task, s'.tasks = s.tasks ++ us →
      tally (Task.fetching key) us = 0 → tally (Task.handedOut key) us = 0 →
      KeyStep s a s' key := by
    intro us htasks hfetching hout
    refine .rests ?_ ?_
    · rw [fetching, htasks, tally_append, hfetching, fetching]
      omega
    · rw [handedOut, htasks, tally_append, hout, handedOut]
      omega
  cases a with
  | run i o =>
    obtain ⟨t, w, t', jobs, ht, hrun, rfl⟩ := step_run h
    by_cases hkey : ∃ pc, t = .getCredentials key pc
    · obtain ⟨pc, rfl⟩ := hkey
      obtain ⟨⟨w₁, pc'⟩, hr, heq⟩ := Option.map_eq_some_iff.mp hrun
      cases heq
      exact keyStep_getCredentials ht hr
    · have hne : ∀ pc, t ≠ .getCredentials key pc := fun pc heq => hkey ⟨pc, heq⟩
      obtain ⟨h₁, h₂, h₃, h₄⟩ := unused_of_ne hrun hne
      obtain ⟨hjobs, hjobs'⟩ := unused_spawned jobs key
      have hf := tally_pooled (Task.fetching key) ht t' (jobs.map ScrapeJob.task)
      have hh := tally_pooled (Task.handedOut key) ht t' (jobs.map ScrapeJob.task)
      rw [hjobs] at hf
      rw [hjobs'] at hh
      refine .rests ?_ ?_
      · simp only [fetching]
        omega
      · simp only [handedOut]
        omega
  | schedule o =>
    obtain ⟨w, sch, jobs, hrun, rfl⟩ := step_schedule h
    obtain ⟨hjobs, hjobs'⟩ := unused_spawned jobs key
    exact happend _ rfl hjobs hjobs'
  | arrive r =>
    cases h
    have hzero : r.task.fetching key = 0 ∧ r.task.handedOut key = 0 := by
      cases r <;> simp [Request.task, Task.fetching, Task.handedOut, GetCredentialsPc.fetching,
        GetCredentialsPc.handedOut]
    refine happend [r.task] rfl ?_ ?_
    · rw [tally_singleton, hzero.1]
    · rw [tally_singleton, hzero.2]
  | _ =>
    cases h
    exact .rests (Nat.le_refl _) rfl

structure KeyUse (s : Server) (key : String) : Prop where
  drawn : 0 < s.fetching key + s.handedOut key → key ∈ s.drawn
  spent : 0 < s.handedOut key → s.fetching key = 0 ∧
    ∀ l ∈ s.db.scrapeLogs, l.scrapeKey = some key → l.credentialsFetchedAt.isSome = true
  once : s.handedOut key ≤ 1

structure KeysUsed (s : Server) : Prop where
  known : ∀ l ∈ s.db.scrapeLogs, ∀ k, l.scrapeKey = some k → k ∈ s.drawn
  uses : ∀ key, KeyUse s key

theorem keysUsed_boot : (boot db now).KeysUsed := by
  refine ⟨?_, ?_⟩
  · intro l hl k hk
    have hmem : k ∈ db.scrapeLogs.rows.filterMap ScrapeLog.scrapeKey :=
      List.mem_filterMap.mpr ⟨l, hl, hk⟩
    exact List.mem_append_right _ hmem
  · intro key
    refine ⟨?_, ?_, ?_⟩
    · intro hpos
      cases hpos
    · intro hpos
      cases hpos
    · exact Nat.zero_le _

theorem keys_known_step (hs : s.KeysUsed) (h : s.step env a = some s') :
    ∀ l ∈ s'.db.scrapeLogs, ∀ k, l.scrapeKey = some k → k ∈ s'.drawn := by
  obtain ⟨_, _, _, _, _, _, hframe, _⟩ := step_effect h
  intro l hl k hk
  cases hframe.keys l hl with
  | inl hold =>
    obtain ⟨x, hx, hkey, _⟩ := hold
    exact hframe.drawn k (hs.known x hx k (hkey.symm.trans hk))
  | inr hnew =>
    obtain ⟨k', hkey, _, hdrawn⟩ := hnew
    cases hkey.symm.trans hk
    exact hdrawn

theorem spent_step (h : s.step env a = some s') (hdrawn : key ∈ s.drawn)
    (hspent : ∀ l ∈ s.db.scrapeLogs, l.scrapeKey = some key → l.credentialsFetchedAt.isSome = true) :
    ∀ l ∈ s'.db.scrapeLogs, l.scrapeKey = some key → l.credentialsFetchedAt.isSome = true := by
  obtain ⟨_, _, _, _, _, _, hframe, _⟩ := step_effect h
  intro l hl hk
  cases hframe.keys l hl with
  | inl hold =>
    obtain ⟨x, hx, hkey, hfetched⟩ := hold
    exact hfetched (hspent x hx (hkey.symm.trans hk))
  | inr hnew =>
    obtain ⟨k', hkey, hfresh, _⟩ := hnew
    cases hkey.symm.trans hk
    exact absurd hdrawn hfresh

theorem spent_setCredentialsFetchedAt {db : DB} {now : Int} :
    ∀ l ∈ (db.setCredentialsFetchedAt key now).scrapeLogs, l.scrapeKey = some key →
      l.credentialsFetchedAt.isSome = true := by
  intro l hl hk
  simp only [DB.setCredentialsFetchedAt, Table.mem_update] at hl
  obtain ⟨x, hx, rfl⟩ := hl
  split at hk
  · rename_i hp
    rw [if_pos hp]
    rfl
  · rename_i hp
    exact absurd (beq_iff_eq.mpr hk) hp

theorem keyUse_step (hok : s.fetchesAlone a = true) (hs : s.KeysUsed)
    (h : s.step env a = some s') (key : String) : KeyUse s' key := by
  have huse := hs.uses key
  obtain ⟨_, _, _, _, _, _, hframe, _⟩ := step_effect h
  cases keyStep_of_step h key with
  | rests hfetching hout =>
    refine ⟨?_, ?_, ?_⟩
    · intro hpos
      exact hframe.drawn key (huse.drawn (by omega))
    · intro hpos
      obtain ⟨hzero, hspent⟩ := huse.spent (by omega)
      exact ⟨by omega, spent_step h (huse.drawn (by omega)) hspent⟩
    · have := huse.once
      omega
  | passes hfetching hout hrow =>
    obtain ⟨l, hl, hkey, hnone⟩ := hrow
    -- a row still unfetched says that nobody has the credentials yet
    have hzero : s.handedOut key = 0 := by
      by_contra hpos
      have := (huse.spent (Nat.pos_of_ne_zero hpos)).2 l hl hkey
      rw [hnone] at this
      cases this
    refine ⟨?_, ?_, ?_⟩
    · intro _
      exact hframe.drawn key (hs.known l hl key hkey)
    · intro hpos
      omega
    · omega
  | hands i o creds haction htask hfetching hout hdb =>
    subst haction
    have hcond : o.sqlFails = false ∧ s.fetching key ≤ 1 := by
      simpa [fetchesAlone, htask] using hok
    have hzero : s.handedOut key = 0 := by
      by_contra hpos
      have := (huse.spent (Nat.pos_of_ne_zero hpos)).1
      omega
    refine ⟨?_, ?_, ?_⟩
    · intro _
      exact hframe.drawn key (huse.drawn (by omega))
    · intro _
      refine ⟨by omega, ?_⟩
      have hlogs : s'.db = s.db.setCredentialsFetchedAt key (unix s.now) := by
        rw [hdb, World.execDropped, hcond.1]
        rfl
      rw [hlogs]
      exact spent_setCredentialsFetchedAt
    · omega

theorem keysUsed_step (hok : s.fetchesAlone a = true) (hs : s.KeysUsed)
    (h : s.step env a = some s') : s'.KeysUsed :=
  ⟨keys_known_step hs h, keyUse_step hok hs h⟩

theorem handed_out_once (h : Reaches (step env) fetchesAlone (boot db now) s) (key : String) :
    s.handedOut key ≤ 1 :=
  have hused : s.KeysUsed :=
    h.invariant keysUsed_boot fun _ _ _ hok hs ha => keysUsed_step hok hs ha
  (hused.uses key).once

def fetchAgain : List Action :=
  firstSave ++ launch 1 "log1" "key1" "c1" ++ [.arrive (.getCredentials "key1")] ++
    List.replicate 4 (.run 2 {}) ++ [.arrive (.getCredentials "key1"), .run 3 {}]

theorem handed_out_once_refetched :
    (after (step sampleEnv) fetchesAlone (boot sessionDB 0) fetchAgain).handedOut "key1" ≤ 1 :=
  handed_out_once (reaches_after (by decide +kernel)) "key1"

def crossedFetches : List Action :=
  firstSave ++ launch 1 "log1" "key1" "c1" ++
    [.arrive (.getCredentials "key1"), .arrive (.getCredentials "key1"), .run 2 {}, .run 3 {}] ++
    List.replicate 3 (.run 2 {}) ++ List.replicate 3 (.run 3 {})

theorem handed_out_twice :
    ∃ s key, Reaches (step sampleEnv) anyStep (boot sessionDB 0) s ∧ ¬ s.handedOut key ≤ 1 :=
  ⟨after (step sampleEnv) anyStep (boot sessionDB 0) crossedFetches, "key1",
    reaches_after (by decide +kernel), by decide +kernel⟩

end Server
end ScheduleSync
