import ScheduleSync.KeyAuthority
import ScheduleSync.LastSynced

/-! Saving credentials. writeCredentials runs its statements outside a transaction and drops
the error of the last one, which puts the user on the schedule. Without that error a save is
all or nothing, and everybody with credentials is on the schedule: ScheduleNext only updates
rows, so one that was never written stays missing. -/
namespace ScheduleSync

/-- The time of the save, once the credentials are stored. -/
def WriteCredentialsPc.savedAt : WriteCredentialsPc → Option Int
  | .schedule now => some now
  | _ => none

/-- The user has a schedule row that is due at `now`. -/
def DB.scheduledAt (db : DB) (userID : Uuid) (now : Int) : Prop :=
  ∃ row ∈ db.scrapeSchedule, row.userID = userID ∧ row.nextScrapeAt = now

/-- What the answer promises about the tables after the request, given those before it and
the time of the save. -/
def AllOrNothing (env : Env) (userID : Uuid) (body : Except String CredentialsInput)
    (savedAt : Option Int) (db db' : DB) : Except HttpError Unit → Prop
  | .ok _ => ∃ input now, body = .ok input ∧ savedAt = some now ∧ db'.Releases env userID input ∧
    db'.scheduledAt userID now
  | .error _ => db'.starbucksCredentials = db.starbucksCredentials ∧
    db'.scrapeSchedule = db.scrapeSchedule

def WriteCredentialsPc.Saving (env : Env) (userID : Uuid) (body : Except String CredentialsInput)
    (db₀ db : DB) : WriteCredentialsPc → Prop
  | .credentialLimit b => b = body ∧ db = db₀
  | .scrapeLimit b => b = body ∧ db = db₀
  | .selectDEK input => body = .ok input ∧ db = db₀
  | .insertDEK input => body = .ok input ∧ db = db₀
  | .upsert input plainDEK => body = .ok input ∧ db.HoldsKey env userID plainDEK ∧
    db.starbucksCredentials = db₀.starbucksCredentials ∧ db.scrapeSchedule = db₀.scrapeSchedule
  | .schedule _ => ∃ input, body = .ok input ∧ db.hasUser userID = true ∧ db.Releases env userID input
  | .answered (.ok _) => True
  | .answered (.error _) => db.starbucksCredentials = db₀.starbucksCredentials ∧
    db.scrapeSchedule = db₀.scrapeSchedule

section Statements
variable {env : Env} {o : Outcome} {w w' : World} {userID : Uuid}

theorem releases_of_upsert {db : DB} {input : CredentialsInput} {plainDEK : Bytes}
    {row : StarbucksCredentials} {now : Int}
    (hseal : sealCredentials env.crypto env.json plainDEK o.nonces userID input now = some row)
    (hkey : w.db.HoldsKey env userID plainDEK) (h : w.db.upsertCredentials row = some db) :
    db.hasUser userID = true ∧ db.Releases env userID input := by
  have huser := sealCredentials_userID hseal
  obtain ⟨hu, hdeks, husers, _⟩ := mem_upsertCredentials h
  obtain ⟨t, hmem⟩ := upsertCredentials_stored h
  refine ⟨?_, plainDEK, ?_, _, hmem, huser, ?_⟩
  · rw [DB.hasUser, husers, ← huser]
    exact hu
  · rw [DB.HoldsKey, hdeks]
    exact hkey
  · exact openCredentials_sealCredentials hseal row.userID t

theorem upsertSchedule_scheduled {db : DB} (now : Int) (huser : db.hasUser userID = true) :
    ∃ db', db.upsertSchedule userID now = some db' ∧ db'.scheduledAt userID now ∧
      db'.starbucksCredentials = db.starbucksCredentials ∧ db'.userDEKs = db.userDEKs := by
  simp only [DB.upsertSchedule, huser, if_true]
  by_cases hany : (db.scrapeSchedule.rows.any fun r => r.userID == userID) = true
  · simp only [hany, if_true]
    obtain ⟨x, hx, hid⟩ := List.any_eq_true.mp hany
    refine ⟨_, rfl, ⟨{ x with nextScrapeAt := now }, ?_, beq_iff_eq.mp hid, rfl⟩, rfl, rfl⟩
    simp only [Table.mem_update]
    exact ⟨x, hx, if_pos hid⟩
  · have hnew : ∀ x ∈ db.scrapeSchedule.rows, ¬ Keyed.Clash x ⟨userID, now, none⟩ := by
      intro x hx hclash
      exact hany (List.any_eq_true.mpr ⟨x, hx, beq_iff_eq.mpr hclash⟩)
    have hins : db.scrapeSchedule.insert ⟨userID, now, none⟩ = some ⟨_, _⟩ := dif_pos hnew
    simp only [hany, hins, Option.map_some]
    exact ⟨_, rfl, ⟨⟨userID, now, none⟩, (Table.mem_of_insert hins).mpr (.inr rfl), rfl, rfl⟩, rfl, rfl⟩

theorem writeCredentials_saving {body : Except String CredentialsInput} {db₀ : DB}
    {pc pc' : WriteCredentialsPc} {jobs : List ScrapeJob}
    (h : writeCredentials env o w userID pc = some (w', pc', jobs))
    (hs : pc.Saving env userID body db₀ w.db) : pc'.Saving env userID body db₀ w'.db := by
  cases writeCredentials_cases h with
  | credentialLimited | scrapeLimited | badBody | selectFailed | notDecrypted | notGenerated |
    insertFailed =>
    exact ⟨by rw [hs.2], by rw [hs.2]⟩
  | credentialLimit => exact hs
  | scrapeLimit => exact ⟨hs.1.symm, hs.2⟩
  | noDEK => exact hs
  | @selectDEK input dek plainDEK hsql hdek hplain =>
    obtain ⟨hmem, hid⟩ := DB.mem_of_userDEK hdek
    exact ⟨hs.1, ⟨dek, hmem, hid, hplain⟩, by rw [hs.2], by rw [hs.2]⟩
  | @insertDEK input plainDEK encDEK db hrand hgen hexec =>
    have hdone : (Write.insertDEK ⟨userID, encDEK, o.dekNonce, unix w.now⟩).Done w.db db :=
      Write.done_of_exec (exec_eq_some hexec)
    have hdec := env.crypto.decryptDEK_of_generateDEK hgen userID (unix w.now)
    cases hdone with
    | insertDEK huser ht =>
      exact ⟨hs.1, ⟨_, (Table.mem_of_insert ht).mpr (.inr rfl), rfl, hdec⟩, by rw [hs.2], by rw [hs.2]⟩
  | notSealed | upsertFailed => exact hs.2.2
  | @upsert input plainDEK row db hrand hseal hexec =>
    obtain ⟨huser, hreleases⟩ := releases_of_upsert hseal hs.2.1 (exec_eq_some hexec)
    exact ⟨input, hs.1, huser, hreleases⟩
  | scheduleFailed | schedule => trivial

theorem savedAt_of_step {pc pc' : WriteCredentialsPc} {jobs : List ScrapeJob} {now : Int}
    (h : writeCredentials env o w userID pc = some (w', pc', jobs)) (hnow : pc'.savedAt = some now) :
    now = unix w.now ∧ w'.now = w.now := by
  cases writeCredentials_cases h with
  | upsert =>
    cases hnow
    exact ⟨rfl, rfl⟩
  | _ => cases hnow

theorem allOrNothing_of_answer {body : Except String CredentialsInput} {db₀ : DB}
    {pc : WriteCredentialsPc} {r : Except HttpError Unit} {jobs : List ScrapeJob}
    (h : writeCredentials env o w userID pc = some (w', .answered r, jobs))
    (hs : pc.Saving env userID body db₀ w.db) :
    AllOrNothing env userID body pc.savedAt db₀ w'.db r ↔
      ∀ now, pc.savedAt = some now → o.sqlFails = false ∨ w.db.scheduledAt userID now := by
  have hkept := writeCredentials_saving h hs
  cases writeCredentials_cases h with
  | @scheduleFailed now hexec =>
    obtain ⟨input, hbody, huser, hreleases⟩ := hs
    constructor
    · rintro ⟨_, _, _, hsaved, _, hscheduled⟩ now' hnow'
      rw [← Option.some.inj (hsaved.symm.trans hnow')]
      exact .inr hscheduled
    · intro hlast
      refine ⟨input, now, hbody, rfl, hreleases, ?_⟩
      cases hlast now rfl with
      | inl hsql =>
        obtain ⟨db, hdb, _⟩ := upsertSchedule_scheduled now huser
        simp [exec_executed hsql, hdb] at hexec
      | inr hscheduled => exact hscheduled
  | @schedule now db hexec =>
    obtain ⟨input, hbody, huser, plainDEK, hkey, hrow⟩ := hs
    obtain ⟨db', hdb', hscheduled, hcreds, hdeks⟩ := upsertSchedule_scheduled now huser
    obtain rfl := Option.some.inj (hdb'.symm.trans (exec_eq_some hexec))
    refine iff_of_true ⟨input, now, hbody, rfl, ⟨plainDEK, ?_, hcreds ▸ hrow⟩, hscheduled⟩ ?_
    · rw [DB.HoldsKey, hdeks]
      exact hkey
    · intro _ _
      left
      by_contra hsql
      simp [exec_failed (Bool.eq_true_of_not_eq_false hsql)] at hexec
  | _ => exact iff_of_true hkept (by simp [WriteCredentialsPc.savedAt])

end Statements

def Task.schedulesSave : Task → Option Uuid
  | .writeCredentials userID (.schedule _) => some userID
  | _ => none

namespace Server
variable {env : Env} {s s' s₁ : Server} {a : Action} {db db₀ : DB} {start t₀ : Int} {i : Nat}
  {userID : Uuid} {body : Except String CredentialsInput}

def SavesAlone (env : Env) (i : Nat) (userID : Uuid) (body : Except String CredentialsInput)
    (db₀ : DB) (t₀ : Int) (s : Server) : Prop :=
  unix t₀ ≤ unix s.now ∧ ∃ pc, s.tasks[i]? = some (.writeCredentials userID pc) ∧
    pc.Saving env userID body db₀ s.db ∧
      ∀ now, pc.savedAt = some now → unix t₀ ≤ now ∧ now ≤ unix s.now

theorem step_save {o : Outcome} {pc : WriteCredentialsPc}
    (ht : s.tasks[i]? = some (.writeCredentials userID pc)) (h : s.step env (.run i o) = some s') :
    ∃ w pc' jobs, writeCredentials env o s.toWorld userID pc = some (w, pc', jobs) ∧
      s'.tasks[i]? = some (.writeCredentials userID pc') ∧ s'.toWorld = w := by
  obtain ⟨w, t', jobs, hrun, rfl⟩ := step_task ht h
  obtain ⟨⟨w₁, pc', jobs'⟩, hr, heq⟩ := Option.map_eq_some_iff.mp hrun
  cases heq
  exact ⟨_, _, _, hr, getElem?_pooled_self ht _ _, rfl⟩

theorem savesAlone_step (hok : solo i s a = true) (hs : SavesAlone env i userID body db₀ t₀ s)
    (h : s.step env a = some s') : SavesAlone env i userID body db₀ t₀ s' := by
  obtain ⟨htime, pc, ht, hpc, hsaved⟩ := hs
  have hnow := now_step h
  refine ⟨htime.trans hnow, ?_⟩
  cases a with
  | run j o =>
    obtain rfl : j = i := beq_iff_eq.mp hok
    obtain ⟨w, pc', jobs, hr, ht', rfl⟩ := step_save ht h
    refine ⟨pc', ht', writeCredentials_saving hr hpc, fun now hat => ?_⟩
    obtain ⟨rfl, heq⟩ := savedAt_of_step hr hat
    exact ⟨htime, hnow⟩
  | advance d =>
    cases h
    refine ⟨pc, ht, hpc, fun now hat => ?_⟩
    obtain ⟨hlower, hupper⟩ := hsaved now hat
    exact ⟨hlower, hupper.trans hnow⟩
  | _ => cases hok

theorem savesAlone_of_reaches (ht : s.tasks[i]? = some (.writeCredentials userID (.credentialLimit body)))
    (h : Reaches (step env) (solo i) s s₁) : SavesAlone env i userID body s.db s.now s₁ := by
  refine h.invariant ⟨le_rfl, _, ht, ⟨rfl, rfl⟩, by simp [WriteCredentialsPc.savedAt]⟩ ?_
  intro t a t' hok hs ha
  exact savesAlone_step hok hs ha

/-! Who is on the schedule. -/

/-- The last statement of a save does not fail. -/
def schedulesSaves (s : Server) : Action → Bool
  | .run i o => !(s.tasks[i]?.any (fun t => t.schedulesSave.isSome) && o.sqlFails)
  | _ => true

def OnSchedule (s : Server) (userID : Uuid) : Prop :=
  s.db.hasSchedule userID = true ∨ ∃ t ∈ s.tasks, t.schedulesSave = some userID

/-- Every user with credentials is on the schedule. -/
def AllScheduled (s : Server) : Prop :=
  ∀ row ∈ s.db.starbucksCredentials, s.db.hasUser row.userID = true ∧ s.OnSchedule row.userID

theorem hasSchedule_of_scheduledAt {now : Int} (h : db.scheduledAt userID now) :
    db.hasSchedule userID = true := by
  obtain ⟨r, hr, huser, _⟩ := h
  exact List.any_eq_true.mpr ⟨r, hr, beq_iff_eq.mpr huser⟩

theorem onSchedule_of_task {t : Task} (hok : s.schedulesSaves a = true)
    (huser : s.db.hasUser userID = true) (ht : t ∈ s.tasks) (hsave : t.schedulesSave = some userID)
    (h : s.step env a = some s') : s'.OnSchedule userID := by
  cases a with
  | run i o =>
    obtain ⟨u, w, u', jobs, hu, hrun, rfl⟩ := step_run h
    cases mem_pooled_of_mem hu ht u' (jobs.map ScrapeJob.task) with
    | inr hmem => exact .inr ⟨t, hmem, hsave⟩
    | inl heq =>
      subst heq
      have hsql : o.sqlFails = false := by simpa [schedulesSaves, hu, hsave] using hok
      cases runTask_cases hrun with
      | @writeCredentials w' uid pc pc' jobs hr =>
        cases writeCredentials_cases hr with
        | @scheduleFailed now hexec =>
          cases hsave
          obtain ⟨db, hdb, _⟩ := upsertSchedule_scheduled now huser
          simp [exec_executed hsql, hdb] at hexec
        | @schedule now db hexec =>
          cases hsave
          obtain ⟨db', hdb', hscheduled, _⟩ := upsertSchedule_scheduled now huser
          obtain rfl := Option.some.inj (hdb'.symm.trans (exec_eq_some hexec))
          exact .inl (hasSchedule_of_scheduledAt hscheduled)
        | _ => cases hsave
      | _ => cases hsave
  | schedule o =>
    obtain ⟨w, sch, jobs, hrun, rfl⟩ := step_schedule h
    exact .inr ⟨t, List.mem_append_left _ ht, hsave⟩
  | arrive r =>
    cases h
    exact .inr ⟨t, List.mem_append_left _ ht, hsave⟩
  | _ =>
    cases h
    exact .inr ⟨t, ht, hsave⟩

theorem onSchedule_of_upsert {row : StarbucksCredentials} (hne : s'.db ≠ s.db)
    (hx : s.write env a = some (.upsertCredentials row)) (h : s.step env a = some s') :
    s'.OnSchedule row.userID := by
  obtain ⟨i, o, t, rfl, ht, hw⟩ | ⟨o, rfl, hw⟩ := write_cases hx
  · cases hw with
    | upsertCredentials hseal =>
      obtain ⟨w, pc', jobs, hr, ht', hw'⟩ := step_save ht h
      cases writeCredentials_cases hr with
      | upsert =>
        refine .inr ⟨_, mem_of_getElem?_pool ht', ?_⟩
        rw [Task.schedulesSave, sealCredentials_userID hseal]
      | notSealed | upsertFailed => exact absurd (congrArg World.db hw') hne
  · generalize s.scheduler = sch at hw
    cases hw

theorem allScheduled_step (hok : s.schedulesSaves a = true) (hs : s.AllScheduled)
    (h : s.step env a = some s') : s'.AllScheduled := by
  have hkept : ∀ row ∈ s.db.starbucksCredentials, s'.db.hasUser row.userID = true →
      (s.db.hasSchedule row.userID = true → s'.db.hasSchedule row.userID = true) →
      s'.OnSchedule row.userID := by
    intro row hrow huser hschedule
    obtain ⟨hold, hon⟩ := hs row hrow
    cases hon with
    | inl hhas => exact .inl (hschedule hhas)
    | inr htask =>
      obtain ⟨t, ht, hsave⟩ := htask
      exact onSchedule_of_task hok hold ht hsave h
  intro row hrow
  by_cases hdb : s'.db = s.db
  · rw [hdb] at hrow ⊢
    refine ⟨(hs row hrow).1, hkept row hrow ?_ ?_⟩
    · rw [hdb]
      exact (hs row hrow).1
    · rw [hdb]
      exact id
  · cases step_wrote h with
    | same hsame => exact absurd hsame hdb
    | exec x hwr hexec _ =>
      have hdone := Write.done_of_exec hexec
      obtain ⟨row₀, hrow₀, heq, hne⟩ | ⟨rfl, huser⟩ := hdone.starbucksCredentials hrow
      · rw [← heq] at hne ⊢
        have huser := (hdone.hasUser (hs row₀ hrow₀).1).resolve_right hne
        refine ⟨huser, hkept row₀ hrow₀ huser fun hhas => ?_⟩
        obtain ⟨r, hr, hid⟩ := List.any_eq_true.mp hhas
        obtain ⟨r', hr', hid'⟩ := (hdone.scheduled hr (beq_iff_eq.mp hid)).resolve_right hne
        exact List.any_eq_true.mpr ⟨r', hr', beq_iff_eq.mpr hid'⟩
      · exact ⟨(hdone.hasUser huser).resolve_right nofun, onSchedule_of_upsert hdb hwr h⟩

theorem allScheduled_of_reaches (hdb : ∀ row ∈ db.starbucksCredentials,
      db.hasUser row.userID = true ∧ db.hasSchedule row.userID = true)
    (h : Reaches (step env) schedulesSaves (boot db start) s) : s.AllScheduled := by
  have hboot : (boot db start).AllScheduled := fun row hrow => ⟨(hdb row hrow).1, .inl (hdb row hrow).2⟩
  exact h.invariant hboot fun _ _ _ hok hs ha => allScheduled_step hok hs ha

/-- A save that nothing interferes with is all or nothing unless its last statement fails,
and in runs where none of these fails whoever has credentials is on the schedule. -/
theorem save_all_or_nothing {pc : WriteCredentialsPc} {o : Outcome} {r : Except HttpError Unit}
    (hdb : ∀ row ∈ db.starbucksCredentials,
      db.hasUser row.userID = true ∧ db.hasSchedule row.userID = true)
    (ht : s.tasks[i]? = some (.writeCredentials userID (.credentialLimit body)))
    (hrun : Reaches (step env) (solo i) s s₁)
    (hpc : s₁.tasks[i]? = some (.writeCredentials userID pc))
    (hlast : s₁.step env (.run i o) = some s')
    (hanswer : s'.tasks[i]? = some (.writeCredentials userID (.answered r))) :
    (AllOrNothing env userID body pc.savedAt s.db s'.db r ↔
      ∀ now, pc.savedAt = some now → o.sqlFails = false ∨ s₁.db.scheduledAt userID now) ∧
    (∀ now, pc.savedAt = some now → unix s.now ≤ now ∧ now ≤ unix s₁.now) ∧
    ∀ s₂, Reaches (step env) schedulesSaves (boot db start) s₂ → s₂.AllScheduled := by
  obtain ⟨_, pc₁, hpc₁, hsaving, hsaved⟩ := savesAlone_of_reaches ht hrun
  cases hpc.symm.trans hpc₁
  obtain ⟨w, pc', jobs, hr, ht', rfl⟩ := step_save hpc hlast
  cases hanswer.symm.trans ht'
  exact ⟨allOrNothing_of_answer hr hsaving, hsaved, fun _ hs => allScheduled_of_reaches hdb hs⟩

def unscheduledDB : DB := { sessionDB with scrapeSchedule := .empty }

def saveBegun : List Action :=
  [.arrive (.authed "tok" (.writeCredentials (.ok sampleInput))), .run 0 {}]

def saving : Server := after (step sampleEnv) anyStep (boot unscheduledDB 0) saveBegun

def stored : Server := after (step sampleEnv) (solo 0) saving (statements 0 5)

def answeredWith (o : Outcome) : Server := (stored.step sampleEnv (.run 0 o)).getD stored

theorem reaches_saving : Reaches (step sampleEnv) anyStep (boot unscheduledDB 0) saving :=
  reaches_after (by decide +kernel)

theorem reaches_stored : Reaches (step sampleEnv) (solo 0) saving stored :=
  reaches_after (by decide +kernel)

theorem save_all_or_nothing_first : (answeredWith {}).AllScheduled ∧
    AllOrNothing sampleEnv "u1" (.ok sampleInput) (some 0) saving.db (answeredWith {}).db (.ok ()) := by
  have hdb : ∀ row ∈ unscheduledDB.starbucksCredentials,
      unscheduledDB.hasUser row.userID = true ∧ unscheduledDB.hasSchedule row.userID = true :=
    fun row hrow => absurd hrow List.not_mem_nil
  have ht : saving.tasks[0]? = some (.writeCredentials "u1" (.credentialLimit (.ok sampleInput))) := rfl
  have hpc : stored.tasks[0]? = some (.writeCredentials "u1" (.schedule 0)) := rfl
  have hlast : stored.step sampleEnv (.run 0 {}) = some (answeredWith {}) := rfl
  have hanswer : (answeredWith {}).tasks[0]? = some (.writeCredentials "u1" (.answered (.ok ()))) := rfl
  obtain ⟨hiff, _, hrest⟩ : _ ∧ _ ∧ ∀ s₂, Reaches (step sampleEnv) schedulesSaves
      (boot unscheduledDB 0) s₂ → s₂.AllScheduled :=
    save_all_or_nothing hdb ht reaches_stored hpc hlast hanswer
  have hrun : runWithin (step sampleEnv) schedulesSaves (boot unscheduledDB 0)
      (saveBegun ++ statements 0 6) = some (answeredWith {}) := rfl
  exact ⟨hrest _ (reaches_of_runWithin hrun), hiff.mpr fun _ _ => .inl rfl⟩

/-- The context of the request ends before the last statement: the answer is 200, and the
user has credentials and no schedule. -/
theorem save_unscheduled : ∃ s s₁ s' o,
    Reaches (step sampleEnv) anyStep (boot unscheduledDB 0) s ∧
    s.tasks[0]? = some (.writeCredentials "u1" (.credentialLimit (.ok sampleInput))) ∧
    Reaches (step sampleEnv) (solo 0) s s₁ ∧
    s₁.tasks[0]? = some (.writeCredentials "u1" (.schedule 0)) ∧
    s₁.step sampleEnv (.run 0 o) = some s' ∧
    s'.tasks[0]? = some (.writeCredentials "u1" (.answered (.ok ()))) ∧
    ¬ AllOrNothing sampleEnv "u1" (.ok sampleInput) (some 0) s.db s'.db (.ok ()) ∧
    ¬ s'.AllScheduled := by
  refine ⟨saving, stored, answeredWith { sqlFails := true }, { sqlFails := true }, reaches_saving, rfl,
    reaches_stored, rfl, rfl, rfl, ?_, ?_⟩
  · rintro ⟨_, _, _, _, _, r, hr, _⟩
    exact absurd hr List.not_mem_nil
  · intro hall
    obtain ⟨row, hrow⟩ : ∃ row, row ∈ (answeredWith { sqlFails := true }).db.starbucksCredentials :=
      ⟨_, List.mem_cons_self⟩
    have hpast : (answeredWith { sqlFails := true }).tasks.all (fun t => t.schedulesSave == none) = true :=
      rfl
    cases (hall row hrow).2 with
    | inl hhas => cases hhas
    | inr htask =>
      obtain ⟨t, ht, hsave⟩ := htask
      have hnone := List.all_eq_true.mp hpast t ht
      simp [hsave] at hnone

end Server
end ScheduleSync
