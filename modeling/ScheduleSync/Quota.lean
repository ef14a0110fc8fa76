import Mathlib.Data.List.Nodup
import ScheduleSync.HandlerSteps
import ScheduleSync.NaiveLimiter
import ScheduleSync.Saves
import ScheduleSync.Separation

/-! The scrape quota. writeCredentials asks scrapeRL before it looks at the body and long
before it starts a scrape, and no exit in between gives the entry back. The entries count
scrapes in those runs where whoever was let through gets to TriggerScrape. -/
namespace ScheduleSync

/-- scrapeRL let a save through, with the reading it made. -/
structure Admission where
  task : Nat
  userID : Uuid
  reading : Int
deriving DecidableEq

abbrev Triggered := Nat × Uuid

inductive SaveEvent where
  | admitted (e : Admission)
  | triggered (e : Triggered)

def SaveEvent.admission : SaveEvent → Option Admission
  | .admitted e => some e
  | .triggered _ => none

def SaveEvent.trigger : SaveEvent → Option Triggered
  | .admitted _ => none
  | .triggered e => some e

section Ledger
variable (record : List SaveEvent)

def admissions : List Admission := record.filterMap SaveEvent.admission

def triggers : List Triggered := record.filterMap SaveEvent.trigger

@[simp] theorem admissions_admitted (e : Admission) :
    admissions (.admitted e :: record) = e :: admissions record := rfl
@[simp] theorem admissions_triggered (e : Triggered) :
    admissions (.triggered e :: record) = admissions record := rfl
@[simp] theorem triggers_admitted (e : Admission) :
    triggers (.admitted e :: record) = triggers record := rfl
@[simp] theorem triggers_triggered (e : Triggered) :
    triggers (.triggered e :: record) = e :: triggers record := rfl

def quotaHistory : List (String × Int) := (admissions record).map fun e => (e.userID, e.reading)

/-- The reading of the save that started the scrape is from `a` to `b`. -/
def Triggered.within (a b : Int) (e : Triggered) : Bool :=
  (admissions record).any fun x => x.task == e.1 && decide (a ≤ x.reading ∧ x.reading ≤ b)

def scrapesWithin (userID : Uuid) (a b : Int) : Nat :=
  (triggers record).countP fun e => e.2 == userID && e.within record a b

end Ledger

def Task.saveProgress : Task → Option (Uuid × Bool)
  | .writeCredentials userID (.selectDEK _) => some (userID, false)
  | .writeCredentials userID (.insertDEK _) => some (userID, false)
  | .writeCredentials userID (.upsert _ _) => some (userID, false)
  | .writeCredentials userID (.schedule _) => some (userID, false)
  | .writeCredentials userID (.answered (.ok _)) => some (userID, true)
  | _ => none

def WriteCredentialsPc.succeeds (env : Env) (o : Outcome) (w : World) (userID : Uuid) :
    WriteCredentialsPc → Bool
  | .scrapeLimit body => !(w.scrapeRL.allow w.now userID).2 || body.isOk
  | .selectDEK _ => !o.sqlFails && (w.db.userDEK userID).all fun dek => (env.crypto.decryptDEK dek).isSome
  | .insertDEK _ =>
    !o.sqlFails && !o.randFails && (env.crypto.generateDEK o.dek o.dekNonce).isSome &&
      w.db.hasUser userID && (w.db.userDEK userID).isNone
  | .upsert input plainDEK =>
    !o.sqlFails && !o.randFails && w.db.hasUser userID &&
      (sealCredentials env.crypto env.json plainDEK o.nonces userID input (unix w.now)).isSome
  | _ => true

section Statements
variable {env : Env} {o : Outcome} {w w' : World} {userID : Uuid}

structure SameQuota (w w' : World) : Prop where
  now : w'.now = w.now
  scrapeRL : w'.scrapeRL = w.scrapeRL

theorem SameQuota.refl (w : World) : SameQuota w w := ⟨rfl, rfl⟩

theorem SameQuota.execDropped (o : Outcome) (db : DB) : SameQuota w (w.execDropped o db) := by
  unfold World.execDropped
  split <;> exact ⟨rfl, rfl⟩

theorem SameQuota.scheduleNext (o : Outcome) (logID userID : Uuid) :
    SameQuota w (w.scheduleNext o logID userID) := by
  unfold World.scheduleNext World.execDropped
  split <;> exact ⟨rfl, rfl⟩

theorem findOrCreateUser_quota {email : String} {pc : FindUserPc} {r : FindUserResult}
    (h : findOrCreateUser o w email pc = some (w', r)) : SameQuota w w' := by
  cases findOrCreateUser_cases h <;> exact ⟨rfl, rfl⟩

theorem runTask_quota {t t' : Task} {jobs : List ScrapeJob} (h : runTask env o w t = some (w', t', jobs))
    (ht : ∀ userID pc, t ≠ .writeCredentials userID pc) : SameQuota w w' := by
  cases runTask_cases h with
  | getCredentials hr =>
    cases scrapeGetCredentials_reads hr with
    | inl hw =>
      rw [hw]
      exact .refl w
    | inr hw =>
      rw [hw.2]
      exact .execDropped o _
  | submitShifts hr =>
    cases scrapeSubmitShifts_cases hr with
    | finished => exact .execDropped o _
    | scheduleNext => exact .scheduleNext o _ _
    | _ => exact ⟨rfl, rfl⟩
  | submitFailure hr =>
    cases scrapeSubmitFailure_cases hr with
    | markFailed => exact .execDropped o _
    | scheduleNext => exact .scheduleNext o _ _
    | _ => exact ⟨rfl, rfl⟩
  | scrape hr =>
    cases scrapeForUser_cases hr with
    | saveContainerID | retried | gaveUp => exact .execDropped o _
    | scheduleNext => exact .scheduleNext o _ _
    | _ => exact ⟨rfl, rfl⟩
  | requestPin hr =>
    cases requestPin_cases hr with
    | find hfind | found hfind | notFound hfind => exact findOrCreateUser_quota hfind
    | _ => exact ⟨rfl, rfl⟩
  | verifyPin hr =>
    cases verifyPin_cases hr with
    | find hfind | found hfind | notFound hfind => exact findOrCreateUser_quota hfind
    | _ => exact ⟨rfl, rfl⟩
  | logout =>
    unfold logout
    split_ifs
    · exact .refl w
    · exact .execDropped o _
  | refused | begun => exact .refl w
  | writeCredentials => exact absurd rfl (ht _ _)
  | deleteAccount =>
    unfold deleteAccount
    split_ifs <;> exact ⟨rfl, rfl⟩
  | @updateTimezone _ body =>
    cases body with
    | error msg => exact .refl w
    | ok tz =>
      simp only [updateTimezone]
      split_ifs <;> exact ⟨rfl, rfl⟩

theorem runScheduler_quota {waited : Bool} {sch sch' : Scheduler} {jobs : List ScrapeJob}
    (h : runScheduler o w waited sch = some (w', sch', jobs)) : SameQuota w w' := by
  cases runScheduler_cases h with
  | reapMark => exact .execDropped o _
  | reapSchedule => exact .scheduleNext o _ _
  | retention => exact .execDropped o _
  | _ => exact ⟨rfl, rfl⟩

theorem insertDEK_stored {db : DB} {dek : UserDEK} (huser : db.hasUser dek.userID = true)
    (hnone : db.userDEK dek.userID = none) : db.insertDEK dek ≠ none := by
  rw [DB.insertDEK, if_pos huser, ne_eq, Option.map_eq_none_iff]
  intro hins
  obtain ⟨x, hx, hclash⟩ := Table.insert_eq_none hins
  have hsame : x.userID = dek.userID := hclash
  have hother := Table.queryRow_none hnone x hx
  exact absurd hsame (by simpa using hother)

theorem upsertCredentials_stored_of_user {db : DB} {row : StarbucksCredentials}
    (huser : db.hasUser row.userID = true) : db.upsertCredentials row ≠ none := by
  rw [DB.upsertCredentials, if_pos huser]
  split_ifs with hany
  · exact Option.some_ne_none _
  · rw [ne_eq, Option.map_eq_none_iff]
    intro hins
    obtain ⟨x, hx, hclash⟩ := Table.insert_eq_none hins
    exact hany (List.any_eq_true.mpr ⟨x, hx, beq_iff_eq.mpr hclash⟩)

/-- What a step of the save of task `i` records. -/
def Task.saveEvent (i : Nat) (w : World) : Task → Option SaveEvent
  | .writeCredentials userID (.scrapeLimit _) =>
    if (w.scrapeRL.allow w.now userID).2 then some (.admitted ⟨i, userID, w.now⟩) else none
  | .writeCredentials userID (.schedule _) => some (.triggered (i, userID))
  | _ => none

inductive SaveStep (i : Nat) (w w' : World) :
    Option (Uuid × Bool) → Option (Uuid × Bool) → Option SaveEvent → Prop
  | other {p : Option (Uuid × Bool)} (hrl : w'.scrapeRL = w.scrapeRL) : SaveStep i w w' p p none
  | refused {userID : Uuid} (hno : (w.scrapeRL.allow w.now userID).2 = false)
      (hrl : w'.scrapeRL = (w.scrapeRL.allow w.now userID).1) : SaveStep i w w' none none none
  | admitted {userID : Uuid} (hyes : (w.scrapeRL.allow w.now userID).2 = true)
      (hrl : w'.scrapeRL = (w.scrapeRL.allow w.now userID).1) :
      SaveStep i w w' none (some (userID, false)) (some (.admitted ⟨i, userID, w.now⟩))
  | triggered {userID : Uuid} (hrl : w'.scrapeRL = w.scrapeRL) :
      SaveStep i w w' (some (userID, false)) (some (userID, true)) (some (.triggered (i, userID)))

theorem writeCredentials_quota {i : Nat} {pc pc' : WriteCredentialsPc} {jobs : List ScrapeJob}
    (h : writeCredentials env o w userID pc = some (w', pc', jobs))
    (hok : pc.succeeds env o w userID = true) : w'.now = w.now ∧
      SaveStep i w w' (Task.writeCredentials userID pc).saveProgress
        (Task.writeCredentials userID pc').saveProgress
        ((Task.writeCredentials userID pc).saveEvent i w) := by
  cases writeCredentials_cases h with
  | credentialLimited | credentialLimit => exact ⟨rfl, .other rfl⟩
  | @scrapeLimited body rl hallow =>
    refine ⟨rfl, ?_⟩
    rw [Task.saveEvent, hallow, if_neg Bool.false_ne_true]
    exact .refused (by rw [hallow]) (by rw [hallow])
  | @badBody msg rl hallow =>
    rw [WriteCredentialsPc.succeeds, hallow] at hok
    cases hok
  | @scrapeLimit input rl hallow =>
    refine ⟨rfl, ?_⟩
    rw [Task.saveEvent, hallow, if_pos rfl]
    exact .admitted (by rw [hallow]) (by rw [hallow])
  | selectFailed hsql => simp [WriteCredentialsPc.succeeds, hsql] at hok
  | notDecrypted hsql hdek hplain => simp [WriteCredentialsPc.succeeds, hdek, hplain] at hok
  | noDEK | selectDEK | insertDEK | upsert => exact ⟨rfl, .other rfl⟩
  | notGenerated hgen =>
    cases hrand : o.randFails with
    | true => simp [WriteCredentialsPc.succeeds, hrand] at hok
    | false =>
      rw [hrand, if_neg Bool.false_ne_true] at hgen
      simp [WriteCredentialsPc.succeeds, hgen] at hok
  | insertFailed hrand hgen hexec =>
    simp only [WriteCredentialsPc.succeeds, Bool.and_eq_true, Bool.not_eq_true', Option.isNone_iff_eq_none]
      at hok
    obtain ⟨⟨⟨⟨hsql, _⟩, _⟩, huser⟩, hnone⟩ := hok
    rw [exec_executed hsql] at hexec
    exact absurd hexec (insertDEK_stored huser hnone)
  | notSealed hseal =>
    cases hrand : o.randFails with
    | true => simp [WriteCredentialsPc.succeeds, hrand] at hok
    | false =>
      rw [hrand, if_neg Bool.false_ne_true] at hseal
      simp [WriteCredentialsPc.succeeds, hseal] at hok
  | upsertFailed hrand hseal hexec =>
    simp only [WriteCredentialsPc.succeeds, Bool.and_eq_true, Bool.not_eq_true'] at hok
    obtain ⟨⟨⟨hsql, _⟩, huser⟩, _⟩ := hok
    rw [exec_executed hsql] at hexec
    rw [← sealCredentials_userID hseal] at huser
    exact absurd hexec (upsertCredentials_stored_of_user huser)
  | scheduleFailed | schedule => exact ⟨rfl, .triggered rfl⟩

theorem runTask_save {i : Nat} {t t' : Task} {jobs : List ScrapeJob}
    (h : runTask env o w t = some (w', t', jobs))
    (hok : ∀ userID pc, t = .writeCredentials userID pc → pc.succeeds env o w userID = true) :
    w'.now = w.now ∧ SaveStep i w w' t.saveProgress t'.saveProgress (t.saveEvent i w) := by
  by_cases hsave : ∀ userID pc, t ≠ .writeCredentials userID pc
  · obtain ⟨hnow, hrl⟩ := runTask_quota h hsave
    have hnone : t.saveProgress = none ∧ t'.saveProgress = none ∧ t.saveEvent i w = none := by
      cases runTask_cases h with
      | writeCredentials => exact absurd rfl (hsave _ _)
      | begun hb => cases AuthedRequest.begin_cases hb <;> exact ⟨rfl, rfl, rfl⟩
      | _ => exact ⟨rfl, rfl, rfl⟩
    obtain ⟨hp, hp', hevent⟩ := hnone
    rw [hp, hp', hevent]
    exact ⟨hnow, .other hrl⟩
  · push Not at hsave
    obtain ⟨userID, pc, rfl⟩ := hsave
    cases runTask_cases h with
    | writeCredentials hr => exact writeCredentials_quota hr (hok userID pc rfl)

end Statements

/-! What the record says of each save. -/

/-- The entries of one task: none, its admission, or its admission and its scrape. -/
inductive Entered (i : Nat) : Option (Uuid × Bool) → List Admission → List Triggered → Prop
  | none : Entered i none [] []
  | admitted {userID : Uuid} {reading : Int} : Entered i (some (userID, false)) [⟨i, userID, reading⟩] []
  | triggered {userID : Uuid} {reading : Int} :
      Entered i (some (userID, true)) [⟨i, userID, reading⟩] [(i, userID)]

theorem Entered.length_le {i : Nat} {progress : Option (Uuid × Bool)} {adm : List Admission}
    {trig : List Triggered} (h : Entered i progress adm trig) : adm.length ≤ 1 ∧ trig.length ≤ 1 := by
  cases h <;> simp

theorem nodup_map_of_filter {α κ : Type*} [DecidableEq κ] {f : α → κ} {l : List α}
    (h : ∀ k, (l.filter fun a => f a == k).length ≤ 1) : (l.map f).Nodup := by
  rw [List.nodup_iff_count_le_one]
  intro k
  rw [List.count, List.countP_map, List.countP_eq_length_filter]
  exact h k

namespace Server
variable {env : Env} {s s' : Server} {a : Action} {o : Outcome} {db : DB} {start : Int} {i : Nat}
  {record : List SaveEvent}

def saveEvent (s : Server) : Action → Option SaveEvent
  | .run i _ => s.tasks[i]?.bind (Task.saveEvent i s.toWorld)
  | _ => none

/-- Saves that were let through do not end with an error. -/
def savesSucceed (env : Env) (s : Server) : Action → Bool
  | .run i o =>
    match s.tasks[i]? with
    | some (.writeCredentials userID pc) => pc.succeeds env o s.toWorld userID
    | _ => true
  | _ => true

def pendingWithin (s : Server) (record : List SaveEvent) (userID : Uuid) (a b : Int) : Nat :=
  (admissions record).countP fun e => e.userID == userID && decide (a ≤ e.reading ∧ e.reading ≤ b) &&
    (s.tasks[e.task]?.bind Task.saveProgress) == some (userID, false)

/-- The quota counts scrapes: a save that ends without one leaves no entry, the entries of any
window are those of its scrapes and of the saves that are about to start one, and scrapeRL
itself has the entries of the last 48 hours. -/
structure QuotaCounts (s : Server) (record : List SaveEvent) : Prop where
  unspent : ∀ i userID err, s.tasks[i]? = some (.writeCredentials userID (.answered (.error err))) →
    ∀ e ∈ admissions record, e.task ≠ i
  counted : ∀ userID a b, admittedWithin userID a b (quotaHistory record) =
    scrapesWithin record userID a b + s.pendingWithin record userID a b
  stored : ∀ userID, (s.scrapeRL.requests userID).countP (fun t => decide (s.now - 48 * hour ≤ t)) =
    admittedSince userID (s.now - 48 * hour) (quotaHistory record)

/-- What every step keeps: scrapeRL stands for its history, and the record tells of each task
how far its save is. -/
structure Quota (s : Server) (record : List SaveEvent) : Prop where
  limiter : Tracks s.scrapeRL (quotaHistory record) s.now
  window : s.scrapeRL.window = 48 * hour
  entered : ∀ i, Entered i (s.tasks[i]?.bind Task.saveProgress)
    ((admissions record).filter fun e => e.task == i) ((triggers record).filter fun e => e.1 == i)

theorem progress_arrived {ts us : List Task} (hus : ∀ t ∈ us, t.saveProgress = none) (i : Nat) :
    (ts ++ us)[i]?.bind Task.saveProgress = ts[i]?.bind Task.saveProgress := by
  rw [List.getElem?_append]
  split_ifs with hlt
  · rfl
  · rw [List.getElem?_eq_none (Nat.le_of_not_lt hlt), Option.bind_none]
    cases hu : us[i - ts.length]? with
    | none => rfl
    | some u => exact hus u (List.mem_of_getElem? hu)

theorem entered_step {w : World} {p p' : Option (Uuid × Bool)} {event : Option SaveEvent}
    (h : SaveStep i s.toWorld w p p' event)
    (hi : Entered i p ((admissions record).filter fun e => e.task == i)
      ((triggers record).filter fun e => e.1 == i)) :
    Entered i p' ((admissions (event.toList ++ record)).filter fun e => e.task == i)
      ((triggers (event.toList ++ record)).filter fun e => e.1 == i) ∧
    ∀ j, j ≠ i →
      ((admissions (event.toList ++ record)).filter fun e => e.task == j) =
        ((admissions record).filter fun e => e.task == j) ∧
      ((triggers (event.toList ++ record)).filter fun e => e.1 == j) =
        (triggers record).filter fun e => e.1 == j := by
  cases h with
  | other | refused => exact ⟨hi, fun _ _ => ⟨rfl, rfl⟩⟩
  | @admitted userID =>
    generalize hadm : (admissions record).filter (fun e => e.task == i) = adm at hi
    generalize htrig : (triggers record).filter (fun e => e.1 == i) = trig at hi
    cases hi
    rw [Option.toList_some, List.singleton_append, admissions_admitted, triggers_admitted]
    refine ⟨?_, fun j hj => ⟨?_, rfl⟩⟩
    · rw [List.filter_cons_of_pos, hadm, htrig]
      · exact .admitted
      · exact beq_self_eq_true i
    · exact List.filter_cons_of_neg (by simpa using Ne.symm hj)
  | @triggered userID =>
    generalize hadm : (admissions record).filter (fun e => e.task == i) = adm at hi
    generalize htrig : (triggers record).filter (fun e => e.1 == i) = trig at hi
    cases hi with
    | @admitted _ reading =>
      rw [Option.toList_some, List.singleton_append, admissions_triggered, triggers_triggered]
      refine ⟨?_, fun j hj => ⟨rfl, ?_⟩⟩
      · rw [List.filter_cons_of_pos, hadm, htrig]
        · exact .triggered
        · exact beq_self_eq_true i
      · exact List.filter_cons_of_neg (by simpa using Ne.symm hj)

theorem limiter_step {w : World} {p p' : Option (Uuid × Bool)} {event : Option SaveEvent}
    (h : SaveStep i s.toWorld w p p' event) (hs : Tracks s.scrapeRL (quotaHistory record) s.now) :
    Tracks w.scrapeRL (quotaHistory (event.toList ++ record)) s.now ∧
      w.scrapeRL.window = s.scrapeRL.window := by
  cases h with
  | other hrl | triggered hrl =>
    rw [hrl]
    exact ⟨hs, rfl⟩
  | @refused userID hno hrl =>
    rw [hrl]
    refine ⟨?_, RateLimiter.allow_window ..⟩
    have hallow := hs.allow userID le_rfl
    rw [hno, if_neg Bool.false_ne_true] at hallow
    exact hallow
  | @admitted userID hyes hrl =>
    rw [hrl]
    refine ⟨?_, RateLimiter.allow_window ..⟩
    have hallow := hs.allow userID le_rfl
    rw [hyes, if_pos rfl] at hallow
    exact hallow

theorem quota_run (hs : s.Quota record) (hok : s.savesSucceed env (.run i o) = true)
    (h : s.step env (.run i o) = some s') : s'.Quota ((s.saveEvent (.run i o)).toList ++ record) := by
  obtain ⟨t, w, t', jobs, ht, hrun, rfl⟩ := step_run h
  obtain ⟨hlt, _⟩ := List.getElem?_eq_some_iff.mp ht
  have hpc : ∀ userID pc, t = .writeCredentials userID pc → pc.succeeds env o s.toWorld userID = true := by
    rintro userID pc rfl
    simpa only [savesSucceed, ht] using hok
  obtain ⟨hnow, hsave⟩ := runTask_save (i := i) hrun hpc
  have hevent : s.saveEvent (.run i o) = t.saveEvent i s.toWorld := by simp [saveEvent, ht]
  have hjobs : ∀ u ∈ jobs.map ScrapeJob.task, u.saveProgress = none := by
    intro u hu
    obtain ⟨job, _, rfl⟩ := List.mem_map.mp hu
    rfl
  have hi := hs.entered i
  rw [ht, Option.bind_some] at hi
  obtain ⟨hlimiter, hwindow⟩ := limiter_step hsave hs.limiter
  obtain ⟨hmine, hothers⟩ := entered_step hsave hi
  rw [hevent]
  refine ⟨?_, hwindow.trans hs.window, fun j => ?_⟩
  · dsimp only
    rw [hnow]
    exact hlimiter
  · dsimp only
    rw [pooled, progress_arrived hjobs]
    by_cases hj : j = i
    · subst hj
      rw [List.getElem?_set_self hlt, Option.bind_some]
      exact hmine
    · obtain ⟨hadm, htrig⟩ := hothers j hj
      rw [List.getElem?_set_ne (Ne.symm hj), hadm, htrig]
      exact hs.entered j

theorem quota_step (hs : s.Quota record) (hok : s.savesSucceed env a = true)
    (h : s.step env a = some s') : s'.Quota ((s.saveEvent a).toList ++ record) := by
  cases a with
  | run i o => exact quota_run hs hok h
  | schedule o =>
    obtain ⟨w, sch, jobs, hrun, rfl⟩ := step_schedule h
    obtain ⟨hnow, hrl⟩ := runScheduler_quota hrun
    refine ⟨?_, ?_, fun i => ?_⟩
    · dsimp only
      rw [hnow, hrl]
      exact hs.limiter
    · dsimp only
      rw [hrl]
      exact hs.window
    · dsimp only
      rw [progress_arrived]
      · exact hs.entered i
      · intro u hu
        obtain ⟨job, _, rfl⟩ := List.mem_map.mp hu
        rfl
  | arrive r =>
    cases h
    refine ⟨hs.limiter, hs.window, fun i => ?_⟩
    dsimp only
    rw [progress_arrived]
    · exact hs.entered i
    · intro u hu
      rw [List.mem_singleton.mp hu]
      cases r <;> rfl
  | advance d =>
    cases h
    exact ⟨hs.limiter.mono (by dsimp only; omega), hs.window, hs.entered⟩
  | sweepLimiters =>
    cases h
    refine ⟨?_, hs.window, hs.entered⟩
    have hsweep := hs.limiter.sweep s.now
    rwa [max_self] at hsweep
  | containerExit | cleanupPins =>
    cases h
    exact ⟨hs.limiter, hs.window, hs.entered⟩

theorem quota_boot : (boot db start).Quota [] where
  limiter := tracks_new 10 (48 * hour) start
  window := rfl
  entered _ := .none

theorem entered_of_admission (hs : s.Quota record) {e : Admission} (he : e ∈ admissions record) :
    ∃ done, s.tasks[e.task]?.bind Task.saveProgress = some (e.userID, done) ∧
      ((admissions record).filter fun x => x.task == e.task) = [e] ∧
      ((triggers record).filter fun x => x.1 == e.task) = if done then [(e.task, e.userID)] else [] := by
  have hmem : e ∈ (admissions record).filter fun x => x.task == e.task :=
    List.mem_filter.mpr ⟨he, beq_self_eq_true _⟩
  have hentered := hs.entered e.task
  generalize s.tasks[e.task]?.bind Task.saveProgress = progress at hentered
  generalize (admissions record).filter (fun x => x.task == e.task) = adm at hmem hentered
  generalize (triggers record).filter (fun x => x.1 == e.task) = trig at hentered
  cases hentered with
  | none => exact absurd hmem List.not_mem_nil
  | admitted =>
    rw [List.mem_singleton.mp hmem]
    exact ⟨false, rfl, rfl, rfl⟩
  | triggered =>
    rw [List.mem_singleton.mp hmem]
    exact ⟨true, rfl, rfl, rfl⟩

theorem admission_of_trigger (hs : s.Quota record) {t : Triggered} (ht : t ∈ triggers record) :
    s.tasks[t.1]?.bind Task.saveProgress = some (t.2, true) ∧
      ∃ reading, ⟨t.1, t.2, reading⟩ ∈ admissions record := by
  have hmem : t ∈ (triggers record).filter fun x => x.1 == t.1 :=
    List.mem_filter.mpr ⟨ht, beq_self_eq_true _⟩
  have hsub : ∀ e ∈ (admissions record).filter (fun x => x.task == t.1), e ∈ admissions record :=
    fun e he => (List.mem_filter.mp he).1
  have hentered := hs.entered t.1
  generalize s.tasks[t.1]?.bind Task.saveProgress = progress at hentered ⊢
  generalize (admissions record).filter (fun x => x.task == t.1) = adm at hsub hentered
  generalize (triggers record).filter (fun x => x.1 == t.1) = trig at hmem hentered
  cases hentered with
  | none | admitted => exact absurd hmem List.not_mem_nil
  | triggered =>
    rw [List.mem_singleton.mp hmem]
    exact ⟨rfl, _, hsub _ List.mem_cons_self⟩

def isDone (s : Server) (e : Admission) : Bool :=
  s.tasks[e.task]?.bind Task.saveProgress == some (e.userID, true)

theorem triggers_perm (hs : s.Quota record) :
    (((admissions record).filter s.isDone).map fun e => (e.task, e.userID)).Perm (triggers record) := by
  have hadm : ((admissions record).map Admission.task).Nodup :=
    nodup_map_of_filter fun i => (hs.entered i).length_le.1
  have htrig : ((triggers record).map Prod.fst).Nodup :=
    nodup_map_of_filter fun i => (hs.entered i).length_le.2
  have hdone : (((admissions record).filter s.isDone).map fun e => (e.task, e.userID)).Nodup := by
    refine List.Nodup.of_map Prod.fst ?_
    rw [List.map_map]
    exact hadm.sublist (List.filter_sublist.map _)
  rw [List.perm_ext_iff_of_nodup hdone htrig.of_map]
  intro t
  constructor
  · intro ht
    obtain ⟨e, he, rfl⟩ := List.mem_map.mp ht
    obtain ⟨hmem, hisDone⟩ := List.mem_filter.mp he
    obtain ⟨done, hprogress, _, hfilter⟩ := entered_of_admission hs hmem
    rw [isDone, hprogress, beq_iff_eq] at hisDone
    cases hisDone
    have hin : (e.task, e.userID) ∈ (triggers record).filter fun x => x.1 == e.task := by
      rw [hfilter]
      exact List.mem_singleton_self _
    exact (List.mem_filter.mp hin).1
  · intro ht
    obtain ⟨hprogress, reading, hmem⟩ := admission_of_trigger hs ht
    refine List.mem_map.mpr ⟨_, List.mem_filter.mpr ⟨hmem, ?_⟩, rfl⟩
    rw [isDone, hprogress]
    exact beq_self_eq_true _

theorem within_iff (hs : s.Quota record) {e : Admission} (he : e ∈ admissions record) (a b : Int) :
    Triggered.within record a b (e.task, e.userID) = decide (a ≤ e.reading ∧ e.reading ≤ b) := by
  obtain ⟨_, _, hfilter, _⟩ := entered_of_admission hs he
  rw [Triggered.within, Bool.eq_iff_iff, List.any_eq_true, decide_eq_true_iff]
  constructor
  · rintro ⟨x, hx, hin⟩
    rw [Bool.and_eq_true, decide_eq_true_iff] at hin
    have hmem : x ∈ (admissions record).filter fun y => y.task == e.task := List.mem_filter.mpr ⟨hx, hin.1⟩
    rw [hfilter, List.mem_singleton] at hmem
    rw [← hmem]
    exact hin.2
  · intro hin
    exact ⟨e, he, by simp [hin]⟩

theorem quota_counted (hs : s.Quota record) (userID : Uuid) (a b : Int) :
    admittedWithin userID a b (quotaHistory record) =
      scrapesWithin record userID a b + s.pendingWithin record userID a b := by
  let inside : Admission → Bool := fun e => e.userID == userID && decide (a ≤ e.reading ∧ e.reading ≤ b)
  have hscrapes : scrapesWithin record userID a b =
      (admissions record).countP fun e => inside e && s.isDone e := by
    calc scrapesWithin record userID a b
        = (((admissions record).filter s.isDone).map fun e => (e.task, e.userID)).countP
            (fun t => t.2 == userID && Triggered.within record a b t) := ((triggers_perm hs).countP_eq _).symm
      _ = ((admissions record).filter s.isDone).countP inside := by
          rw [List.countP_map]
          refine List.countP_congr fun e he => ?_
          simp only [Function.comp_apply, within_iff hs (List.mem_filter.mp he).1, inside]
      _ = (admissions record).countP fun e => inside e && s.isDone e := List.countP_filter
  have hpending : s.pendingWithin record userID a b =
      (admissions record).countP fun e => inside e && !s.isDone e := by
    refine List.countP_congr fun e he => ?_
    obtain ⟨done, hprogress, _⟩ := entered_of_admission hs he
    simp only [isDone, hprogress, inside, Bool.and_eq_true, beq_iff_eq]
    cases done <;> simp +contextual
  have hentries : admittedWithin userID a b (quotaHistory record) = (admissions record).countP inside := by
    rw [admittedWithin, quotaHistory, List.countP_map]
    rfl
  rw [hentries, hscrapes, hpending, List.countP_eq_countP_filter_add _ inside s.isDone, List.countP_filter,
    List.countP_filter]

theorem scrape_quota_counts
    (h : Reaches (recorded (step env) saveEvent) (fun p => p.1.savesSucceed env) (boot db start, [])
      (s, record)) : s.QuotaCounts record := by
  have hs : s.Quota record :=
    h.invariant_recorded (I := Quota) quota_boot fun _ _ _ _ hok hs hstep => quota_step hs hok hstep
  refine ⟨?_, quota_counted hs, fun userID => ?_⟩
  · rintro i userID err ht e he rfl
    obtain ⟨_, hprogress, _⟩ := entered_of_admission hs he
    rw [ht] at hprogress
    cases hprogress
  · have hcounts := hs.limiter.counts userID s.now le_rfl
    rwa [hs.window] at hcounts

def savedOnce : Server × List SaveEvent :=
  after (recorded (step sampleEnv) saveEvent) (fun p => p.1.savesSucceed sampleEnv) (boot unscheduledDB 0, [])
    firstSave

theorem scrape_quota_counts_first : savedOnce.1.QuotaCounts savedOnce.2 ∧ triggers savedOnce.2 = [(0, "u1")] := by
  have hrun : Reaches (recorded (step sampleEnv) saveEvent) (fun p => p.1.savesSucceed sampleEnv)
      (boot unscheduledDB 0, []) (savedOnce.1, savedOnce.2) :=
    reaches_recorded_after (by decide +kernel)
  exact ⟨scrape_quota_counts hrun, by decide +kernel⟩

def malformedSaves : List Action :=
  (List.range 10).flatMap (fun i => .arrive (.authed "tok" (.writeCredentials (.error "EOF"))) ::
    statements i 3 ++ [.advance (31 * 1000000000)]) ++
    .arrive (.authed "tok" (.writeCredentials (.ok sampleInput))) :: statements 10 3

def lockedOut : Server × List SaveEvent :=
  after (recorded (step sampleEnv) saveEvent) anyStep (boot sessionDB 0, []) malformedSaves

def refusal : Task → Option HttpError
  | .writeCredentials _ (.answered (.error err)) => some err
  | _ => none

/-- Ten saves that start no scrape use up the quota, and the next one is refused. -/
theorem quota_spent_without_scrape : ∃ s record,
    Reaches (recorded (step sampleEnv) saveEvent) anyStep (boot sessionDB 0, []) (s, record) ∧
    triggers record = [] ∧ (s.scrapeRL.requests "u1").length = 10 ∧
    s.tasks[10]?.bind refusal = some ⟨429, "scrape limit reached (10 per 48 hours), try again later"⟩ ∧
    ¬ s.QuotaCounts record := by
  have hrun : Reaches (recorded (step sampleEnv) saveEvent) anyStep (boot sessionDB 0, [])
      (lockedOut.1, lockedOut.2) :=
    reaches_recorded_after (by decide +kernel)
  refine ⟨lockedOut.1, lockedOut.2, hrun, by decide +kernel, by decide +kernel, by decide +kernel,
    fun hquota => ?_⟩
  have hcounted := hquota.counted "u1" 0 lockedOut.1.now
  revert hcounted
  decide +kernel

end Server
end ScheduleSync
