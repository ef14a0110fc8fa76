import ScheduleSync.Ingestion
import ScheduleSync.Onboarding
import ScheduleSync.Polls
import ScheduleSync.Sessions

/-! Retention over time: once a pass is over nothing is stored that had expired at its
start, and until it expires nothing is lost but with its account. -/
namespace ScheduleSync

def Scheduler.toRemove : Scheduler → List RetentionStatement
  | .retention _ rest => rest
  | _ => []

/-- Nothing is stored that the statement of a pass at `n` takes away. Only an old shift can
have come back, with an upload since. -/
def RetentionStatement.Cleared (n : Int) (db : DB) : RetentionStatement → Prop
  | .successLogs => ∀ l ∈ db.scrapeLogs, ∀ t, l.status = .success → l.finishedAt = some t → n - 7 * day ≤ t
  | .failureLogs => ∀ l ∈ db.scrapeLogs, ∀ t, l.status = .failure → l.finishedAt = some t → n - 30 * day ≤ t
  | .screenshots => ∀ l ∈ db.scrapeLogs, ∀ t, l.status = .failure → l.failureScreenshots.isSome = true →
      l.finishedAt = some t → n - 7 * day ≤ t
  | .shifts => ∀ sh ∈ db.shifts, n - 30 * day ≤ sh.endTime ∨ n ≤ sh.createdAt
  | .sessions => ∀ r ∈ db.sessions, n ≤ r.expiresAt

def Write.Recent (n : Int) : Write → Prop
  | .insertScrapeLog l => l.finishedAt = none
  | .finishScrapeLog _ _ now => n ≤ now
  | .insertShift sh => n ≤ sh.createdAt
  | .insertSession r => n ≤ r.expiresAt
  | _ => True

section Statements
variable {db db' : DB} {x : Write} {n : Int}

theorem cleared_exec (stmt : RetentionStatement) : stmt.Cleared n (stmt.exec n db) := by
  cases stmt with
  | successLogs =>
    intro l hl t hstatus hfinished
    have hkept := (Table.mem_delete.mp hl).2
    simp only [hstatus, hfinished, BEq.rfl, Option.any_some, Bool.true_and, decide_eq_false_iff_not] at hkept
    omega
  | failureLogs =>
    intro l hl t hstatus hfinished
    have hkept := (Table.mem_delete.mp hl).2
    simp only [hstatus, hfinished, BEq.rfl, Option.any_some, Bool.true_and, decide_eq_false_iff_not] at hkept
    omega
  | screenshots =>
    intro l hl t hstatus hshot hfinished
    have hdone : RetentionStatement.Done n (RetentionStatement.exec n db .screenshots) .screenshots :=
      done_exec .screenshots
    have hkept := hdone l hl
    simp only [hstatus, hshot, hfinished, BEq.rfl, Option.any_some, Bool.true_and, decide_eq_false_iff_not] at hkept
    omega
  | shifts =>
    intro sh hsh
    have hkept := (Table.mem_delete.mp hsh).2
    simp only [decide_eq_false_iff_not] at hkept
    exact .inl (by omega)
  | sessions =>
    intro r hr
    have hkept := (Table.mem_delete.mp hr).2
    simp only [decide_eq_false_iff_not] at hkept
    omega

theorem Write.Done.finished (h : x.Done db db') (hx : x.Recent n) {l : ScrapeLog} (hl : l ∈ db'.scrapeLogs)
    {t : Int} (ht : l.finishedAt = some t) :
    n ≤ t ∨ ∃ l₀ ∈ db.scrapeLogs, l₀.status = l.status ∧ l₀.finishedAt = some t ∧
      (l.failureScreenshots.isSome = true → l₀.failureScreenshots.isSome = true) := by
  cases h.scrapeLogs hl with
  | inl hold =>
    obtain ⟨l₀, hl₀, rfl⟩ := hold
    obtain ⟨v, now, rfl, hedit⟩ | ⟨hstatus, hfinished, hshot⟩ := x.edit_finished l₀
    · rw [hedit, ScrapeLog.finish_finishedAt] at ht
      cases ht
      exact .inl hx
    · exact .inr ⟨l₀, hl₀, hstatus.symm, hfinished ▸ ht, hshot⟩
  | inr heq =>
    subst heq
    cases (hx : l.finishedAt = none).symm.trans ht

theorem Write.Done.cleared (h : x.Done db db') (hx : x.Recent n) {stmt : RetentionStatement}
    (hs : stmt.Cleared n db) : stmt.Cleared n db' := by
  have hday : 0 < day := by decide
  cases stmt with
  | successLogs =>
    intro l hl t hstatus ht
    obtain hnew | ⟨l₀, hl₀, hstatus₀, ht₀, _⟩ := h.finished hx hl ht
    · omega
    · exact hs l₀ hl₀ t (hstatus₀.trans hstatus) ht₀
  | failureLogs =>
    intro l hl t hstatus ht
    obtain hnew | ⟨l₀, hl₀, hstatus₀, ht₀, _⟩ := h.finished hx hl ht
    · omega
    · exact hs l₀ hl₀ t (hstatus₀.trans hstatus) ht₀
  | screenshots =>
    intro l hl t hstatus hshot ht
    obtain hnew | ⟨l₀, hl₀, hstatus₀, ht₀, hshot₀⟩ := h.finished hx hl ht
    · omega
    · exact hs l₀ hl₀ t (hstatus₀.trans hstatus) (hshot₀ hshot) ht₀
  | shifts =>
    intro sh hsh
    cases h.shifts hsh with
    | inl hold => exact hs sh hold
    | inr heq =>
      subst heq
      exact .inr hx
  | sessions =>
    intro r hr
    cases h.sessions hr with
    | inl hold => exact hs r hold
    | inr heq =>
      subst heq
      exact hx

end Statements

/-- The time up to which a log that is stored at `now` has not been finished. -/
def ScrapeLog.finishedBy (l : ScrapeLog) (now : Int) : Int := min now (l.finishedAt.getD now)

/-- The log is stored, whatever it reads by now, and has not finished before `n`. -/
def DB.HasLog (db : DB) (l : ScrapeLog) (n : Int) : Prop :=
  ∃ l' ∈ db.scrapeLogs, l'.id = l.id ∧ l'.userID = l.userID ∧ l'.scrapeKey = l.scrapeKey ∧
    l'.startedAt = l.startedAt ∧ ∀ t, l'.finishedAt = some t → n ≤ t

theorem finished_of_removes {stmt : RetentionStatement} {now : Int} {l : ScrapeLog}
    (h : stmt.removes now l.core = true) : ∃ t, l.finishedAt = some t ∧ t < now - 7 * day := by
  have hday : 0 < day := by decide
  cases stmt with
  | successLogs =>
    obtain ⟨t, ht, hlt⟩ := (Option.any_eq_true _ _).mp (Bool.and_eq_true_iff.mp h).2
    exact ⟨t, ht, of_decide_eq_true hlt⟩
  | failureLogs =>
    obtain ⟨t, ht, hlt⟩ := (Option.any_eq_true _ _).mp (Bool.and_eq_true_iff.mp h).2
    have hmonth : t < now - 30 * day := of_decide_eq_true hlt
    exact ⟨t, ht, by omega⟩
  | _ => cases h

theorem Write.Done.hasLog {db db' : DB} {x : Write} {n : Int} {l : ScrapeLog} (h : x.Done db db')
    (hx : x.Recent n) (hl : db.HasLog l n) :
    db'.HasLog l n ∨ db'.hasUser l.userID = false ∨
      ∃ now stmt, x = .retention now stmt ∧ n < now - 7 * day := by
  obtain ⟨l', hl', hid, huser, hkey, hstarted, hfinished⟩ := hl
  obtain hkept | rfl | ⟨now, stmt, rfl, hremoves⟩ := h.log_kept hl'
  · refine .inl ⟨x.edit l', hkept, ?_, ?_, ?_, ?_, ?_⟩
    · rw [Write.edit_id, hid]
    · rw [Write.edit_userID, huser]
    · rw [Write.edit_scrapeKey, hkey]
    · rw [Write.edit_startedAt, hstarted]
    · intro t ht
      obtain ⟨v, now, rfl, hedit⟩ | ⟨_, hsame, _⟩ := x.edit_finished l'
      · rw [hedit, ScrapeLog.finish_finishedAt] at ht
        cases ht
        exact hx
      · exact hfinished t (hsame ▸ ht)
  · exact .inr (.inl (huser ▸ h.hasUser_deleted))
  · obtain ⟨t, ht, hold⟩ := finished_of_removes hremoves
    have hn : n ≤ t := hfinished t ht
    exact .inr (.inr ⟨now, stmt, rfl, by omega⟩)

namespace Server
variable {env : Env} {s s' : Server} {a : Action} {db : DB} {start n : Int} {uid : Uuid}

theorem recent_of_write {x : Write} (hn : n ≤ unix s.now) (h : s.write env a = some x) : x.Recent n := by
  obtain ⟨i, o, t, rfl, ht, hsite⟩ | ⟨o, rfl, hsite⟩ := write_cases h
  · cases hsite with
    | insertLog => rfl
    | startFailed | reportShifts | reportFailure | insertShift => exact hn
    | createSession =>
      have hlasts : unix s.now ≤ unix (s.now + sessionDuration) := by
        refine unix_mono ?_
        have hduration : 0 ≤ sessionDuration := by decide
        omega
      exact hn.trans hlasts
    | _ => trivial
  · generalize s.scheduler = sch at hsite
    cases hsite with
    | reapMark => exact hn
    | _ => trivial

theorem cleared_step {stmt : RetentionStatement} (hn : n ≤ unix s.now) (hs : stmt.Cleared n s.db)
    (h : s.step env a = some s') : stmt.Cleared n s'.db :=
  db_step (P := fun db => stmt.Cleared n db) h hs fun _ hwr hdone _ => hdone.cleared (recent_of_write hn hwr) hs

/-- The time a pass of retention begins with. -/
def retentionTick (s : Server) : Action → Option Int
  | .schedule o => if s.scheduler = .idle ∧ o.retentionTick = true then some (unix s.now) else none
  | _ => none

/-- The statements of a retention pass do not fail. -/
def removes (s : Server) : Action → Bool
  | .schedule o => !o.sqlFails || s.scheduler.toRemove.isEmpty
  | _ => true

/-- Each statement of the pass at `n` has run, or is still to run. -/
structure Retaining (s : Server) (n : Int) : Prop where
  past : n ≤ unix s.now
  cleared : ∀ stmt, stmt.Cleared n s.db ∨ ∃ rest, s.scheduler = .retention n rest ∧ stmt ∈ rest

theorem retaining_step (hok : s.removes a = true) (hs : s.Retaining n) (h : s.step env a = some s') :
    s'.Retaining n := by
  refine ⟨hs.past.trans (now_step h), ?_⟩
  intro stmt
  obtain hdone | ⟨rest, hsch, hmem⟩ := hs.cleared stmt
  · exact .inl (cleared_step hs.past hdone h)
  · cases a with
    | schedule o =>
      obtain ⟨w, sch, jobs, hrun, rfl⟩ := step_schedule h
      rw [hsch] at hrun
      cases runScheduler_cases hrun with
      | retained => cases hmem
      | @retention _ first rest =>
        have hsql : o.sqlFails = false := by simpa [removes, hsch, Scheduler.toRemove] using hok
        cases List.mem_cons.mp hmem with
        | inl heq =>
          subst heq
          refine .inl ?_
          change stmt.Cleared n (s.toWorld.execDropped o (stmt.exec n s.db)).db
          rw [execDropped_executed hsql]
          exact cleared_exec stmt
        | inr hrest => exact .inr ⟨rest, rfl, hrest⟩
    | run i o =>
      obtain ⟨_, _, _, _, _, _, rfl⟩ := step_run h
      exact .inr ⟨rest, hsch, hmem⟩
    | _ =>
      cases h
      exact .inr ⟨rest, hsch, hmem⟩

theorem mem_runRetention (stmt : RetentionStatement) : stmt ∈ runRetention := by
  cases stmt <;> decide

theorem retaining_tick (htick : s.retentionTick a = some n) (h : s.step env a = some s') : s'.Retaining n := by
  have hnow := now_step h
  cases a with
  | schedule o =>
    simp only [retentionTick] at htick
    split_ifs at htick with hat
    cases htick
    obtain ⟨w, sch, jobs, hrun, rfl⟩ := step_schedule h
    rw [hat.1] at hrun
    simp only [runScheduler, hat.2, if_true] at hrun
    cases hrun
    exact ⟨hnow, fun stmt => .inr ⟨runRetention, rfl, mem_runRetention stmt⟩⟩
  | _ => cases htick

/-- From the end of the pass that began at `n` on, nothing is stored that had expired then: no session, no
log of a success after seven days or of a failure after thirty, no picture of a failure
after seven, and no shift thirty days after its end but one uploaded since. -/
theorem expired_removed {record : List Int}
    (h : Reaches (recorded (step env) retentionTick) (fun p => removes p.1) (boot db start, [unix start])
      (s, record)) (hn : n ∈ record) (hover : ∀ rest, s.scheduler = .retention n rest → rest = [])
    (stmt : RetentionStatement) : stmt.Cleared n s.db := by
  have hall : ∀ n ∈ record, s.Retaining n := by
    refine h.invariant_recorded (I := fun s record => ∀ n ∈ record, s.Retaining n) ?_ ?_
    · intro n hn
      rw [List.mem_singleton.mp hn]
      exact ⟨le_rfl, fun stmt => .inr ⟨runRetention, rfl, mem_runRetention stmt⟩⟩
    · intro s record a s' hok hs ha n hn
      cases List.mem_append.mp hn with
      | inl hnew => exact retaining_tick (Option.mem_toList.mp hnew) ha
      | inr hold => exact retaining_step hok (hs n hold) ha
  obtain hdone | ⟨rest, hsch, hmem⟩ := (hall n hn).cleared stmt
  · exact hdone
  · rw [hover rest hsch] at hmem
    cases hmem

def pruned : Server × List Int :=
  after (recorded (step sampleEnv) retentionTick) (fun p => removes p.1) (boot sampleDB 0, [unix 0])
    (soloReport 0 "log1" "key1" ++ retentionAfter 8)

theorem expired_removed_success :
    (after (step sampleEnv) removes (boot sampleDB 0) (soloReport 0 "log1" "key1")).db.scrapeLogs.rows.length = 1 ∧
      pruned.1.db.scrapeLogs.rows.length = 0 ∧ RetentionStatement.Cleared (8 * day) pruned.1.db .successLogs := by
  have hrun : Reaches (recorded (step sampleEnv) retentionTick) (fun p => removes p.1)
      (boot sampleDB 0, [unix 0]) (pruned.1, pruned.2) := reaches_recorded_after (by decide +kernel)
  have hlast : 8 * day ∈ pruned.2 := by decide +kernel
  have hdone : pruned.1.scheduler.toRemove = [] := by decide +kernel
  have hover : ∀ rest, pruned.1.scheduler = .retention (8 * day) rest → rest = [] := by
    intro rest hsch
    rwa [hsch] at hdone
  exact ⟨by decide +kernel, by decide +kernel, expired_removed hrun hlast hover .successLogs⟩

/-! Until then. -/

theorem scheduler_of_retention {now : Int} {stmt : RetentionStatement}
    (h : s.write env a = some (.retention now stmt)) : ∃ rest, s.scheduler = .retention now rest := by
  obtain ⟨i, o, t, rfl, ht, hsite⟩ | ⟨o, rfl, hsite⟩ := write_cases h
  · cases hsite
  · generalize s.scheduler = sch at hsite
    cases hsite
    exact ⟨_, rfl⟩

theorem retention_clock_of_reaches {ok : Server → Action → Bool}
    (h : Reaches (step env) ok (boot db start) s) :
    ∀ now stmts, s.scheduler = .retention now stmts → now ≤ unix s.now := by
  refine h.invariant (I := fun s => ∀ now stmts, s.scheduler = .retention now stmts → now ≤ unix s.now) ?_
    fun _ _ _ _ hs ha => retention_clock_step hs ha
  rintro now stmts ⟨⟩
  exact le_rfl

/-- What the account has stored at some time, as far as it has not expired since. -/
structure Keeps (s : Server) (uid : Uuid) (n : Int) (shifts : List Shift) (logs : List ScrapeLog) : Prop where
  drawn : uid ∈ s.drawn
  clock : ∀ now stmts, s.scheduler = .retention now stmts → now ≤ unix s.now
  past : n ≤ unix s.now
  kept : s.db.hasUser uid = false ∨
    (∀ sh ∈ shifts, sh.userID = uid → sh ∈ s.db.shifts ∨ sh.endTime < unix s.now - 30 * day) ∧
    ∀ l ∈ logs, l.userID = uid → s.db.HasLog l (l.finishedBy n) ∨ l.finishedBy n < unix s.now - 7 * day

theorem keeps_step {shifts : List Shift} {logs : List ScrapeLog} (hs : s.Keeps uid n shifts logs)
    (h : s.step env a = some s') : s'.Keeps uid n shifts logs := by
  have hnow := now_step h
  refine ⟨drawn_step h hs.drawn, retention_clock_step hs.clock h, hs.past.trans hnow, ?_⟩
  cases hs.kept with
  | inl hgone => exact .inl (hasUser_false_step h hs.drawn hgone)
  | inr hkept =>
    cases huser : s'.db.hasUser uid with
    | false => exact .inl rfl
    | true =>
      obtain ⟨hshifts, hlogs⟩ := hkept
      have hretention : ∀ {now stmt}, s.write env a = some (.retention now stmt) → now ≤ unix s'.now := by
        intro now stmt hwr
        obtain ⟨rest, hsch⟩ := scheduler_of_retention hwr
        exact (hs.clock now rest hsch).trans hnow
      refine .inr ⟨?_, ?_⟩
      · intro sh hsh hown
        cases hshifts sh hsh hown with
        | inl hstored =>
          cases step_wrote h with
          | same hdb => exact .inl (hdb ▸ hstored)
          | exec x hwr hexec _ =>
            have hdone := Write.done_of_exec hexec
            obtain hkept | rfl | ⟨now, rfl, hold⟩ := hdone.shift_kept hstored
            · exact .inl hkept
            · have hgone := hdone.hasUser_deleted
              rw [hown, huser] at hgone
              cases hgone
            · have hle := hretention hwr
              exact .inr (by omega)
        | inr hold => exact .inr (by omega)
      · intro l hl hown
        cases hlogs l hl hown with
        | inl hstored =>
          cases step_wrote h with
          | same hdb => exact .inl (hdb ▸ hstored)
          | exec x hwr hexec _ =>
            have hrecent : x.Recent (l.finishedBy n) :=
              recent_of_write ((min_le_left _ _).trans hs.past) hwr
            obtain hkept | hgone | ⟨now, stmt, rfl, hold⟩ := (Write.done_of_exec hexec).hasLog hrecent hstored
            · exact .inl hkept
            · rw [hown, huser] at hgone
              cases hgone
            · have hle := hretention hwr
              exact .inr (by omega)
        | inr hold => exact .inr (by omega)

/-- While an account stands, no shift is lost before thirty days after its end, and no log
while it runs or before seven days after it finished. -/
theorem kept_until_expired (hrun : Reaches (step env) anyStep (boot db start) s)
    (hlater : Reaches (step env) anyStep s s') (huser : s.db.hasUser uid = true)
    (hstill : s'.db.hasUser uid = true) :
    (∀ sh ∈ s.db.shifts, sh.userID = uid → unix s'.now - 30 * day ≤ sh.endTime → sh ∈ s'.db.shifts) ∧
    ∀ l ∈ s.db.scrapeLogs, l.userID = uid → unix s'.now - 7 * day ≤ l.finishedBy (unix s.now) →
      s'.db.HasLog l (l.finishedBy (unix s.now)) := by
  have hkeeps : s'.Keeps uid (unix s.now) s.db.shifts.rows s.db.scrapeLogs.rows := by
    refine hlater.invariant ?_ fun _ _ _ _ hs ha => keeps_step hs ha
    obtain ⟨u, hu, hid⟩ := DB.hasUser_iff.mp huser
    refine ⟨hid ▸ (registered_of_reaches hrun).users u hu, retention_clock_of_reaches hrun, le_rfl,
      .inr ⟨fun sh hsh _ => .inl hsh, ?_⟩⟩
    intro l hl _
    refine .inl ⟨l, hl, rfl, rfl, rfl, rfl, ?_⟩
    intro t ht
    simp [ScrapeLog.finishedBy, ht]
  obtain hgone | ⟨hshifts, hlogs⟩ := hkeeps.kept
  · rw [hstill] at hgone
    cases hgone
  · refine ⟨?_, ?_⟩
    · intro sh hsh hown hyoung
      exact (hshifts sh hsh hown).resolve_right (by omega)
    · intro l hl hown hyoung
      exact (hlogs l hl hown).resolve_right (by omega)

def stocked : Server :=
  after (step sampleEnv) anyStep (boot sampleDB 0)
    (uploadOf [sampleShift "2025-01-15T05:00:00" "2025-01-15T09:00:00"] ++ statements 1 5)

def stockedLater : Server := after (step sampleEnv) anyStep stocked (retentionAfter 2)

theorem kept_until_expired_stocked : ∃ sh ∈ stocked.db.shifts, ∃ l ∈ stocked.db.scrapeLogs,
    sh ∈ stockedLater.db.shifts ∧ stockedLater.db.HasLog l 0 := by
  have hrun : Reaches (step sampleEnv) anyStep (boot sampleDB 0) stocked := reaches_after (by decide +kernel)
  have hlater : Reaches (step sampleEnv) anyStep stocked stockedLater := reaches_after (by decide +kernel)
  obtain ⟨sh, hsh, hown, hyoung⟩ : ∃ sh ∈ stocked.db.shifts.rows, sh.userID = "u1" ∧
      unix stockedLater.now - 30 * day ≤ sh.endTime := by decide +kernel
  obtain ⟨l, hl, howner, hwithin, hzero⟩ : ∃ l ∈ stocked.db.scrapeLogs.rows, l.userID = "u1" ∧
      unix stockedLater.now - 7 * day ≤ l.finishedBy (unix stocked.now) ∧ l.finishedBy (unix stocked.now) = 0 := by
    decide +kernel
  have huser : stocked.db.hasUser "u1" = true := by decide +kernel
  obtain ⟨hshifts, hlogs⟩ := kept_until_expired hrun hlater huser (by decide +kernel)
  exact ⟨sh, hsh, l, hl, hshifts sh hsh hown hyoung, hzero ▸ hlogs l hl howner hwithin⟩

end Server
end ScheduleSync
