import ScheduleSync.Calendar

/-! Retention against the readers: what a statement of a pass removes no reader would
have read again, and a second pass at the same time finds nothing to remove. -/
namespace ScheduleSync

/-- What the readers of live data get at `now`: the feed, the sessions, the keys of the
callbacks, the due users and the logs older than a cutoff. -/
structure SameReads (now : Int) (db db' : DB) : Prop where
  shifts : ∀ userID, db'.queryUserShifts userID now = db.queryUserShifts userID now
  session : ∀ tokenHash, db'.sessionUser tokenHash now = db.sessionUser tokenHash now
  lookup : ∀ key, db'.runningLog key = db.runningLog key
  due : db'.dueUsers now = db.dueUsers now
  stale : ∀ cutoff, db'.staleLogs cutoff = db.staleLogs cutoff

section Lists
variable {α β : Type*} {p q : α → Bool}

theorem findSome?_filter_of_none {f : α → Option β} (h : ∀ x, p x = false → f x = none) (l : List α) :
    (l.filter p).findSome? f = l.findSome? f := by
  induction l with
  | nil => rfl
  | cons x l ih =>
    cases hp : p x with
    | true => simp [hp, List.findSome?_cons, ih]
    | false => simp [hp, h x hp, ih]

theorem filter_filter_of_imp (h : ∀ x, q x = true → p x = true) (l : List α) :
    (l.filter p).filter q = l.filter q := by
  rw [List.filter_filter]
  refine List.filter_congr fun x _ => ?_
  cases hq : q x with
  | false => simp
  | true => simp [h x hq]

end Lists

theorem SameReads.refl (now : Int) (db : DB) : SameReads now db db :=
  ⟨fun _ => rfl, fun _ => rfl, fun _ => rfl, rfl, fun _ => rfl⟩

theorem SameReads.trans {now : Int} {db₁ db₂ db₃ : DB} (h : SameReads now db₁ db₂)
    (h' : SameReads now db₂ db₃) : SameReads now db₁ db₃ where
  shifts userID := (h'.shifts userID).trans (h.shifts userID)
  session tokenHash := (h'.session tokenHash).trans (h.session tokenHash)
  lookup key := (h'.lookup key).trans (h.lookup key)
  due := h'.due.trans h.due
  stale cutoff := (h'.stale cutoff).trans (h.stale cutoff)

section Statements
variable {db : DB} {t t' : Int}

theorem sameReads_deleteLogs {p : ScrapeLog → Bool} (h : ∀ l, l.status = .running → p l = false) :
    SameReads t' db { db with scrapeLogs := db.scrapeLogs.delete p } where
  shifts _ := rfl
  session _ := rfl
  lookup key := by
    refine Table.queryRow_delete_of_imp fun l hl => h l ?_
    simp only [Bool.and_eq_true, beq_iff_eq] at hl
    exact hl.2
  due := rfl
  stale cutoff := by
    refine filter_filter_of_imp (fun l hl => ?_) _
    simp only [Bool.and_eq_true, beq_iff_eq] at hl
    simp [h l hl.1]

theorem retention_reads (h : t ≤ t') (stmt : RetentionStatement) :
    SameReads t' db (stmt.exec t db) := by
  cases stmt with
  | successLogs => exact sameReads_deleteLogs fun l hl => by simp [hl]
  | failureLogs => exact sameReads_deleteLogs fun l hl => by simp [hl]
  | screenshots =>
    refine ⟨fun _ => rfl, fun _ => rfl, fun key => ?_, rfl, fun cutoff => ?_⟩
    · change (db.scrapeLogs.update _ _ (by exact fun _ _ h => h)).queryRow _ = db.scrapeLogs.queryRow _
      refine Table.queryRow_update_of_imp _ (fun _ => rfl) fun l hl => ?_
      simp only [Bool.and_eq_true, beq_iff_eq] at hl
      simp [hl.2]
    · refine filter_map_of_unselected (fun l => ?_) (fun l hl => ?_) _
      · split <;> rfl
      · simp only [Bool.and_eq_true, beq_iff_eq] at hl
        simp [hl.1]
  | shifts =>
    refine ⟨fun userID => ?_, fun _ => rfl, fun _ => rfl, rfl, fun _ => rfl⟩
    have hwindow : (RetentionStatement.exec t db .shifts).shiftWindow userID t' =
        db.shiftWindow userID t' := by
      refine congrArg (fun rows => List.insertionSort earlierStart rows) ?_
      refine filter_filter_of_imp (fun sh hsh => ?_) _
      simp only [Bool.and_eq_true, decide_eq_true_eq] at hsh
      have hkept : ¬ sh.endTime < t - 30 * day := by
        have hend := hsh.2
        simp only [day] at hend ⊢
        omega
      simpa using hkept
    simp only [DB.queryUserShifts, hwindow]
  | sessions =>
    refine ⟨fun _ => rfl, fun tokenHash => ?_, fun _ => rfl, rfl, fun _ => rfl⟩
    refine findSome?_filter_of_none (fun r hr => ?_) _
    have hexpired : ¬ t' < r.expiresAt := by
      have hlt : r.expiresAt < t := by simpa using hr
      omega
    simp [hexpired]

theorem retention_part_reads (h : t ≤ t') (stmts : List RetentionStatement) :
    SameReads t' db (stmts.foldl (RetentionStatement.exec t) db) := by
  induction stmts generalizing db with
  | nil => exact .refl t' db
  | cons stmt stmts ih => exact (retention_reads h stmt).trans ih

def RetentionStatement.Done (now : Int) (db : DB) : RetentionStatement → Prop
  | .successLogs => ∀ l ∈ db.scrapeLogs,
      (l.status == .success && l.finishedAt.any fun t => decide (t < now - 7 * day)) = false
  | .failureLogs => ∀ l ∈ db.scrapeLogs,
      (l.status == .failure && l.finishedAt.any fun t => decide (t < now - 30 * day)) = false
  | .screenshots => ∀ l ∈ db.scrapeLogs,
      (l.status == .failure && l.failureScreenshots.isSome &&
        l.finishedAt.any fun t => decide (t < now - 7 * day)) = false
  | .shifts => ∀ sh ∈ db.shifts, decide (sh.endTime < now - 30 * day) = false
  | .sessions => ∀ r ∈ db.sessions, decide (r.expiresAt < now) = false

theorem exec_of_done {stmt : RetentionStatement} (h : stmt.Done t db) : stmt.exec t db = db := by
  cases stmt with
  | successLogs => simp only [RetentionStatement.exec, Table.delete_eq_self h]
  | failureLogs => simp only [RetentionStatement.exec, Table.delete_eq_self h]
  | screenshots => simp only [RetentionStatement.exec, Table.update_eq_self h]
  | shifts => simp only [RetentionStatement.exec, Table.delete_eq_self h]
  | sessions => simp only [RetentionStatement.exec, Table.delete_eq_self h]

theorem done_exec (stmt : RetentionStatement) : stmt.Done t (stmt.exec t db) := by
  cases stmt with
  | successLogs => exact fun l hl => (Table.mem_delete.mp hl).2
  | failureLogs => exact fun l hl => (Table.mem_delete.mp hl).2
  | screenshots =>
    intro l hl
    simp only [RetentionStatement.exec, Table.mem_update] at hl
    obtain ⟨r, _, rfl⟩ := hl
    split
    · simp
    · rename_i hr
      exact Bool.eq_false_iff.mpr hr
  | shifts => exact fun sh hsh => (Table.mem_delete.mp hsh).2
  | sessions => exact fun r hr => (Table.mem_delete.mp hr).2

theorem log_of_exec {other : RetentionStatement} {l : ScrapeLog}
    (hl : l ∈ (other.exec t db).scrapeLogs) :
    ∃ r ∈ db.scrapeLogs, l.status = r.status ∧ l.finishedAt = r.finishedAt ∧
      (l.failureScreenshots.isSome = true → r.failureScreenshots.isSome = true) := by
  cases other with
  | successLogs => exact ⟨l, (Table.mem_delete.mp hl).1, rfl, rfl, id⟩
  | failureLogs => exact ⟨l, (Table.mem_delete.mp hl).1, rfl, rfl, id⟩
  | screenshots =>
    simp only [RetentionStatement.exec, Table.mem_update] at hl
    obtain ⟨r, hr, rfl⟩ := hl
    refine ⟨r, hr, ?_⟩
    split
    · exact ⟨rfl, rfl, by simp⟩
    · exact ⟨rfl, rfl, id⟩
  | shifts => exact ⟨l, hl, rfl, rfl, id⟩
  | sessions => exact ⟨l, hl, rfl, rfl, id⟩

theorem shift_of_exec {other : RetentionStatement} {sh : Shift}
    (hsh : sh ∈ (other.exec t db).shifts) : sh ∈ db.shifts := by
  cases other with
  | shifts => exact (Table.mem_delete.mp hsh).1
  | successLogs => exact hsh
  | failureLogs => exact hsh
  | screenshots => exact hsh
  | sessions => exact hsh

theorem session_of_exec {other : RetentionStatement} {r : Session}
    (hr : r ∈ (other.exec t db).sessions) : r ∈ db.sessions := by
  cases other with
  | sessions => exact (Table.mem_delete.mp hr).1
  | successLogs => exact hr
  | failureLogs => exact hr
  | screenshots => exact hr
  | shifts => exact hr

theorem done_kept {stmt : RetentionStatement} (h : stmt.Done t db) (other : RetentionStatement) :
    stmt.Done t (other.exec t db) := by
  cases stmt with
  | successLogs =>
    intro l hl
    obtain ⟨r, hr, hstatus, hfinished, _⟩ := log_of_exec hl
    rw [hstatus, hfinished]
    exact h r hr
  | failureLogs =>
    intro l hl
    obtain ⟨r, hr, hstatus, hfinished, _⟩ := log_of_exec hl
    rw [hstatus, hfinished]
    exact h r hr
  | screenshots =>
    intro l hl
    obtain ⟨r, hr, hstatus, hfinished, hscreenshots⟩ := log_of_exec hl
    have hdone := h r hr
    rw [hstatus, hfinished]
    cases hl : l.failureScreenshots.isSome with
    | false => simp
    | true =>
      rw [hscreenshots hl] at hdone
      exact hdone
  | shifts => exact fun sh hsh => h sh (shift_of_exec hsh)
  | sessions => exact fun r hr => h r (session_of_exec hr)

theorem done_foldl {stmt : RetentionStatement} (h : stmt.Done t db) (stmts : List RetentionStatement) :
    stmt.Done t (stmts.foldl (RetentionStatement.exec t) db) := by
  induction stmts generalizing db with
  | nil => exact h
  | cons other stmts ih => exact ih (done_kept h other)

theorem done_of_mem (stmts : List RetentionStatement) :
    ∀ stmt ∈ stmts, stmt.Done t (stmts.foldl (RetentionStatement.exec t) db) := by
  induction stmts generalizing db with
  | nil => simp
  | cons first stmts ih =>
    intro stmt hstmt
    cases List.mem_cons.mp hstmt with
    | inl heq =>
      subst heq
      exact done_foldl (done_exec stmt) stmts
    | inr hmem => exact ih stmt hmem

theorem foldl_of_done {stmts : List RetentionStatement} (h : ∀ stmt ∈ stmts, stmt.Done t db) :
    stmts.foldl (RetentionStatement.exec t) db = db := by
  induction stmts with
  | nil => rfl
  | cons stmt stmts ih =>
    rw [List.foldl_cons, exec_of_done (h stmt List.mem_cons_self)]
    exact ih fun other hother => h other (List.mem_cons_of_mem _ hother)

end Statements

/-- On every database, so on every one the program reaches: whichever statements of a
pass at `t` succeed, no reader from `t` on gets another result, and a second full pass
at the same time changes nothing. -/
theorem retention_undisturbing (db : DB) (t : Int) :
    (∀ stmts : List RetentionStatement, stmts.Sublist runRetention → ∀ t', t ≤ t' →
      SameReads t' db (stmts.foldl (RetentionStatement.exec t) db)) ∧
    runRetention.foldl (RetentionStatement.exec t) (runRetention.foldl (RetentionStatement.exec t) db) =
      runRetention.foldl (RetentionStatement.exec t) db :=
  ⟨fun stmts _ _ h => retention_part_reads h stmts, foldl_of_done (done_of_mem runRetention)⟩

def lapsedDB : DB :=
  { DB.empty with
    users := ⟨[⟨"u1", "a@x.com", false, "UTC", "ics1", 0, 0⟩], List.pairwise_singleton _ _⟩
    sessions := ⟨[⟨"s1", "u1", [], 60 * day - 1, 0⟩], List.pairwise_singleton _ _⟩
    shifts := ⟨[⟨"sh1", "u1", "shift1", "barista", "", 0, 1, 4, 0⟩], List.pairwise_singleton _ _⟩ }

theorem retention_undisturbing_lapsed :
    (lapsedDB.sessions.rows.length, lapsedDB.shifts.rows.length) = (1, 1) ∧
      let db := [RetentionStatement.shifts, .sessions].foldl (RetentionStatement.exec (60 * day)) lapsedDB
      (db.sessions.rows.length, db.shifts.rows.length) = (0, 0) ∧ SameReads (61 * day) lapsedDB db :=
  ⟨rfl, rfl, (retention_undisturbing lapsedDB (60 * day)).1 _ (by decide) _ (by decide)⟩

end ScheduleSync
