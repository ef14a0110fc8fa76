import ScheduleSync.OnboardingPage
import ScheduleSync.Retention
import ScheduleSync.Unwinding

/-! One user's rows. All users share the tables, and their requests, scrapes and callbacks
interleave. Every statement either concerns a user, and then it acts on the user's rows as if
there were no others, or it leaves them alone. What the service answers to a user is read
from the user's rows. -/
namespace ScheduleSync

/-! Tables of which only some rows are kept. -/

namespace Table
open Keyed
variable {ρ : Type*} [Keyed ρ] {t t' : Table ρ} {p q : ρ → Bool} {r : ρ}

theorem ext_rows (h : t.rows = t'.rows) : t = t' := by
  cases t
  cases t'
  cases h
  rfl

instance [DecidableEq ρ] : DecidableEq (Table ρ) := fun _ _ =>
  decidable_of_iff _ ⟨ext_rows, congrArg rows⟩

def only (t : Table ρ) (q : ρ → Bool) : Table ρ := ⟨t.rows.filter q, t.unique.filter _⟩

@[simp] theorem mem_only : r ∈ t.only q ↔ r ∈ t ∧ q r = true := by simp [mem_def, only]

theorem only_insert_own (h : t.insert r = some t') (hr : q r = true) :
    (t.only q).insert r = some (t'.only q) := by
  cases hins : (t.only q).insert r with
  | none =>
    obtain ⟨x, hx, hclash⟩ := insert_eq_none hins
    exact absurd hclash (insert_fresh h (mem_only.mp hx).1)
  | some t'' =>
    refine congrArg some (ext_rows ?_)
    rw [insert_rows hins]
    simp [only, insert_rows h, hr]

theorem only_insert_other (h : t.insert r = some t') (hr : q r = false) : t'.only q = t.only q := by
  refine ext_rows ?_
  simp [only, insert_rows h, hr]

theorem only_update {f : ρ → ρ} {hf} (hq : ∀ r, q (f r) = q r) :
    (t.update p f hf).only q = (t.only q).update p f hf := by
  refine ext_rows ?_
  have hcomp : (q ∘ fun r => if p r = true then f r else r) = q := by
    funext r
    by_cases hp : p r <;> simp [hp, hq]
  simp only [only, update, List.filter_map, hcomp]

theorem only_delete : (t.delete p).only q = (t.only q).delete p := by
  refine ext_rows ?_
  simp only [only, delete, List.filter_filter, Bool.and_comm]

theorem only_update_other {f : ρ → ρ} {hf} (hq : ∀ r, q (f r) = q r)
    (hp : ∀ r ∈ t, q r = true → p r = false) : (t.update p f hf).only q = t.only q := by
  rw [only_update hq]
  refine update_eq_self ?_
  intro r hr
  obtain ⟨hr, hqr⟩ := mem_only.mp hr
  exact hp r hr hqr

theorem only_delete_other (hp : ∀ r ∈ t, q r = true → p r = false) : (t.delete p).only q = t.only q := by
  rw [only_delete]
  refine delete_eq_self ?_
  intro r hr
  obtain ⟨hr, hqr⟩ := mem_only.mp hr
  exact hp r hr hqr

theorem filter_only (h : ∀ r, p r = true → q r = true) : (t.only q).rows.filter p = t.rows.filter p :=
  filter_filter_of_imp h t.rows

theorem countP_only (h : ∀ r, p r = true → q r = true) : (t.only q).rows.countP p = t.rows.countP p := by
  rw [List.countP_eq_length_filter, List.countP_eq_length_filter, filter_only h]

theorem any_only (h : ∀ r, p r = true → q r = true) : (t.only q).rows.any p = t.rows.any p := by
  rw [Bool.eq_iff_iff, List.any_eq_true, List.any_eq_true]
  constructor
  · rintro ⟨r, hr, hpr⟩
    exact ⟨r, List.mem_of_mem_filter hr, hpr⟩
  · rintro ⟨r, hr, hpr⟩
    exact ⟨r, List.mem_filter.mpr ⟨hr, h r hpr⟩, hpr⟩

theorem queryRow_only (h : ∀ r ∈ t, p r = true → q r = true) : (t.only q).queryRow p = t.queryRow p := by
  rw [queryRow, queryRow, ← List.head?_filter, ← List.head?_filter, only, List.filter_filter]
  congr 1
  refine List.filter_congr fun r hr => ?_
  cases hpr : p r with
  | false => simp
  | true => simp [h r hr hpr]

end Table

deriving instance DecidableEq for Session, UserDEK, StarbucksCredentials, ScrapeSchedule
deriving instance DecidableEq for DB

def DB.view (u : Uuid) (db : DB) : DB where
  users := db.users.only fun r => r.id == u
  sessions := db.sessions.only fun r => r.userID == u
  userDEKs := db.userDEKs.only fun r => r.userID == u
  starbucksCredentials := db.starbucksCredentials.only fun r => r.userID == u
  shifts := db.shifts.only fun r => r.userID == u
  scrapeLogs := db.scrapeLogs.only fun r => r.userID == u
  scrapeSchedule := db.scrapeSchedule.only fun r => r.userID == u

/-- The statement inserts a row of the user, names the user, or finds a row of the user by
its id, key or hash. A retention pass concerns everyone. -/
def Write.concerns (u : Uuid) (db : DB) : Write → Bool
  | .insertScrapeLog l => l.userID == u
  | .finishScrapeLog id _ _ => db.scrapeLogs.rows.any fun l => l.id == id && l.userID == u
  | .setContainerID id _ => db.scrapeLogs.rows.any fun l => l.id == id && l.userID == u
  | .setCredentialsFetchedAt key _ => db.scrapeLogs.rows.any fun l => l.scrapeKey == some key && l.userID == u
  | .insertShift sh => sh.userID == u
  | .scheduleNext userID _ _ => userID == u
  | .upsertSchedule userID _ => userID == u
  | .insertDEK dek => dek.userID == u
  | .upsertCredentials row => row.userID == u
  | .insertUser r => r.id == u
  | .updateTimezone id _ _ => id == u
  | .deleteUser id => id == u
  | .insertSession r => r.userID == u
  | .deleteSession tokenHash => db.sessions.rows.any fun r => r.tokenHash == tokenHash && r.userID == u
  | .retention _ _ => true

section Statements
variable {u : Uuid} {db db' : DB} {x : Write}

theorem unfound {α : Type*} {p q : α → Bool} {rows : List α}
    (h : (rows.any fun r => p r && q r) = false) : ∀ r ∈ rows, q r = true → p r = false := by
  intro r hr hq
  have hnot := List.any_eq_false.mp h r hr
  simpa [hq] using hnot

theorem beq_false_of_other {a b c : Uuid} (hac : (a == c) = true) (hbc : (b == c) = false) :
    (a == b) = false := by
  rw [beq_iff_eq.mp hac, Bool.beq_comm]
  exact hbc

@[simp] theorem DB.hasUser_view : (db.view u).hasUser u = db.hasUser u :=
  Table.any_only fun _ h => h

theorem Write.exec_view (h : x.exec db = some db') (hx : x.concerns u db = true) :
    x.exec (db.view u) = some (db'.view u) := by
  cases x with
  | insertScrapeLog l =>
    obtain rfl : l.userID = u := beq_iff_eq.mp hx
    simp only [Write.exec, DB.insertScrapeLog] at h ⊢
    split_ifs at h with hhas
    obtain ⟨t, ht, rfl⟩ := Option.map_eq_some_iff.mp h
    have hview := Table.only_insert_own (q := fun r => r.userID == l.userID) ht (beq_self_eq_true _)
    rw [DB.hasUser_view, if_pos hhas]
    exact congrArg (Option.map _) hview
  | insertShift sh =>
    obtain rfl : sh.userID = u := beq_iff_eq.mp hx
    have hcount : (db.view sh.userID).countShifts sh.userID sh.shiftIDExt =
        db.countShifts sh.userID sh.shiftIDExt := by
      refine Table.countP_only fun r hr => ?_
      exact (Bool.and_eq_true_iff.mp hr).1
    simp only [Write.exec, DB.insertShift] at h ⊢
    rw [DB.hasUser_view, hcount]
    split_ifs at h with hhas hnew
    · obtain ⟨t, ht, rfl⟩ := Option.map_eq_some_iff.mp h
      have hview := Table.only_insert_own (q := fun r => r.userID == sh.userID) ht (beq_self_eq_true _)
      rw [if_pos hhas, if_pos hnew]
      exact congrArg (Option.map _) hview
    · cases h
      rw [if_pos hhas, if_neg hnew]
  | upsertSchedule userID next =>
    obtain rfl : userID = u := beq_iff_eq.mp hx
    have hany : ((db.view userID).scrapeSchedule.rows.any fun r => r.userID == userID) =
        db.scrapeSchedule.rows.any fun r => r.userID == userID :=
      Table.any_only fun _ h => h
    simp only [Write.exec, DB.upsertSchedule] at h ⊢
    rw [DB.hasUser_view, hany]
    split_ifs at h with hhas hrow
    · cases h
      rw [if_pos hhas, if_pos hrow]
      simp only [DB.view]
      rw [Table.only_update (by exact fun _ => rfl)]
    · obtain ⟨t, ht, rfl⟩ := Option.map_eq_some_iff.mp h
      have hview := Table.only_insert_own (q := fun r => r.userID == userID) ht (beq_self_eq_true _)
      rw [if_pos hhas, if_neg hrow]
      exact congrArg (Option.map _) hview
  | insertDEK dek =>
    obtain rfl : dek.userID = u := beq_iff_eq.mp hx
    simp only [Write.exec, DB.insertDEK] at h ⊢
    split_ifs at h with hhas
    obtain ⟨t, ht, rfl⟩ := Option.map_eq_some_iff.mp h
    have hview := Table.only_insert_own (q := fun r => r.userID == dek.userID) ht (beq_self_eq_true _)
    rw [DB.hasUser_view, if_pos hhas]
    exact congrArg (Option.map _) hview
  | upsertCredentials row =>
    obtain rfl : row.userID = u := beq_iff_eq.mp hx
    have hany : ((db.view row.userID).starbucksCredentials.rows.any fun r => r.userID == row.userID) =
        db.starbucksCredentials.rows.any fun r => r.userID == row.userID :=
      Table.any_only fun _ h => h
    simp only [Write.exec, DB.upsertCredentials] at h ⊢
    rw [DB.hasUser_view, hany]
    split_ifs at h with hhas hrow
    · cases h
      rw [if_pos hhas, if_pos hrow]
      simp only [DB.view]
      rw [Table.only_update (by exact fun _ => rfl)]
    · obtain ⟨t, ht, rfl⟩ := Option.map_eq_some_iff.mp h
      have hview := Table.only_insert_own (q := fun r => r.userID == row.userID) ht (beq_self_eq_true _)
      rw [if_pos hhas, if_neg hrow]
      exact congrArg (Option.map _) hview
  | insertUser r =>
    obtain rfl : r.id = u := beq_iff_eq.mp hx
    obtain ⟨t, ht, rfl⟩ := Option.map_eq_some_iff.mp h
    have hview := Table.only_insert_own (q := fun x => x.id == r.id) ht (beq_self_eq_true _)
    exact congrArg (Option.map _) hview
  | insertSession r =>
    obtain rfl : r.userID = u := beq_iff_eq.mp hx
    simp only [Write.exec, DB.insertSession] at h ⊢
    split_ifs at h with hhas
    obtain ⟨t, ht, rfl⟩ := Option.map_eq_some_iff.mp h
    have hview := Table.only_insert_own (q := fun x => x.userID == r.userID) ht (beq_self_eq_true _)
    rw [DB.hasUser_view, if_pos hhas]
    exact congrArg (Option.map _) hview
  | finishScrapeLog id v now =>
    cases h
    simp only [Write.exec, DB.finishScrapeLog, DB.view]
    rw [Table.only_update fun l => by rw [ScrapeLog.finish_userID]]
  | setContainerID id containerID =>
    cases h
    simp only [Write.exec, DB.setContainerID, DB.view]
    rw [Table.only_update (by exact fun _ => rfl)]
  | setCredentialsFetchedAt key now =>
    cases h
    simp only [Write.exec, DB.setCredentialsFetchedAt, DB.view]
    rw [Table.only_update (by exact fun _ => rfl)]
  | scheduleNext userID next now =>
    cases h
    simp only [Write.exec, DB.scheduleNext, DB.view]
    rw [Table.only_update (by exact fun _ => rfl)]
  | updateTimezone id timezone now =>
    cases h
    simp only [Write.exec, DB.updateTimezone, DB.view]
    rw [Table.only_update (by exact fun _ => rfl)]
  | deleteUser id =>
    cases h
    simp only [Write.exec, DB.deleteUser, DB.view, Table.only_delete]
  | deleteSession tokenHash =>
    cases h
    simp only [Write.exec, DB.deleteSession, DB.view, Table.only_delete]
  | retention now stmt =>
    cases h
    cases stmt with
    | screenshots =>
      simp only [Write.exec, RetentionStatement.exec, DB.view]
      rw [Table.only_update (by exact fun _ => rfl)]
    | _ => simp only [Write.exec, RetentionStatement.exec, DB.view, Table.only_delete]

theorem Write.exec_other (h : x.exec db = some db') (hx : x.concerns u db = false) :
    db'.view u = db.view u := by
  cases x with
  | insertScrapeLog l =>
    simp only [Write.exec, DB.insertScrapeLog] at h
    split_ifs at h with hhas
    obtain ⟨t, ht, rfl⟩ := Option.map_eq_some_iff.mp h
    have hview := Table.only_insert_other (q := fun r => r.userID == u) ht hx
    simp only [DB.view, hview]
  | insertShift sh =>
    simp only [Write.exec, DB.insertShift] at h
    split_ifs at h with hhas hnew
    · obtain ⟨t, ht, rfl⟩ := Option.map_eq_some_iff.mp h
      have hview := Table.only_insert_other (q := fun r => r.userID == u) ht hx
      simp only [DB.view, hview]
    · cases h
      rfl
  | upsertSchedule userID next =>
    simp only [Write.exec, DB.upsertSchedule] at h
    split_ifs at h with hhas hrow
    · cases h
      simp only [DB.view]
      rw [Table.only_update_other (by exact fun _ => rfl) fun r _ hr => ?_]
      exact beq_false_of_other hr hx
    · obtain ⟨t, ht, rfl⟩ := Option.map_eq_some_iff.mp h
      have hview := Table.only_insert_other (q := fun r => r.userID == u) ht hx
      simp only [DB.view, hview]
  | insertDEK dek =>
    simp only [Write.exec, DB.insertDEK] at h
    split_ifs at h with hhas
    obtain ⟨t, ht, rfl⟩ := Option.map_eq_some_iff.mp h
    have hview := Table.only_insert_other (q := fun r => r.userID == u) ht hx
    simp only [DB.view, hview]
  | upsertCredentials row =>
    simp only [Write.exec, DB.upsertCredentials] at h
    split_ifs at h with hhas hrow
    · cases h
      simp only [DB.view]
      rw [Table.only_update_other (by exact fun _ => rfl) fun r _ hr => ?_]
      exact beq_false_of_other hr hx
    · obtain ⟨t, ht, rfl⟩ := Option.map_eq_some_iff.mp h
      have hview := Table.only_insert_other (q := fun r => r.userID == u) ht hx
      simp only [DB.view, hview]
  | insertUser r =>
    obtain ⟨t, ht, rfl⟩ := Option.map_eq_some_iff.mp h
    have hview := Table.only_insert_other (q := fun x => x.id == u) ht hx
    simp only [DB.view, hview]
  | insertSession r =>
    simp only [Write.exec, DB.insertSession] at h
    split_ifs at h with hhas
    obtain ⟨t, ht, rfl⟩ := Option.map_eq_some_iff.mp h
    have hview := Table.only_insert_other (q := fun x => x.userID == u) ht hx
    simp only [DB.view, hview]
  | finishScrapeLog id v now =>
    cases h
    simp only [DB.finishScrapeLog, DB.view]
    rw [Table.only_update_other (fun l => by rw [ScrapeLog.finish_userID]) (unfound hx)]
  | setContainerID id containerID =>
    cases h
    simp only [DB.setContainerID, DB.view]
    rw [Table.only_update_other (by exact fun _ => rfl) (unfound hx)]
  | setCredentialsFetchedAt key now =>
    cases h
    simp only [DB.setCredentialsFetchedAt, DB.view]
    rw [Table.only_update_other (by exact fun _ => rfl) (unfound hx)]
  | scheduleNext userID next now =>
    cases h
    simp only [DB.scheduleNext, DB.view]
    rw [Table.only_update_other (by exact fun _ => rfl) fun r _ hr => beq_false_of_other hr hx]
  | updateTimezone id timezone now =>
    cases h
    simp only [DB.updateTimezone, DB.view]
    rw [Table.only_update_other (by exact fun _ => rfl) fun r _ hr => beq_false_of_other hr hx]
  | deleteUser id =>
    cases h
    simp only [DB.deleteUser, DB.view]
    rw [Table.only_delete_other fun r _ hr => beq_false_of_other hr hx,
      Table.only_delete_other fun r _ hr => beq_false_of_other hr hx,
      Table.only_delete_other fun r _ hr => beq_false_of_other hr hx,
      Table.only_delete_other fun r _ hr => beq_false_of_other hr hx,
      Table.only_delete_other fun r _ hr => beq_false_of_other hr hx,
      Table.only_delete_other fun r _ hr => beq_false_of_other hr hx,
      Table.only_delete_other fun r _ hr => beq_false_of_other hr hx]
  | deleteSession tokenHash =>
    cases h
    simp only [DB.deleteSession, DB.view]
    rw [Table.only_delete_other (unfound hx)]
  | retention now stmt => cases hx

theorem Write.unwinds (u : Uuid) : Unwinds Write.exec (DB.view u) (Write.concerns u) where
  own := Write.exec_view
  other := Write.exec_other

end Statements
end ScheduleSync
