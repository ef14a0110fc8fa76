import ScheduleSync.Custody
import ScheduleSync.LogRows
import ScheduleSync.LoginAuthenticity
import ScheduleSync.Provenance

/-! On whose word the service acts. Every change of an account follows from a session of this very
account, every scrape from credentials its user saved or from an admin, and a session from a PIN. -/
namespace ScheduleSync

/-- Who may have what written: the owner of an account alone what changes it, and a scrape only brings
something for a user who is `wanted`. -/
def Write.Allowed (owner wanted : Uuid → Prop) : Write → Prop
  | .insertDEK dek => owner dek.userID
  | .upsertCredentials row => owner row.userID
  | .upsertSchedule userID _ => owner userID
  | .updateTimezone userID _ _ => owner userID
  | .deleteUser userID => owner userID
  | .insertScrapeLog l => wanted l.userID
  | .insertShift sh => wanted sh.userID
  | .scheduleNext userID _ _ => wanted userID
  | .insertUser u => u.isAdmin = false
  | _ => True

def SubmitShiftsPc.OnWord (wanted : Uuid → Prop) : SubmitShiftsPc → Prop
  | .readTimezone _ userID _ => wanted userID
  | .count i => wanted i.userID
  | .insert i _ _ _ _ => wanted i.userID
  | .scheduleNext _ userID _ => wanted userID
  | _ => True

def SubmitFailurePc.OnWord (wanted : Uuid → Prop) : SubmitFailurePc → Prop
  | .markFailed _ userID _ => wanted userID
  | .handleFailure _ userID => wanted userID
  | .scheduleNext _ userID => wanted userID
  | _ => True

/-- A user who has signed in has `signedIn`, and a user to scrape is `wanted`. -/
def Task.OnWord (signedIn wanted : Uuid → Prop) : Task → Prop
  | .scrape job _ => wanted job.userID
  | .submitShifts _ pc => pc.OnWord wanted
  | .submitFailure _ pc => pc.OnWord wanted
  | .writeCredentials userID (.schedule _) => signedIn userID ∧ wanted userID
  | .writeCredentials userID _ => signedIn userID
  | .deleteAccount userID => signedIn userID
  | .updateTimezone userID _ => signedIn userID
  | _ => True

def Scheduler.OnWord (wanted : Uuid → Prop) : Scheduler → Prop
  | .reap entries => ∀ e ∈ entries, wanted e.userID
  | .reapMark e rest => wanted e.userID ∧ ∀ e ∈ rest, wanted e.userID
  | .reapRetry e rest => wanted e.userID ∧ ∀ e ∈ rest, wanted e.userID
  | .reapSchedule e rest => wanted e.userID ∧ ∀ e ∈ rest, wanted e.userID
  | _ => True

theorem Write.Allowed.mono {owner owner' wanted wanted' : Uuid → Prop} (howner : ∀ u, owner u → owner' u)
    (hwanted : ∀ u, wanted u → wanted' u) {x : Write} (h : x.Allowed owner wanted) : x.Allowed owner' wanted' := by
  cases x with
  | insertDEK | upsertCredentials | upsertSchedule | updateTimezone | deleteUser => exact howner _ h
  | insertScrapeLog | insertShift | scheduleNext => exact hwanted _ h
  | insertUser => exact h
  | _ => trivial

section Later
variable {signedIn signedIn' wanted wanted' : Uuid → Prop}

theorem Task.OnWord.mono (hsigned : ∀ u, signedIn u → signedIn' u) (hwanted : ∀ u, wanted u → wanted' u)
    {t : Task} (h : t.OnWord signedIn wanted) : t.OnWord signedIn' wanted' := by
  cases t with
  | scrape => exact hwanted _ h
  | submitShifts key pc =>
    cases pc with
    | readTimezone | count | insert | scheduleNext => exact hwanted _ h
    | _ => trivial
  | submitFailure key pc =>
    cases pc with
    | markFailed | handleFailure | scheduleNext => exact hwanted _ h
    | _ => trivial
  | writeCredentials userID pc =>
    cases pc with
    | schedule => exact ⟨hsigned _ h.1, hwanted _ h.2⟩
    | _ => exact hsigned _ h
  | deleteAccount | updateTimezone => exact hsigned _ h
  | _ => trivial

theorem Scheduler.OnWord.mono (hwanted : ∀ u, wanted u → wanted' u) {sch : Scheduler} (h : sch.OnWord wanted) :
    sch.OnWord wanted' := by
  cases sch with
  | reap => exact fun e he => hwanted _ (h e he)
  | reapMark | reapRetry | reapSchedule => exact ⟨hwanted _ h.1, fun e he => hwanted _ (h.2 e he)⟩
  | _ => trivial

end Later

section Handlers
variable {env : Env} {o : Outcome} {w w' : World} {signedIn wanted : Uuid → Prop}

end Handlers

theorem Write.Done.isAdmin {db db' : DB} {x : Write} (h : x.Done db db') {u : User} (hu : u ∈ db'.users) :
    (∃ u₀ ∈ db.users, u₀.id = u.id ∧ u₀.isAdmin = u.isAdmin) ∨ x = .insertUser u := by
  cases h with
  | insertUser ht =>
    cases (Table.mem_of_insert ht).mp hu with
    | inl hold => exact .inl ⟨u, hold, rfl, rfl⟩
    | inr heq => exact .inr (by rw [heq])
  | updateTimezone =>
    simp only [DB.updateTimezone, Table.mem_update] at hu
    obtain ⟨u₀, hu₀, rfl⟩ := hu
    refine .inl ⟨u₀, hu₀, ?_⟩
    split <;> exact ⟨rfl, rfl⟩
  | deleteUser => exact .inl ⟨u, (Table.mem_delete.mp hu).1, rfl, rfl⟩
  | @retention now stmt => cases stmt <;> exact .inl ⟨u, hu, rfl, rfl⟩
  | _ => exact .inl ⟨u, hu, rfl, rfl⟩

def DB.Scrapes (db : DB) (userID : Uuid) : Prop :=
  (∃ r ∈ db.scrapeSchedule, r.userID = userID) ∨ ∃ l ∈ db.scrapeLogs, l.status = .running ∧ l.userID = userID

namespace Server
variable {env : Env} {s s' : Server} {a : Action} {db₀ : DB} {start : Int} {uid : Uuid}

def SignedIn (db₀ : DB) (s : Server) (userID : Uuid) : Prop :=
  (∃ r ∈ db₀.sessions, r.userID = userID) ∨ ∃ p ∈ s.trace.sessionsOpened, p.1.id = userID

/-- The user has given credentials, or was scraped already at the start, or an admin has signed in. -/
def Wanted (db₀ : DB) (s : Server) (userID : Uuid) : Prop :=
  (∃ creds, (userID, creds) ∈ s.trace.saved) ∨ db₀.Scrapes userID ∨
    ∃ u ∈ db₀.users, u.isAdmin = true ∧ s.SignedIn db₀ u.id

/-- What the service does, it does on the word of somebody entitled to it. -/
structure OnWord (db₀ : DB) (s : Server) : Prop where
  sessions : ∀ r ∈ s.db.sessions, s.SignedIn db₀ r.userID
  admins : ∀ u ∈ s.db.users, u.isAdmin = true → ∃ u₀ ∈ db₀.users, u₀.id = u.id ∧ u₀.isAdmin = true
  schedules : ∀ r ∈ s.db.scrapeSchedule, s.Wanted db₀ r.userID
  logs : ∀ l ∈ s.db.scrapeLogs, l.status = .running → s.Wanted db₀ l.userID
  saved : ∀ x ∈ s.trace.saved, s.SignedIn db₀ x.1
  attempts : ∀ att ∈ s.trace.attempts, s.Wanted db₀ att.log.userID
  tasks : ∀ t ∈ s.tasks, t.OnWord (s.SignedIn db₀) (s.Wanted db₀)
  scheduler : s.scheduler.OnWord (s.Wanted db₀)

end Server
end ScheduleSync
