import Mathlib.Data.Set.Function
import ScheduleSync.Deletion
import ScheduleSync.LoginAuthenticity
import ScheduleSync.Retention

/-! Session lifecycle. The history of a run says which sessions were opened, which tokens
were logged out and which accounts deleted; GetSessionUser answers from the rows that the
statements of login, logout, retention and account deletion have left of it. -/
namespace ScheduleSync

inductive SessionEvent where
  | opened (userID : Uuid) (token : String) (now : Int)
  | closed (token : String)
  | deleted (userID : Uuid)
deriving DecidableEq

def SessionEvent.created : SessionEvent → Option String
  | .opened _ token _ => some token
  | _ => none

def SessionEvent.token : SessionEvent → Option String
  | .opened _ token _ => some token
  | .closed token => some token
  | .deleted _ => none

/-- What the next step of a task does to sessions: CreateSession returns a token, or the
DELETE of logout or of deleteAccount is executed. -/
def Task.sessionEvent (env : Env) (o : Outcome) (w : World) : Task → Option SessionEvent
  | .verifyPin _ _ (.createSession u) =>
    if o.randFails then none
    else
      (World.exec o (w.db.insertSession
        ⟨o.uuid, u.id, env.hashToken o.token, unix (w.now + sessionDuration), unix w.now⟩)).map
          fun _ => .opened u.id o.token (unix w.now)
  | .logout token => if token = "" ∨ o.sqlFails then none else some (.closed token)
  | .deleteAccount userID =>
    if !o.sqlFails && w.db.hasUser userID then some (.deleted userID) else none
  | _ => none

def Server.sessionEvent (env : Env) (s : Server) : Action → Option SessionEvent
  | .run i o => s.tasks[i]?.bind fun t => t.sessionEvent env o s.toWorld
  | _ => none

def StandsOpen (history : List SessionEvent) (token : String) (userID : Uuid) (t : Int) : Prop :=
  ∃ later earlier, history = later ++ .opened userID token t :: earlier ∧
    .closed token ∉ later ∧ .deleted userID ∉ history

/-- The session has not expired at `now` either. -/
def LoggedIn (history : List SessionEvent) (token : String) (userID : Uuid) (now : Int) : Prop :=
  ∃ t, StandsOpen history token userID t ∧ now < t + 90 * day

section History
variable {history : List SessionEvent} {e : SessionEvent} {token : String} {userID : Uuid} {t : Int}

theorem StandsOpen.mem (h : StandsOpen history token userID t) :
    .opened userID token t ∈ history := by
  obtain ⟨later, earlier, rfl, _⟩ := h
  simp

theorem StandsOpen.cons (h : StandsOpen history token userID t) (hclosed : e ≠ .closed token)
    (hdeleted : e ≠ .deleted userID) : StandsOpen (e :: history) token userID t := by
  obtain ⟨later, earlier, rfl, hc, hd⟩ := h
  refine ⟨e :: later, earlier, rfl, ?_, ?_⟩
  · rintro (_ | ⟨_, hmem⟩)
    · exact hclosed rfl
    · exact hc hmem
  · rintro (_ | ⟨_, hmem⟩)
    · exact hdeleted rfl
    · exact hd hmem

theorem standsOpen_opened (h : .deleted userID ∉ history) :
    StandsOpen (.opened userID token t :: history) token userID t := by
  refine ⟨[], history, rfl, List.not_mem_nil, ?_⟩
  rintro (_ | ⟨_, hmem⟩)
  exact h hmem

theorem StandsOpen.of_cons (h : StandsOpen (e :: history) token userID t) :
    e = .opened userID token t ∨
      StandsOpen history token userID t ∧ e ≠ .closed token ∧ e ≠ .deleted userID := by
  obtain ⟨later, earlier, heq, hc, hd⟩ := h
  cases later with
  | nil => exact .inl (List.cons.inj heq).1
  | cons e' later =>
    obtain ⟨rfl, rfl⟩ := List.cons.inj heq
    refine .inr ⟨⟨later, earlier, rfl, ?_, ?_⟩, ?_, ?_⟩
    · exact fun hmem => hc (List.mem_cons_of_mem _ hmem)
    · exact fun hmem => hd (List.mem_cons_of_mem _ hmem)
    · rintro rfl
      exact hc List.mem_cons_self
    · rintro rfl
      exact hd List.mem_cons_self

theorem userID_of_opened {userID' : Uuid} {t' : Int}
    (hfresh : (history.filterMap SessionEvent.created).Nodup)
    (h : .opened userID token t ∈ history) (h' : .opened userID' token t' ∈ history) :
    userID' = userID := by
  have hpair := List.pairwise_filterMap.mp hfresh
  have : Std.Symm fun e e' : SessionEvent => ∀ b, e.created = some b → ∀ b', e'.created = some b' → b ≠ b' :=
    ⟨fun _ _ hne b hb b' hb' heq => hne b' hb' b hb heq.symm⟩
  by_contra hne
  have hevents : SessionEvent.opened userID token t ≠ .opened userID' token t' := by
    rintro ⟨⟩
    exact hne rfl
  exact List.Pairwise.forall hpair h h' hevents token rfl token rfl rfl

end History

/-! What one step can do to the sessions, with the event it leaves. -/

/-- The sessions are as before and no account is gone. -/
structure KeepsSessions (db db' : DB) : Prop where
  sessions : db'.sessions = db.sessions
  users : ∀ userID, db.hasUser userID = true → db'.hasUser userID = true

theorem KeepsSessions.refl (db : DB) : KeepsSessions db db := ⟨rfl, fun _ h => h⟩

def Write.touchesSessions : Write → Bool
  | .insertSession _ | .deleteSession _ | .deleteUser _ | .retention _ .sessions => true
  | _ => false

theorem Write.Done.keepsSessions {db db' : DB} {x : Write} (h : x.Done db db')
    (hx : x.touchesSessions = false) : KeepsSessions db db' where
  sessions := by
    cases h with
    | insertSession | deleteSession | deleteUser => cases hx
    | @retention now stmt =>
      cases stmt with
      | sessions => cases hx
      | _ => rfl
    | _ => rfl
  users uid huid := by
    refine (h.hasUser huid).resolve_right ?_
    rintro rfl
    cases hx

theorem Wrote.keepsSessions {wr : Option Write} {w w' : World} (h : Wrote wr w w')
    (hwr : ∀ x, wr = some x → x.touchesSessions = false) : KeepsSessions w.db w'.db := by
  cases h with
  | same hdb =>
    rw [hdb]
    exact .refl w.db
  | exec x hx hexec => exact (Write.done_of_exec hexec).keepsSessions (hwr x hx)

inductive SessionStep (env : Env) (s s' : Server) : Option SessionEvent → Prop
  | kept (hdb : KeepsSessions s.db s'.db) : SessionStep env s s' none
  | expired {now : Int} {stmts : List RetentionStatement} (hsch : s.scheduler = .retention now stmts)
      (hdb : s'.db = RetentionStatement.sessions.exec now s.db) : SessionStep env s s' none
  | opened {r : Session} {token : String} (huser : s.db.hasUser r.userID = true)
      (hdb : s.db.insertSession r = some s'.db) (hhash : r.tokenHash = env.hashToken token)
      (hexpires : r.expiresAt = unix s.now + 90 * day) :
      SessionStep env s s' (some (.opened r.userID token (unix s.now)))
  | closed {token : String} (hdb : s'.db = s.db.deleteSession (env.hashToken token)) :
      SessionStep env s s' (some (.closed token))
  | deleted {userID : Uuid} (huser : s.db.hasUser userID = true)
      (hdb : s'.db = s.db.deleteUser userID) : SessionStep env s s' (some (.deleted userID))
  | nobody {userID : Uuid} (huser : s.db.hasUser userID = false)
      (hdb : s'.db = s.db.deleteUser userID) : SessionStep env s s' none

theorem unix_sessionDuration (now : Int) : unix (now + sessionDuration) = unix now + 90 * day := by
  have hseconds : sessionDuration = 90 * day * second := by decide
  rw [hseconds, unix_add_seconds]

namespace Server
variable {env : Env} {s s' : Server} {a : Action}

theorem sessionStep_verifyPin {i : Nat} {o : Outcome} {email pin : String} {pc pc' : VerifyPinPc}
    {w : World} {tasks : List Task} (ht : s.tasks[i]? = some (.verifyPin email pin pc))
    (h : verifyPin env o s.toWorld email pin pc = some (w, pc')) :
    SessionStep env s { s with toWorld := w, tasks := tasks } (s.sessionEvent env (.run i o)) := by
  simp only [sessionEvent, ht, Option.bind_some]
  have hfind : ∀ {fpc : FindUserPc} {r : FindUserResult},
      findOrCreateUser o s.toWorld email fpc = some (w, r) → KeepsSessions s.db w.db := by
    intro fpc r hr
    refine (findOrCreateUser_wrote hr).keepsSessions fun x hx => ?_
    cases fpc with
    | insert =>
      cases hx
      rfl
    | _ => cases hx
  cases verifyPin_cases h with
  | find hr => exact .kept (hfind hr)
  | found hr => exact .kept (hfind hr)
  | notFound hr => exact .kept (hfind hr)
  | sessionFailed hid hexec =>
    simp only [Task.sessionEvent]
    split_ifs at hexec ⊢ with hrand
    · exact .kept (.refl _)
    · rw [hexec]
      exact .kept (.refl _)
  | @createSession u db hid hrand hexec =>
    simp only [Task.sessionEvent, hrand, hexec]
    have hins := exec_eq_some hexec
    refine .opened (r := ⟨o.uuid, u.id, env.hashToken o.token, unix (s.now + sessionDuration), unix s.now⟩)
      ?_ hins rfl (unix_sessionDuration s.now)
    simp only [DB.insertSession] at hins
    split_ifs at hins with huser
    exact huser
  | _ => exact .kept (.refl _)

theorem sessionStep_other {i : Nat} {o : Outcome} {t : Task} (ht : s.tasks[i]? = some t)
    (h : s.step env (.run i o) = some s') (hevent : t.sessionEvent env o s.toWorld = none)
    (hwrites : ∀ x, t.Writes env o s.toWorld x → x.touchesSessions = false) :
    SessionStep env s s' (s.sessionEvent env (.run i o)) := by
  have hkept : KeepsSessions s.db s'.db := by
    refine (step_wrote h).keepsSessions fun x hx => ?_
    simp only [write, ht, Option.bind_some] at hx
    exact hwrites x (Task.writes_of_write hx)
  simp only [sessionEvent, ht, Option.bind_some, hevent]
  exact .kept hkept

theorem sessionStep_run {i : Nat} {o : Outcome} (h : s.step env (.run i o) = some s') :
    SessionStep env s s' (s.sessionEvent env (.run i o)) := by
  obtain ⟨t, w, t', jobs, ht, hrun, rfl⟩ := step_run h
  cases runTask_cases hrun with
  | verifyPin hr => exact sessionStep_verifyPin ht hr
  | @logout token =>
    simp only [sessionEvent, ht, Option.bind_some, Task.sessionEvent, logout]
    by_cases hskip : token = "" ∨ o.sqlFails = true
    · rw [if_pos hskip]
      refine .kept ?_
      split_ifs with htoken
      · exact .refl _
      · have hsql : o.sqlFails = true := hskip.resolve_left htoken
        simp only [World.execDropped, hsql]
        exact .refl _
    · rw [if_neg hskip]
      obtain ⟨htoken, hsql⟩ := not_or.mp hskip
      simp only [htoken, World.execDropped, hsql]
      exact .closed rfl
  | @deleteAccount userID =>
    simp only [sessionEvent, ht, Option.bind_some, Task.sessionEvent, deleteAccount]
    cases hsql : o.sqlFails with
    | true => exact .kept (.refl _)
    | false =>
      cases huser : s.db.hasUser userID with
      | true => exact .deleted huser rfl
      | false => exact .nobody huser rfl
  | _ =>
    refine sessionStep_other ht h rfl fun x hx => ?_
    cases hx <;> rfl

theorem sessionStep_of_step (h : s.step env a = some s') :
    SessionStep env s s' (s.sessionEvent env a) := by
  cases a with
  | run i o => exact sessionStep_run h
  | schedule o =>
    have hkept : (∀ x, s.scheduler.write o s.toWorld = some x → x.touchesSessions = false) →
        SessionStep env s s' none := fun hx => .kept ((step_wrote h).keepsSessions hx)
    obtain ⟨w, sch, jobs, hrun, rfl⟩ := step_schedule h
    cases hsch : s.scheduler with
    | retention now stmts =>
      rw [hsch] at hrun hkept
      cases stmts with
      | nil => exact hkept (by simp [Scheduler.write])
      | cons stmt rest =>
        cases hrun
        cases stmt with
        | sessions =>
          simp only [World.execDropped]
          split
          · exact .kept (.refl _)
          · exact .expired hsch rfl
        | _ =>
          refine hkept fun x hx => ?_
          cases hx
          rfl
    | _ =>
      rw [hsch] at hkept
      refine hkept fun x hx => ?_
      cases Scheduler.writes_of_write hx <;> rfl
  | _ =>
    cases h
    exact .kept (.refl _)

end Server

/-! The table against the history. -/

/-- Every row is of a session that stands open, every open session that has not expired at
`now` has its row, and whoever has an open session has an account. -/
structure DB.Holds (env : Env) (history : List SessionEvent) (now : Int) (db : DB) : Prop where
  rows : ∀ r ∈ db.sessions, ∃ token t, StandsOpen history token r.userID t ∧
    r.tokenHash = env.hashToken token ∧ r.expiresAt = t + 90 * day
  kept : ∀ token userID t, StandsOpen history token userID t → now < t + 90 * day →
    ∃ r ∈ db.sessions, r.userID = userID ∧ r.tokenHash = env.hashToken token ∧
      r.expiresAt = t + 90 * day
  users : ∀ token userID t, StandsOpen history token userID t → db.hasUser userID = true

section Table
variable {env : Env} {history : List SessionEvent} {now now' : Int} {db db' : DB} {token : String}
  {userID : Uuid}

theorem DB.Holds.of_keeps (h : db.Holds env history now) (hdb : KeepsSessions db db')
    (hnow : now ≤ now') : db'.Holds env history now' where
  rows := by
    rw [hdb.sessions]
    exact h.rows
  kept token userID t hopen hlive := by
    rw [hdb.sessions]
    exact h.kept token userID t hopen (by omega)
  users token userID t hopen := hdb.users userID (h.users token userID t hopen)

theorem DB.Holds.expire (h : db.Holds env history now) {cutoff : Int} (hcutoff : cutoff ≤ now)
    (hnow : now ≤ now') : (RetentionStatement.sessions.exec cutoff db).Holds env history now' where
  rows r hr := h.rows r (Table.mem_delete.mp hr).1
  kept token userID t hopen hlive := by
    obtain ⟨r, hr, huser, hhash, hexpires⟩ := h.kept token userID t hopen (by omega)
    refine ⟨r, Table.mem_delete.mpr ⟨hr, ?_⟩, huser, hhash, hexpires⟩
    rw [decide_eq_false_iff_not]
    omega
  users := h.users

theorem DB.Holds.opened (h : db.Holds env history now) {r : Session}
    (huser : db.hasUser r.userID = true) (hdb : db.insertSession r = some db')
    (hhash : r.tokenHash = env.hashToken token) (hexpires : r.expiresAt = now + 90 * day)
    (hdeleted : .deleted r.userID ∉ history) (hnow : now ≤ now') :
    db'.Holds env (.opened r.userID token now :: history) now' := by
  rw [DB.insertSession, if_pos huser] at hdb
  obtain ⟨t, ht, rfl⟩ := Option.map_eq_some_iff.mp hdb
  refine ⟨?_, ?_, ?_⟩
  · refine Table.forall_insert ht (fun x hx => ?_) ⟨token, now, standsOpen_opened hdeleted, hhash, hexpires⟩
    obtain ⟨token', t', hopen, hrow⟩ := h.rows x hx
    exact ⟨token', t', hopen.cons (by simp) (by simp), hrow⟩
  · intro token' userID t' hopen hlive
    obtain heq | ⟨hold, _⟩ := hopen.of_cons
    · cases heq
      exact ⟨r, (Table.mem_of_insert ht).mpr (.inr rfl), rfl, hhash, hexpires⟩
    · obtain ⟨x, hx, hrow⟩ := h.kept token' userID t' hold (by omega)
      exact ⟨x, (Table.mem_of_insert ht).mpr (.inl hx), hrow⟩
  · intro token' userID t' hopen
    obtain heq | ⟨hold, _⟩ := hopen.of_cons
    · cases heq
      exact huser
    · exact h.users token' userID t' hold

theorem DB.Holds.closed (h : db.Holds env history now)
    (hinj : ∀ token' userID t, StandsOpen history token' userID t →
      env.hashToken token' = env.hashToken token → token' = token) (hnow : now ≤ now') :
    (db.deleteSession (env.hashToken token)).Holds env (.closed token :: history) now' where
  rows r hr := by
    obtain ⟨hr, hkept⟩ := Table.mem_delete.mp hr
    obtain ⟨token', t, hopen, hhash, hexpires⟩ := h.rows r hr
    refine ⟨token', t, hopen.cons ?_ (by simp), hhash, hexpires⟩
    rintro ⟨⟩
    simp [hhash] at hkept
  kept token' userID t hopen hlive := by
    obtain heq | ⟨hold, hne, _⟩ := hopen.of_cons
    · cases heq
    obtain ⟨r, hr, huser, hhash, hexpires⟩ := h.kept token' userID t hold (by omega)
    refine ⟨r, Table.mem_delete.mpr ⟨hr, ?_⟩, huser, hhash, hexpires⟩
    rw [beq_eq_false_iff_ne, hhash]
    intro heq
    exact hne (by rw [hinj token' userID t hold heq])
  users token' userID t hopen := by
    obtain heq | ⟨hold, _⟩ := hopen.of_cons
    · cases heq
    · exact h.users token' userID t hold

theorem DB.Holds.deleteUser (h : db.Holds env history now) (hnow : now ≤ now') :
    (db.deleteUser userID).Holds env (.deleted userID :: history) now' where
  rows r hr := by
    obtain ⟨hr, hne⟩ := Table.mem_delete.mp hr
    obtain ⟨token, t, hopen, hrow⟩ := h.rows r hr
    refine ⟨token, t, hopen.cons (by simp) ?_, hrow⟩
    rintro ⟨⟩
    simp at hne
  kept token uid t hopen hlive := by
    obtain heq | ⟨hold, _, hne⟩ := hopen.of_cons
    · cases heq
    obtain ⟨r, hr, huser, hrow⟩ := h.kept token uid t hold (by omega)
    refine ⟨r, Table.mem_delete.mpr ⟨hr, ?_⟩, huser, hrow⟩
    rw [beq_eq_false_iff_ne, huser]
    rintro rfl
    exact hne rfl
  users token uid t hopen := by
    obtain heq | ⟨hold, _, hne⟩ := hopen.of_cons
    · cases heq
    refine DB.hasUser_deleteUser.mpr ⟨h.users token uid t hold, ?_⟩
    rintro rfl
    exact hne rfl

theorem DB.Holds.keeps_deleteUser (h : db.Holds env history now)
    (huser : db.hasUser userID = false) : KeepsSessions db (db.deleteUser userID) := by
  have hne : ∀ uid, db.hasUser uid = true → uid ≠ userID := by
    rintro uid huid rfl
    simp [huser] at huid
  refine ⟨?_, fun uid huid => DB.hasUser_deleteUser.mpr ⟨huid, hne uid huid⟩⟩
  refine Table.delete_eq_self fun r hr => ?_
  obtain ⟨token, t, hopen, _⟩ := h.rows r hr
  exact beq_eq_false_iff_ne.mpr (hne _ (h.users _ _ _ hopen))

theorem DB.Holds.loggedIn (h : db.Holds env history now) {tokens : Set String}
    (hinj : Set.InjOn env.hashToken tokens)
    (htokens : ∀ e ∈ history, ∀ token, e.token = some token → token ∈ tokens)
    (htoken : token ∈ tokens) {u : User}
    (hu : db.sessionUser (env.hashToken token) now = some u) : LoggedIn history token u.id now := by
  obtain ⟨r, hr, hrow⟩ := List.exists_of_findSome?_eq_some hu
  split_ifs at hrow with hmatch
  simp only [Bool.and_eq_true, beq_iff_eq, decide_eq_true_eq] at hmatch
  obtain ⟨_, hid⟩ := Table.queryRow_some hrow
  obtain ⟨token', t, hopen, hhash, hexpires⟩ := h.rows r hr
  have hmem : token' ∈ tokens := htokens _ hopen.mem _ rfl
  have hsame : token' = token := hinj hmem htoken (hhash.symm.trans hmatch.1)
  subst hsame
  rw [beq_iff_eq.mp hid]
  exact ⟨t, hopen, by omega⟩

theorem DB.Holds.sessionUser_iff (h : db.Holds env history now) {tokens : Set String}
    (hinj : Set.InjOn env.hashToken tokens)
    (htokens : ∀ e ∈ history, ∀ token, e.token = some token → token ∈ tokens)
    (hfresh : (history.filterMap SessionEvent.created).Nodup) (htoken : token ∈ tokens) :
    (db.sessionUser (env.hashToken token) now).map User.id = some userID ↔
      LoggedIn history token userID now := by
  constructor
  · intro hsome
    obtain ⟨u, hu, rfl⟩ := Option.map_eq_some_iff.mp hsome
    exact h.loggedIn hinj htokens htoken hu
  · rintro ⟨t, hopen, hlive⟩
    obtain ⟨r, hr, rfl, hhash, hexpires⟩ := h.kept token userID t hopen hlive
    cases hres : db.sessionUser (env.hashToken token) now with
    | some u =>
      -- the row found first may be another one, but its token says whose it is
      obtain ⟨t', hopen', _⟩ := h.loggedIn hinj htokens htoken hres
      rw [Option.map_some, userID_of_opened hfresh hopen.mem hopen'.mem]
    | none =>
      have hnone := List.findSome?_eq_none_iff.mp hres r hr
      have hlate : now < r.expiresAt := by omega
      obtain ⟨u, hu, hid⟩ := DB.hasUser_iff.mp (h.users token r.userID t hopen)
      have hrow : db.user r.userID = none := by simpa [hhash, hlate] using hnone
      have huser := Table.queryRow_none hrow u hu
      simp [hid] at huser

theorem sessionUser_deleteSession {tokenHash tokenHash' : Bytes} (hne : tokenHash' ≠ tokenHash) :
    (db.deleteSession tokenHash).sessionUser tokenHash' now = db.sessionUser tokenHash' now := by
  refine findSome?_filter_of_none (fun r hr => ?_) _
  have hhash : r.tokenHash = tokenHash := by simpa using hr
  rw [if_neg]
  simp [hhash, hne.symm]

end Table

namespace Server
variable {env : Env} {s s' : Server} {a : Action} {history : List SessionEvent} {start : Int} {db : DB}

/-- The table agrees with the history, the deleted accounts are gone, and a retention pass
has read its cutoff no later than now. -/
structure SessionsHeld (env : Env) (history : List SessionEvent) (s : Server) : Prop where
  table : s.db.Holds env history (unix s.now)
  deleted : ∀ userID, .deleted userID ∈ history → userID ∈ s.drawn ∧ s.db.Gone userID
  clock : ∀ now stmts, s.scheduler = .retention now stmts → now ≤ unix s.now

theorem retention_clock_step (hs : ∀ now stmts, s.scheduler = .retention now stmts → now ≤ unix s.now)
    (h : s.step env a = some s') :
    ∀ now stmts, s'.scheduler = .retention now stmts → now ≤ unix s'.now := by
  have hnow := now_step h
  cases a with
  | schedule o =>
    obtain ⟨w, sch, jobs, hrun, rfl⟩ := step_schedule h
    intro now stmts hsch
    simp only at hsch
    subst hsch
    generalize hold : s.scheduler = sch₀ at hrun
    cases runScheduler_cases hrun with
    | retentionTick => exact le_rfl
    | retention => exact (hs _ _ hold).trans hnow
  | run i o =>
    obtain ⟨_, _, _, _, _, _, rfl⟩ := step_run h
    exact fun now stmts hsch => (hs now stmts hsch).trans hnow
  | _ =>
    cases h
    exact fun now stmts hsch => (hs now stmts hsch).trans hnow

theorem deleted_step (hreg : s.Registered) (hs : s.SessionsHeld env history)
    (h : s.step env a = some s') {userID : Uuid}
    (hmem : .deleted userID ∈ (s.sessionEvent env a).toList ++ history) :
    userID ∈ s'.drawn ∧ s'.db.Gone userID := by
  cases List.mem_append.mp hmem with
  | inr hold =>
    obtain ⟨hdrawn, hgone⟩ := hs.deleted userID hold
    exact ⟨drawn_step h hdrawn, gone_step hdrawn hgone h⟩
  | inl hnew =>
    have hstep := sessionStep_of_step h
    rw [Option.mem_toList.mp hnew] at hstep
    cases hstep with
    | deleted huser hdb =>
      obtain ⟨u, hu, rfl⟩ := DB.hasUser_iff.mp huser
      rw [hdb]
      exact ⟨drawn_step h (hreg.users u hu), DB.gone_deleteUser⟩

theorem sessionsHeld_step (hreg : s.Registered) (hs : s.SessionsHeld env history)
    {tokens : Set String} (hinj : Set.InjOn env.hashToken tokens)
    (htokens : ∀ e ∈ (s.sessionEvent env a).toList ++ history, ∀ token, e.token = some token →
      token ∈ tokens)
    (h : s.step env a = some s') : s'.SessionsHeld env ((s.sessionEvent env a).toList ++ history) := by
  have hnow := now_step h
  refine ⟨?_, fun _ hmem => deleted_step hreg hs h hmem, retention_clock_step hs.clock h⟩
  generalize hevent : s.sessionEvent env a = e at htokens ⊢
  have hstep := sessionStep_of_step h
  rw [hevent] at hstep
  cases hstep with
  | kept hdb => exact hs.table.of_keeps hdb hnow
  | expired hsch hdb =>
    rw [hdb]
    exact hs.table.expire (hs.clock _ _ hsch) hnow
  | opened huser hdb hhash hexpires =>
    refine hs.table.opened huser hdb hhash hexpires (fun hdel => ?_) hnow
    exact (hs.deleted _ hdel).2.ne_of_hasUser huser rfl
  | @closed token hdb =>
    rw [hdb]
    refine hs.table.closed (fun token' userID t hopen heq => ?_) hnow
    exact hinj (htokens _ (List.mem_cons_of_mem _ hopen.mem) _ rfl)
      (htokens _ List.mem_cons_self _ rfl) heq
  | deleted huser hdb =>
    rw [hdb]
    exact hs.table.deleteUser hnow
  | nobody huser hdb =>
    rw [hdb]
    exact hs.table.of_keeps (hs.table.keeps_deleteUser huser) hnow

theorem sessionsHeld_boot (hempty : db.sessions.rows = []) :
    (boot db start).SessionsHeld env [] where
  table :=
    { rows := by
        intro r hr
        have hr' : r ∈ db.sessions.rows := hr
        simp [hempty] at hr'
      kept := fun _ _ _ hopen => absurd hopen.mem List.not_mem_nil
      users := fun _ _ _ hopen => absurd hopen.mem List.not_mem_nil }
  deleted := fun _ hmem => absurd hmem List.not_mem_nil
  clock := by
    rintro now stmts ⟨⟩
    exact le_rfl

theorem sessionsHeld_of_reaches (hempty : db.sessions.rows = [])
    (hrun : Reaches (recorded (step env) (sessionEvent env)) (fun p => anyStep p.1)
      (boot db start, []) (s, history))
    {tokens : Set String} (hinj : Set.InjOn env.hashToken tokens)
    (htokens : ∀ e ∈ history, ∀ token, e.token = some token → token ∈ tokens) :
    s.SessionsHeld env history := by
  generalize hp : (s, history) = p at hrun
  induction hrun generalizing s history with
  | refl =>
    cases hp
    exact sessionsHeld_boot hempty
  | @tail q p hq hmove ih =>
    subst hp
    obtain ⟨a, _, ha⟩ := hmove
    obtain ⟨hstep, hhistory⟩ := recorded_eq_some ha
    simp only at hstep hhistory
    subst hhistory
    have hreach : Reaches (step env) anyStep (boot db start) q.1 := reaches_of_recorded hq
    refine sessionsHeld_step (registered_of_reaches hreach) ?_ hinj htokens hstep
    exact ih (fun e he => htokens e (List.mem_append_right _ he)) rfl

/-- Session lifecycle over whole runs: GetSessionUser answers a user exactly when the history
has the user logged in with the token, and a logout is seen by no other token. -/
theorem session_lifecycle (hempty : db.sessions.rows = [])
    (hrun : Reaches (recorded (step env) (sessionEvent env)) (fun p => anyStep p.1)
      (boot db start, []) (s, history))
    (hfresh : (history.filterMap SessionEvent.created).Nodup)
    {tokens : Set String} (hinj : Set.InjOn env.hashToken tokens)
    (htokens : ∀ e ∈ history, ∀ token, e.token = some token → token ∈ tokens) :
    (∀ token ∈ tokens, ∀ userID o, o.sqlFails = false →
      ((getSessionUser env o s.toWorld token).map User.id = some userID ↔
        LoggedIn history token userID (unix s.now))) ∧
    ∀ i token, s.tasks[i]? = some (.logout token) → token ∈ tokens →
      ∀ o s', s.step env (.run i o) = some s' → ∀ token' ∈ tokens, token' ≠ token →
        ∀ o', getSessionUser env o' s'.toWorld token' = getSessionUser env o' s.toWorld token' := by
  have hheld := sessionsHeld_of_reaches hempty hrun hinj htokens
  constructor
  · intro token htoken userID o hsql
    rw [getSessionUser, select_executed hsql]
    exact hheld.table.sessionUser_iff hinj htokens hfresh htoken
  · intro i token ht htoken o s' h token' htoken' hne o'
    obtain ⟨w, t', jobs, hrun, rfl⟩ := step_task ht h
    cases hrun
    have hhash : env.hashToken token' ≠ env.hashToken token := fun heq => hne (hinj htoken' htoken heq)
    simp only [getSessionUser, logout, World.execDropped]
    split_ifs
    · rfl
    · rfl
    · simp only [sessionUser_deleteSession hhash]

def loginTwice : List Action :=
  loginAs "a@x.com" "a@x.com" ++ .arrive (.requestPin "a@x.com") :: statements 2 3 ++
    .arrive (.verifyPin "a@x.com" "000000") :: statements 3 2 ++
    [.run 3 { uuid := "s3", token := "tok3" }, .arrive (.logout "tok2"), .run 4 {}]

def loggedOutOnce : Server × List SessionEvent :=
  after (recorded (step sampleEnv) (sessionEvent sampleEnv)) (fun p => anyStep p.1)
    (boot sampleDB 0, []) loginTwice

theorem session_lifecycle_logged_out :
    loggedOutOnce.2 = [.closed "tok2", .opened "u1" "tok3" 0, .opened "u1" "tok2" 0] ∧
    ∀ userID o, o.sqlFails = false →
      ((getSessionUser sampleEnv o loggedOutOnce.1.toWorld "tok3").map User.id = some userID ↔
        LoggedIn loggedOutOnce.2 "tok3" userID (unix loggedOutOnce.1.now)) := by
  have hrun : Reaches (recorded (step sampleEnv) (sessionEvent sampleEnv)) (fun p => anyStep p.1)
      (boot sampleDB 0, []) (loggedOutOnce.1, loggedOutOnce.2) :=
    reaches_recorded_after (by decide +kernel)
  have hhistory : loggedOutOnce.2 =
      [.closed "tok2", .opened "u1" "tok3" 0, .opened "u1" "tok2" 0] := by decide +kernel
  have hinj : Set.InjOn sampleEnv.hashToken {"tok2", "tok3"} := by
    rintro a (rfl | rfl) b (rfl | rfl) heq
    · rfl
    · exact absurd heq (by decide)
    · exact absurd heq (by decide)
    · rfl
  refine ⟨hhistory, (session_lifecycle rfl hrun ?_ hinj ?_).1 "tok3" (by simp)⟩
  · rw [hhistory]
    decide
  · rw [hhistory]
    simp [SessionEvent.token]

end Server
end ScheduleSync
