import ScheduleSync.KeyAuthority

/-! What is left of an account once its DELETE has committed: nothing, in any table, and
nothing comes back. Every INSERT of a child row checks that the account exists, and its
id is never drawn again, whatever goroutines still carry it. -/
namespace ScheduleSync

structure DB.Gone (db : DB) (userID : Uuid) : Prop where
  users : ∀ u ∈ db.users, u.id ≠ userID
  sessions : ∀ r ∈ db.sessions, r.userID ≠ userID
  userDEKs : ∀ r ∈ db.userDEKs, r.userID ≠ userID
  starbucksCredentials : ∀ r ∈ db.starbucksCredentials, r.userID ≠ userID
  shifts : ∀ sh ∈ db.shifts, sh.userID ≠ userID
  scrapeLogs : ∀ l ∈ db.scrapeLogs, l.userID ≠ userID
  scrapeSchedule : ∀ r ∈ db.scrapeSchedule, r.userID ≠ userID

section Statements
variable {db db' : DB} {userID : Uuid} {x : Write}

theorem DB.gone_deleteUser : (db.deleteUser userID).Gone userID where
  users u hu := by simpa using (Table.mem_delete.mp hu).2
  sessions r hr := by simpa using (Table.mem_delete.mp hr).2
  userDEKs r hr := by simpa using (Table.mem_delete.mp hr).2
  starbucksCredentials r hr := by simpa using (Table.mem_delete.mp hr).2
  shifts sh hsh := by simpa using (Table.mem_delete.mp hsh).2
  scrapeLogs l hl := by simpa using (Table.mem_delete.mp hl).2
  scrapeSchedule r hr := by simpa using (Table.mem_delete.mp hr).2

theorem DB.Gone.ne_of_hasUser (hg : db.Gone userID) {id : Uuid} (h : db.hasUser id = true) :
    id ≠ userID := by
  obtain ⟨u, hu, rfl⟩ := DB.hasUser_iff.mp h
  exact hg.users u hu

theorem Write.Done.gone (h : x.Done db db') (hg : db.Gone userID)
    (hnew : ∀ u, x = .insertUser u → u.id ≠ userID) : db'.Gone userID := by
  cases h with
  | insertScrapeLog huser ht =>
    exact { hg with scrapeLogs := Table.forall_insert ht hg.scrapeLogs (hg.ne_of_hasUser huser) }
  | insertShift huser ht =>
    exact { hg with shifts := Table.forall_insert ht hg.shifts (hg.ne_of_hasUser huser) }
  | keepShift => exact hg
  | insertSchedule huser ht =>
    exact { hg with scrapeSchedule := Table.forall_insert ht hg.scrapeSchedule (hg.ne_of_hasUser huser) }
  | updateSchedule =>
    exact { hg with scrapeSchedule := Table.forall_update rfl hg.scrapeSchedule fun _ hr => hr }
  | insertDEK huser ht =>
    exact { hg with userDEKs := Table.forall_insert ht hg.userDEKs (hg.ne_of_hasUser huser) }
  | insertCredentials huser ht =>
    exact { hg with
      starbucksCredentials := Table.forall_insert ht hg.starbucksCredentials (hg.ne_of_hasUser huser) }
  | updateCredentials =>
    exact { hg with
      starbucksCredentials := Table.forall_update rfl hg.starbucksCredentials fun _ hr => hr }
  | @insertUser u t ht =>
    exact { hg with users := Table.forall_insert ht hg.users (hnew u rfl) }
  | insertSession huser ht =>
    exact { hg with sessions := Table.forall_insert ht hg.sessions (hg.ne_of_hasUser huser) }
  | finishScrapeLog =>
    exact { hg with
      scrapeLogs := Table.forall_update rfl hg.scrapeLogs fun l hl => by rwa [ScrapeLog.finish_userID] }
  | setContainerID =>
    exact { hg with scrapeLogs := Table.forall_update rfl hg.scrapeLogs fun _ hl => hl }
  | setCredentialsFetchedAt =>
    exact { hg with scrapeLogs := Table.forall_update rfl hg.scrapeLogs fun _ hl => hl }
  | scheduleNext =>
    exact { hg with scrapeSchedule := Table.forall_update rfl hg.scrapeSchedule fun _ hr => hr }
  | updateTimezone => exact { hg with users := Table.forall_update rfl hg.users fun _ hu => hu }
  | deleteUser =>
    exact ⟨Table.forall_delete hg.users, Table.forall_delete hg.sessions,
      Table.forall_delete hg.userDEKs, Table.forall_delete hg.starbucksCredentials,
      Table.forall_delete hg.shifts, Table.forall_delete hg.scrapeLogs,
      Table.forall_delete hg.scrapeSchedule⟩
  | deleteSession => exact { hg with sessions := Table.forall_delete hg.sessions }
  | @retention now stmt =>
    cases stmt with
    | successLogs => exact { hg with scrapeLogs := Table.forall_delete hg.scrapeLogs }
    | failureLogs => exact { hg with scrapeLogs := Table.forall_delete hg.scrapeLogs }
    | screenshots =>
      exact { hg with scrapeLogs := Table.forall_update rfl hg.scrapeLogs fun _ hl => hl }
    | shifts => exact { hg with shifts := Table.forall_delete hg.shifts }
    | sessions => exact { hg with sessions := Table.forall_delete hg.sessions }

end Statements

namespace Server
variable {env : Env} {s s' s₀ s₁ s₂ : Server} {a : Action} {db₀ : DB} {start : Int} {userID : Uuid}
  {key token : String}

theorem gone_step (hdrawn : userID ∈ s.drawn) (hg : s.db.Gone userID) (h : s.step env a = some s') :
    s'.db.Gone userID := by
  refine db_step h (P := fun db => db.Gone userID) hg fun x _ hdone hdraws => hdone.gone hg ?_
  rintro u rfl heq
  exact (hdraws u.id (by simp [Write.draws])).1 (heq ▸ hdrawn)

theorem gone_of_reaches {ok : Server → Action → Bool} (h : Reaches (step env) ok s s')
    (hdrawn : userID ∈ s.drawn) (hg : s.db.Gone userID) : s'.db.Gone userID := by
  have hboth : userID ∈ s'.drawn ∧ s'.db.Gone userID := by
    refine h.invariant (I := fun t => userID ∈ t.drawn ∧ t.db.Gone userID) ⟨hdrawn, hg⟩ ?_
    intro t a t' _ ht ha
    exact ⟨drawn_step ha ht.1, gone_step ht.1 ht.2 ha⟩
  exact hboth.2

theorem deleteUser_of_step (hdel : (s.call env a).deletes = some userID)
    (h : s.step env a = some s') : s'.db = s.db.deleteUser userID ∧ s'.drawn = s.drawn := by
  cases a with
  | run i o =>
    obtain ⟨t, w, t', jobs, ht, hrun, rfl⟩ := step_run h
    simp only [call, ht] at hdel
    cases t with
    | deleteAccount id =>
      simp only [Task.call] at hdel
      split_ifs at hdel with hsql
      cases hdel
      simp only [runTask, deleteAccount, hsql] at hrun
      cases hrun
      exact ⟨rfl, rfl⟩
    | submitShifts key pc =>
      cases pc with
      | count i =>
        simp only [Task.call, SubmitShiftsPc.call] at hdel
        split at hdel <;> cases hdel
      | _ => cases hdel
    | submitFailure key pc => cases pc <;> cases hdel
    | scrape job pc => cases pc <;> cases hdel
    | writeCredentials id pc => cases pc <;> cases hdel
    | _ => cases hdel
  | schedule o =>
    simp only [call] at hdel
    cases hs : s.scheduler with
    | retention now stmts =>
      rw [hs] at hdel
      cases stmts <;> cases hdel
    | _ =>
      rw [hs] at hdel
      cases hdel
  | _ => cases hdel

theorem log_kept {ok : Server → Action → Bool} (h : Reaches (step env) ok s s') {l : ScrapeLog}
    (hl : l ∈ s'.db.scrapeLogs) (hkey : l.scrapeKey = some key) (hdrawn : key ∈ s.drawn) :
    ∃ k ∈ s.db.scrapeLogs, k.scrapeKey = some key ∧ k.userID = l.userID := by
  induction h generalizing l with
  | refl => exact ⟨l, hl, hkey, rfl⟩
  | tail hrun hmove ih =>
    obtain ⟨a, _, ha⟩ := hmove
    refine db_step ha (P := fun db => ∀ l ∈ db.scrapeLogs, l.scrapeKey = some key →
      ∃ k ∈ s.db.scrapeLogs, k.scrapeKey = some key ∧ k.userID = l.userID)
      (fun _ hl hkey => ih hl hkey) ?_ l hl hkey
    intro x _ hdone hdraws l hl hkey
    cases hdone.scrapeLogs hl with
    | inl hold =>
      obtain ⟨l₀, hl₀, rfl⟩ := hold
      rw [Write.edit_scrapeKey] at hkey
      rw [Write.edit_userID]
      exact ih hl₀ hkey
    | inr heq =>
      have hfresh := (hdraws key (by simp [heq, Write.draws, hkey])).1
      exact absurd (drawn_of_reaches hrun hdrawn) hfresh

theorem refuses_of_gone {ok : Server → Action → Bool} (hs : s.Registered)
    (h : Reaches (step env) ok s s') {l : ScrapeLog} (hl : l ∈ s.db.scrapeLogs)
    (huser : l.userID = userID) (hkey : l.scrapeKey = some key) (hg : s'.db.Gone userID) :
    s'.Refuses env key := by
  refine refuses_of_runningLog (DB.runningLog_eq_none ?_)
  intro l' hl' hkey' _
  obtain ⟨k, hk, hkkey, hkuser⟩ := log_kept h hl' hkey' (hs.keys l hl key hkey)
  have hsame : k = l := Table.eq_of_clash hk hl (.inr ⟨hkkey.trans hkey.symm, by simp [hkkey]⟩)
  rw [hsame] at hkuser
  exact hg.scrapeLogs l' hl' (hkuser.symm.trans huser)

/-! Session tokens. -/

/-- The step opens no session of another user with the token. -/
def opensFor (env : Env) (token : String) (userID : Uuid) (s : Server) (a : Action) : Bool :=
  match s.write env a with
  | some (.insertSession r) => r.tokenHash != env.hashToken token || r.userID == userID
  | _ => true

def OwnToken (env : Env) (token : String) (userID : Uuid) (s : Server) : Prop :=
  ∀ r ∈ s.db.sessions, r.tokenHash = env.hashToken token → r.userID = userID

theorem ownToken_step (hok : s.opensFor env token userID a = true) (hs : s.OwnToken env token userID)
    (h : s.step env a = some s') : s'.OwnToken env token userID := by
  refine db_step h
    (P := fun db => ∀ r ∈ db.sessions, r.tokenHash = env.hashToken token → r.userID = userID) hs ?_
  intro x hwr hdone _ r hr hhash
  cases hdone.sessions hr with
  | inl hold => exact hs r hold hhash
  | inr heq => simpa [opensFor, hwr, heq, hhash] using hok

theorem getSessionUser_of_gone (hown : s.OwnToken env token userID) (hg : s.db.Gone userID)
    (o : Outcome) : getSessionUser env o s.toWorld token = none := by
  have hnone : s.db.sessionUser (env.hashToken token) (unix s.now) = none := by
    simp only [DB.sessionUser, List.findSome?_eq_none_iff, ite_eq_right_iff, Bool.and_eq_true,
      beq_iff_eq, decide_eq_true_eq, and_imp]
    intro r hr hhash
    exact absurd (hown r hr hhash) (hg.sessions r hr)
  rw [getSessionUser, hnone, select_none]

theorem deletion_final (h : Reaches (step env) anyStep (boot db₀ start) s) {u : User}
    (hu : u ∈ s.db.users) (hdel : (s.call env a).deletes = some u.id)
    (hstep : s.step env a = some s₁) (hrun : Reaches (step env) anyStep s₁ s₂) :
    s₂.db.Gone u.id ∧
      (∀ s₀, Reaches (step env) anyStep (boot db₀ start) s₀ → Reaches (step env) anyStep s₀ s →
        ∀ l ∈ s₀.db.scrapeLogs, l.userID = u.id → ∀ key, l.scrapeKey = some key → s₂.Refuses env key) ∧
      ∀ token, s.OwnToken env token u.id → Reaches (step env) (opensFor env token u.id) s₁ s₂ →
        ∀ o, getSessionUser env o s₂.toWorld token = none := by
  obtain ⟨hdb, hsame⟩ := deleteUser_of_step hdel hstep
  have hdrawn : u.id ∈ s₁.drawn := by
    rw [hsame]
    exact (registered_of_reaches h).users u hu
  have hgone₁ : s₁.db.Gone u.id := by
    rw [hdb]
    exact DB.gone_deleteUser
  have hgone : s₂.db.Gone u.id := gone_of_reaches hrun hdrawn hgone₁
  refine ⟨hgone, ?_, ?_⟩
  · intro s₀ hs₀ hbefore l hl huser key hkey
    have hall : Reaches (step env) anyStep s₀ s₂ := (hbefore.tail ⟨a, rfl, hstep⟩).trans hrun
    exact refuses_of_gone (registered_of_reaches hs₀) hall hl huser hkey hgone
  · intro token hown hopens o
    have hown₁ : s₁.OwnToken env token u.id := by
      intro r hr
      rw [hdb] at hr
      exact hown r (Table.mem_delete.mp hr).1
    have hown₂ : s₂.OwnToken env token u.id :=
      hopens.invariant hown₁ fun _ _ _ hok hs ha => ownToken_step hok hs ha
    exact getSessionUser_of_gone hown₂ hgone o

def beforeDelete : Server :=
  after (step sampleEnv) anyStep (boot sessionDB 0) (firstPoll ++ launch 0 "log1" "key1" "c1" ++
    [.arrive (.authed "tok" (.writeCredentials (.ok sampleInput))), .arrive (.authed "tok" .deleteAccount)] ++
    statements 1 4 ++ statements 2 1)

def deleted : Server := after (step sampleEnv) anyStep beforeDelete (statements 2 1)

def afterDelete : Server :=
  after (step sampleEnv) (opensFor sampleEnv "tok" "u1") deleted
    (statements 1 1 ++ [.arrive (.getCredentials "key1")] ++ statements 3 1)

theorem deletion_final_mid_save : afterDelete.db.Gone "u1" ∧ afterDelete.Refuses sampleEnv "key1" ∧
    ∀ o, getSessionUser sampleEnv o afterDelete.toWorld "tok" = none := by
  have hbefore : Reaches (step sampleEnv) anyStep (boot sessionDB 0) beforeDelete :=
    reaches_after (by decide +kernel)
  have hafter : Reaches (step sampleEnv) (opensFor sampleEnv "tok" "u1") deleted afterDelete :=
    reaches_after (by decide +kernel)
  have hu : sampleUser ∈ beforeDelete.db.users := by
    rw [Table.mem_def, show beforeDelete.db.users.rows = [sampleUser] by decide +kernel]
    exact List.mem_singleton_self _
  obtain ⟨l, hl, huser, hkey⟩ : ∃ l, beforeDelete.db.runningLog "key1" = some l ∧ l.userID = "u1" ∧
      l.scrapeKey = some "key1" := ⟨_, rfl, by decide +kernel⟩
  have hown : beforeDelete.OwnToken sampleEnv "tok" "u1" := by
    have hall : beforeDelete.db.sessions.rows.all (fun r => r.userID == "u1") = true := by
      decide +kernel
    intro r hr _
    exact beq_iff_eq.mp (List.all_eq_true.mp hall r hr)
  have hdel : (beforeDelete.call sampleEnv (.run 2 {})).deletes = some sampleUser.id := by
    decide +kernel
  have hstep : beforeDelete.step sampleEnv (.run 2 {}) = some deleted := rfl
  obtain ⟨hgone, hkeys, htokens⟩ :=
    deletion_final hbefore hu hdel hstep (hafter.mono fun _ _ _ => rfl)
  exact ⟨hgone, hkeys beforeDelete hbefore .refl l (DB.mem_of_runningLog hl).1 huser "key1" hkey,
    htokens "tok" hown hafter⟩

end Server
end ScheduleSync
