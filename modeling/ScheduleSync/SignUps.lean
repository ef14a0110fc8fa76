import ScheduleSync.Quiescence
import ScheduleSync.Writes

/-! Accounts made by several logins at once. FindOrCreateUser selects, inserts and selects
again, and other calls may insert in between; all calls for one address still come back with
one account, because an INSERT that loses the race leaves the winner's row to be found. -/
namespace ScheduleSync

def Task.finding : Task → Option (String × FindUserPc)
  | .requestPin email (.find _ pc) => some (email, pc)
  | .verifyPin email _ (.find pc) => some (email, pc)
  | _ => none

def Task.findsLeft : Task → Nat
  | .requestPin _ .store => 3
  | .requestPin _ (.find _ pc) => pc.remaining
  | .verifyPin _ _ .verify => 3
  | .verifyPin _ _ (.find pc) => pc.remaining
  | _ => 0

def FindUserResult.next : FindUserResult → Option FindUserPc
  | .more pc => some pc
  | _ => none

def DB.HasAccount (db : DB) (email : String) (u : User) : Prop :=
  ∃ row ∈ db.users, row.id = u.id ∧ row.email = email ∧ row.icsToken = u.icsToken

section Statement
variable {env : Env} {o : Outcome} {w w' : World} {t t' : Task} {jobs : List ScrapeJob} {email : String}
  {pc : FindUserPc} {r : FindUserResult}

theorem findsLeft_le (t : Task) : t.findsLeft ≤ 3 := by
  have hpc : ∀ pc : FindUserPc, pc.remaining ≤ 3 := by
    intro pc
    cases pc <;> decide
  unfold Task.findsLeft
  split <;> first | exact hpc _ | decide

theorem FindUserStep.left (h : FindUserStep o w email w' pc r) :
    (r.next.map FindUserPc.remaining).getD 0 < pc.remaining := by
  cases h <;> simp [FindUserResult.next, FindUserPc.remaining]

theorem email_of_refused {u : User} (h : w.db.insertUser u = none) (hid : ∀ x ∈ w.db.users, x.id ≠ u.id)
    (htoken : ∀ x ∈ w.db.users, x.icsToken ≠ u.icsToken) : ∃ x ∈ w.db.users, x.email = u.email := by
  obtain ⟨x, hx, hclash⟩ := Table.insert_eq_none (Option.map_eq_none_iff.mp h)
  rcases hclash with heq | heq | heq
  · exact absurd heq (hid x hx)
  · exact ⟨x, hx, heq⟩
  · exact absurd heq (htoken x hx)

theorem findOrCreateUser_free (h : findOrCreateUser o w email pc = some (w', r)) (hsql : o.sqlFails = false)
    (hinsert : pc = .insert → o.randFails = false ∧ ∀ u ∈ w.db.users, u.icsToken ≠ o.token)
    (hids : ∀ u ∈ w.db.users, u.id ∈ w.drawn)
    (hreload : pc = .reload → ∃ u ∈ w.db.users, u.email = email) :
    r ≠ .failed ∧ (∀ u, r = .found u → w'.db.HasAccount email u) ∧
      (r = .more .reload → ∃ u ∈ w'.db.users, u.email = email) := by
  have hfound : ∀ {u}, w.db.userByEmail email = some u → w.db.HasAccount email u := by
    intro u hu
    obtain ⟨hmem, hemail⟩ := Table.queryRow_some hu
    exact ⟨u, hmem, rfl, beq_iff_eq.mp hemail, rfl⟩
  cases findOrCreateUser_cases h with
  | selectFailed hfails => exact absurd hsql (by simp [hfails])
  | noToken hrand => exact absurd (hinsert rfl).1 (by simp [hrand])
  | known _ hu =>
    refine ⟨by simp, fun u' heq => ?_, by simp⟩
    cases heq
    exact hfound hu
  | unknown => exact ⟨by simp, by simp, by simp⟩
  | insertFailed _ hid hexec =>
    refine ⟨by simp, by simp, fun _ => ?_⟩
    rw [exec_executed hsql] at hexec
    refine email_of_refused hexec (fun x hx heq => ?_) (hinsert rfl).2
    have hdrawn := hids x hx
    rw [heq] at hdrawn
    exact hid hdrawn
  | inserted _ _ hexec =>
    refine ⟨by simp, by simp, fun _ => ?_⟩
    obtain ⟨t, ht, rfl⟩ := Option.map_eq_some_iff.mp (exec_eq_some hexec)
    exact ⟨_, (Table.mem_of_insert ht).mpr (.inr rfl), rfl⟩
  | reload hsel =>
    refine ⟨by simp, fun u' heq => ?_, by simp⟩
    cases heq
    rw [select_executed hsql] at hsel
    exact hfound hsel
  | reloadFailed hsel =>
    obtain ⟨u, hu, hemail⟩ := hreload rfl
    rw [select_executed hsql] at hsel
    have hnone := Table.queryRow_none hsel u hu
    exact absurd hemail (by simpa using hnone)

theorem finding_step (h : runTask env o w t = some (w', t', jobs)) :
    (∃ email pc r, t.finding = some (email, pc) ∧ findOrCreateUser o w email pc = some (w', r) ∧
      t'.finding = r.next.map (Prod.mk email) ∧ t'.findsLeft = (r.next.map FindUserPc.remaining).getD 0 ∧
      t.findsLeft = pc.remaining) ∨
    t.finding = none ∧ (∀ email, t'.finding ≠ some (email, .reload)) ∧ t'.findsLeft ≤ t.findsLeft := by
  have hother : ∀ u : Task, u.finding = none → u.findsLeft = 0 → (∀ email, u.finding ≠ some (email, .reload)) ∧
      u.findsLeft ≤ t.findsLeft := by
    intro u hnone hzero
    rw [hnone, hzero]
    exact ⟨fun _ => (Option.some_ne_none _).symm, Nat.zero_le _⟩
  cases runTask_cases h with
  | requestPin hr =>
    cases requestPin_cases hr with
    | store => exact .inr ⟨rfl, by simp [Task.finding], le_rfl⟩
    | find hfind | found hfind | notFound hfind => exact .inl ⟨_, _, _, rfl, hfind, rfl, rfl, rfl⟩
    | _ => exact .inr ⟨rfl, hother _ rfl rfl⟩
  | verifyPin hr =>
    cases verifyPin_cases hr with
    | verify => exact .inr ⟨rfl, by simp [Task.finding], le_rfl⟩
    | find hfind | found hfind | notFound hfind => exact .inl ⟨_, _, _, rfl, hfind, rfl, rfl, rfl⟩
    | _ => exact .inr ⟨rfl, hother _ rfl rfl⟩
  | begun hb =>
    cases AuthedRequest.begin_cases hb <;> exact .inr ⟨rfl, hother _ rfl rfl⟩
  | _ => exact .inr ⟨rfl, hother _ rfl rfl⟩

end Statement

structure FindStatement where
  task : Nat
  email : String
  result : FindUserResult

namespace Server
variable {env : Env} {s s' : Server} {a : Action} {o : Outcome} {db : DB} {start : Int}
  {record : List FindStatement} {i : Nat}

def findStatement (s : Server) : Action → Option FindStatement
  | .run i o =>
    s.tasks[i]?.bind fun t => t.finding.bind fun call =>
      (findOrCreateUser o s.toWorld call.1 call.2).map fun r => ⟨i, call.1, r.2⟩
  | _ => none

/-- No account is deleted, and FindOrCreateUser fails by UNIQUE(email) only: its statements
are executed, and it draws a token that no account has. -/
def createsFreely (s : Server) : Action → Bool
  | .run i o =>
    match s.tasks[i]? with
    | some (.deleteAccount _) => o.sqlFails
    | some t => t.finding.all fun call =>
      !o.sqlFails && (call.2 != .insert ||
        !o.randFails && s.db.users.rows.all fun u => u.icsToken != o.token)
    | none => true
  | _ => true

/-- Calls of FindOrCreateUser converge: they succeed, for one address with one account, which is
the only one of that address; each call has at most three statements and is never stuck. -/
structure Converges (env : Env) (s : Server) (record : List FindStatement) : Prop where
  succeeds : ∀ e ∈ record, e.result ≠ .failed
  agrees : ∀ e ∈ record, ∀ e' ∈ record, e.email = e'.email → ∀ u u', e.result = .found u →
    e'.result = .found u' → u.id = u'.id ∧ u.icsToken = u'.icsToken
  stored : ∀ e ∈ record, ∀ u, e.result = .found u →
    ∃ row, s.db.users.rows.filter (fun r => r.email == e.email) = [row] ∧ row.id = u.id ∧
      row.icsToken = u.icsToken
  bounded : ∀ i, record.countP (fun e => e.task == i) ≤ 3
  proceeds : ∀ i t call o, s.tasks[i]? = some t → t.finding = some call → o.uuid ∉ s.drawn →
    (s.step env (.run i o)).isSome = true

structure Converging (s : Server) (record : List FindStatement) : Prop where
  registered : s.Registered
  succeeded : ∀ e ∈ record, e.result ≠ .failed
  stored : ∀ e ∈ record, ∀ u, e.result = .found u → s.db.HasAccount e.email u
  -- whoever selects again after the INSERT finds a row, its own or that of another call
  reloading : ∀ t ∈ s.tasks, ∀ email, t.finding = some (email, .reload) → ∃ u ∈ s.db.users, u.email = email
  counted : ∀ i, record.countP (fun e => e.task == i) + (s.tasks[i]?.map Task.findsLeft).getD 3 ≤ 3

theorem user_kept (hok : s.createsFreely a = true) (h : s.step env a = some s') {u : User}
    (hu : u ∈ s.db.users) :
    ∃ u' ∈ s'.db.users, u'.id = u.id ∧ u'.email = u.email ∧ u'.icsToken = u.icsToken := by
  refine db_step_executed h (P := fun db =>
    ∃ u' ∈ db.users, u'.id = u.id ∧ u'.email = u.email ∧ u'.icsToken = u.icsToken) ⟨u, hu, rfl, rfl, rfl⟩ ?_
  intro hexecuted x hwr hdone _
  refine hdone.user_kept (fun uid heq => ?_) hu
  subst heq
  obtain ⟨i, o, t, rfl, ht, hx⟩ | ⟨o, rfl, hx⟩ := write_cases hwr
  · cases hx
    simp only [createsFreely, ht] at hok
    rw [show fails (.run i o) = o.sqlFails from rfl, hok] at hexecuted
    cases hexecuted
  · generalize s.scheduler = sch at hx
    cases hx

theorem stored_kept (hok : s.createsFreely a = true) (h : s.step env a = some s') {email : String}
    {u : User} (hu : s.db.HasAccount email u) : s'.db.HasAccount email u := by
  obtain ⟨row, hrow, hid, hemail, htoken⟩ := hu
  obtain ⟨row', hrow', hid', hemail', htoken'⟩ := user_kept hok h hrow
  exact ⟨row', hrow', hid'.trans hid, hemail'.trans hemail, htoken'.trans htoken⟩

theorem findsLeft_arrived (ts us : List Task) (i : Nat) :
    (((ts ++ us)[i]?).map Task.findsLeft).getD 3 ≤ ((ts[i]?).map Task.findsLeft).getD 3 := by
  rw [List.getElem?_append]
  split_ifs with hlt
  · exact le_rfl
  · rw [List.getElem?_eq_none (Nat.le_of_not_lt hlt), Option.map_none, Option.getD_none]
    cases us[i - ts.length]? with
    | none => exact le_rfl
    | some u => exact findsLeft_le u

theorem finding_of_job (job : ScrapeJob) : job.task.finding = none := rfl

theorem finding_of_request (r : Request) : r.task.finding = none := by cases r <;> rfl

theorem converging_of_append {us : List Task} (hs : s.Converging record)
    (hok : s.createsFreely a = true) (h : s.step env a = some s') (htasks : s'.tasks = s.tasks ++ us)
    (hus : ∀ t ∈ us, t.finding = none) : s'.Converging record where
  registered := registered_step hs.registered h
  succeeded := hs.succeeded
  stored e he u hu := stored_kept hok h (hs.stored e he u hu)
  reloading t ht email hfinding := by
    rw [htasks, List.mem_append] at ht
    rcases ht with hold | hnew
    · obtain ⟨u, hu, hemail⟩ := hs.reloading t hold email hfinding
      obtain ⟨u', hu', _, hemail', _⟩ := user_kept hok h hu
      exact ⟨u', hu', hemail'.trans hemail⟩
    · rw [hus t hnew] at hfinding
      cases hfinding
  counted i := by
    rw [htasks]
    have hleft := findsLeft_arrived s.tasks us i
    have hcounted := hs.counted i
    omega

theorem free_of_finding {t : Task} {email : String} {pc : FindUserPc}
    (hok : s.createsFreely (.run i o) = true) (ht : s.tasks[i]? = some t)
    (hfinding : t.finding = some (email, pc)) : o.sqlFails = false ∧
      (pc = .insert → o.randFails = false ∧ ∀ u ∈ s.db.users, u.icsToken ≠ o.token) := by
  have hcall : t.finding.all (fun call => !o.sqlFails && (call.2 != .insert ||
      !o.randFails && s.db.users.rows.all fun u => u.icsToken != o.token)) = true := by
    cases t with
    | requestPin | verifyPin => simpa only [createsFreely, ht] using hok
    | _ => cases hfinding
  rw [hfinding, Option.all_some, Bool.and_eq_true] at hcall
  refine ⟨by simpa using hcall.1, ?_⟩
  rintro rfl
  simpa [Table.mem_def] using hcall.2

theorem reloading_run {t' : Task} {jobs : List ScrapeJob} (hs : s.Converging record)
    (hok : s.createsFreely (.run i o) = true) (h : s.step env (.run i o) = some s')
    (htasks : s'.tasks = pooled s.tasks i t' (jobs.map ScrapeJob.task))
    (hnext : ∀ email, t'.finding = some (email, .reload) → ∃ x ∈ s'.db.users, x.email = email) :
    ∀ u ∈ s'.tasks, ∀ email, u.finding = some (email, .reload) → ∃ x ∈ s'.db.users, x.email = email := by
  rw [htasks]
  refine forall_pooled (fun u hu email hfinding => ?_) hnext fun u hu email hfinding => ?_
  · obtain ⟨x, hx, hemail⟩ := hs.reloading u hu email hfinding
    obtain ⟨x', hx', _, hemail', _⟩ := user_kept hok h hx
    exact ⟨x', hx', hemail'.trans hemail⟩
  · obtain ⟨job, _, rfl⟩ := List.mem_map.mp hu
    rw [finding_of_job] at hfinding
    cases hfinding

theorem findsLeft_pooled {ts : List Task} {t : Task} (ht : ts[i]? = some t) (t' : Task) (us : List Task) (j : Nat) :
    ((pooled ts i t' us)[j]?.map Task.findsLeft).getD 3 ≤
      if j = i then t'.findsLeft else (ts[j]?.map Task.findsLeft).getD 3 := by
  obtain ⟨hlt, _⟩ := List.getElem?_eq_some_iff.mp ht
  refine (findsLeft_arrived _ _ j).trans ?_
  split_ifs with hj
  · subst hj
    rw [List.getElem?_set_self hlt]
    exact le_rfl
  · rw [List.getElem?_set_ne (Ne.symm hj)]

theorem converging_run (hs : s.Converging record) (hok : s.createsFreely (.run i o) = true)
    (h : s.step env (.run i o) = some s') :
    s'.Converging ((findStatement s (.run i o)).toList ++ record) := by
  obtain ⟨t, w, t', jobs, ht, hrun, rfl⟩ := step_run h
  have hstored : ∀ e ∈ record, ∀ u, e.result = .found u → w.db.HasAccount e.email u :=
    fun e he u hu => stored_kept hok h (hs.stored e he u hu)
  have hleft := findsLeft_pooled ht t' (jobs.map ScrapeJob.task)
  have hmine := hs.counted i
  rw [ht, Option.map_some, Option.getD_some] at hmine
  rcases finding_step hrun with ⟨email, pc, r, hfinding, hfind, hfinding', hleft', hpc⟩ |
    ⟨hnone, hreload, hle⟩
  · have hevent : findStatement s (.run i o) = some ⟨i, email, r⟩ := by
      simp [findStatement, ht, hfinding, hfind]
    have hfree := free_of_finding hok ht hfinding
    obtain ⟨hsucceeds, hfound, hmore⟩ := findOrCreateUser_free hfind hfree.1 hfree.2 hs.registered.users
      (by rintro rfl; exact hs.reloading t (List.mem_of_getElem? ht) email hfinding)
    have hdecreases := (findOrCreateUser_cases hfind).left
    rw [hevent, Option.toList_some, List.singleton_append]
    refine ⟨registered_step hs.registered h, ?_, ?_, ?_, ?_⟩
    · exact List.forall_mem_cons.mpr ⟨hsucceeds, hs.succeeded⟩
    · exact List.forall_mem_cons.mpr ⟨hfound, hstored⟩
    · refine reloading_run hs hok h rfl fun email' hreload => ?_
      rw [hfinding'] at hreload
      obtain ⟨pc', hpc', heq⟩ := Option.map_eq_some_iff.mp hreload
      obtain ⟨rfl, rfl⟩ := Prod.mk.inj heq
      refine hmore ?_
      cases r with
      | more pc' => exact congrArg _ (Option.some.inj hpc')
      | found u => cases hpc'
      | failed => cases hpc'
    · intro j
      have hj := hleft j
      have hcounted := hs.counted j
      rw [List.countP_cons]
      by_cases hji : j = i
      · subst hji
        rw [if_pos rfl] at hj
        rw [if_pos (beq_self_eq_true _)]
        dsimp only
        omega
      · rw [if_neg hji] at hj
        rw [if_neg (by simpa using Ne.symm hji)]
        dsimp only
        omega
  · have hevent : findStatement s (.run i o) = none := by simp [findStatement, ht, hnone]
    rw [hevent, Option.toList_none, List.nil_append]
    refine ⟨registered_step hs.registered h, hs.succeeded, hstored, ?_, ?_⟩
    · exact reloading_run hs hok h rfl fun email hfinding => absurd hfinding (hreload email)
    · intro j
      have hj := hleft j
      have hcounted := hs.counted j
      dsimp only
      split_ifs at hj with hji
      · subst hji
        omega
      · omega

theorem converging_step (hs : s.Converging record) (hok : s.createsFreely a = true)
    (h : s.step env a = some s') : s'.Converging ((s.findStatement a).toList ++ record) := by
  cases a with
  | run i o => exact converging_run hs hok h
  | schedule o =>
    obtain ⟨w, sch, jobs, _, heq⟩ := step_schedule h
    refine converging_of_append hs hok h (by rw [heq]) fun t ht => ?_
    obtain ⟨job, _, rfl⟩ := List.mem_map.mp ht
    exact finding_of_job job
  | arrive r =>
    have htasks : s'.tasks = s.tasks ++ [r.task] := by rw [← Option.some.inj h]
    refine converging_of_append hs hok h htasks fun t ht => ?_
    rw [List.mem_singleton.mp ht]
    exact finding_of_request r
  | _ =>
    have htasks : s'.tasks = s.tasks ++ [] := by rw [← Option.some.inj h, List.append_nil]
    exact converging_of_append hs hok h htasks fun t ht => absurd ht List.not_mem_nil

theorem converging_boot : (boot db start).Converging [] where
  registered := registered_boot
  succeeded _ he := absurd he List.not_mem_nil
  stored _ he := absurd he List.not_mem_nil
  reloading _ ht := absurd ht List.not_mem_nil
  counted _ := le_rfl

theorem filter_of_hasAccount {email : String} {u : User} (h : db.HasAccount email u) :
    ∃ row, db.users.rows.filter (fun r => r.email == email) = [row] ∧ row.id = u.id ∧
      row.icsToken = u.icsToken := by
  obtain ⟨row, hrow, hid, hemail, htoken⟩ := h
  refine ⟨row, ?_, hid, htoken⟩
  have hnodup : (db.users.rows.filter fun r => r.email == email).Nodup :=
    (db.users.nodup_rows fun _ => .inl rfl).filter _
  refine (List.perm_singleton.mp ((List.perm_ext_iff_of_nodup hnodup (List.nodup_singleton row)).mpr ?_))
  intro r
  rw [List.mem_filter, List.mem_singleton, beq_iff_eq]
  constructor
  · rintro ⟨hr, hsame⟩
    exact Table.eq_of_clash hr hrow (.inr (.inl (hsame.trans hemail.symm)))
  · rintro rfl
    exact ⟨hrow, hemail⟩

theorem find_proceeds {t : Task} {call : String × FindUserPc} (ht : s.tasks[i]? = some t)
    (hfinding : t.finding = some call) (hid : o.uuid ∉ s.drawn) :
    (s.step env (.run i o)).isSome = true := by
  have hfind : ∀ email pc, (findOrCreateUser o s.toWorld email pc).isSome = true := by
    intro email pc
    cases pc with
    | select =>
      simp only [findOrCreateUser]
      split
      · rfl
      · split <;> rfl
    | insert =>
      simp only [findOrCreateUser, if_neg hid]
      split
      · rfl
      · split <;> rfl
    | reload =>
      simp only [findOrCreateUser]
      split <;> rfl
  have hrun : (runTask env o s.toWorld t).isSome = true := by
    cases t with
    | requestPin email pc =>
      cases pc with
      | find pin pc =>
        obtain ⟨⟨w, r⟩, hr⟩ := Option.isSome_iff_exists.mp (hfind email pc)
        cases r <;> simp [runTask, requestPin, hr]
      | _ => cases hfinding
    | verifyPin email pin pc =>
      cases pc with
      | find pc =>
        obtain ⟨⟨w, r⟩, hr⟩ := Option.isSome_iff_exists.mp (hfind email pc)
        cases r <;> simp [runTask, verifyPin, hr]
      | _ => cases hfinding
    | _ => cases hfinding
  obtain ⟨⟨w, t', jobs⟩, hr⟩ := Option.isSome_iff_exists.mp hrun
  simp [step, ht, hr]

/-- All calls of FindOrCreateUser for one address come to one account. -/
theorem find_or_create_converges
    (h : Reaches (recorded (step env) findStatement) (fun p => p.1.createsFreely)
      (boot db start, []) (s, record)) : Converges env s record := by
  have hs : s.Converging record :=
    h.invariant_recorded (I := Converging) converging_boot
      fun _ _ _ _ hok hs hstep => converging_step hs hok hstep
  refine ⟨hs.succeeded, ?_, fun e he u hu => filter_of_hasAccount (hs.stored e he u hu), ?_, ?_⟩
  · intro e he e' he' hemail u u' hu hu'
    obtain ⟨row, hrow, hid, hemail₁, htoken⟩ := hs.stored e he u hu
    obtain ⟨row', hrow', hid', hemail₂, htoken'⟩ := hs.stored e' he' u' hu'
    obtain rfl : row = row' :=
      Table.eq_of_clash hrow hrow' (.inr (.inl (hemail₁.trans (hemail.trans hemail₂.symm))))
    exact ⟨hid.symm.trans hid', htoken.symm.trans htoken'⟩
  · exact fun j => (Nat.le_add_right _ _).trans (hs.counted j)
  · exact fun j t call o ht hfinding hid => find_proceeds ht hfinding hid

def crossedSignUps : List Action :=
  [.arrive (.requestPin "b@x.com"), .arrive (.requestPin "b@x.com")] ++ statements 0 2 ++ statements 1 2 ++
    [.run 1 { uuid := "u3", token := "ics3" }, .run 0 { uuid := "u2", token := "ics2" }, .run 0 {}, .run 1 {}]

def signedUpTwice : Server × List FindStatement :=
  after (recorded (step sampleEnv) findStatement) (fun p => p.1.createsFreely) (boot sampleDB 0, [])
    crossedSignUps

theorem find_or_create_converges_crossed :
    Converges sampleEnv signedUpTwice.1 signedUpTwice.2 ∧
      signedUpTwice.2.map FindStatement.task = [1, 0, 0, 1, 1, 0] := by
  have hrun : Reaches (recorded (step sampleEnv) findStatement) (fun p => p.1.createsFreely)
      (boot sampleDB 0, []) (signedUpTwice.1, signedUpTwice.2) :=
    reaches_recorded_after (by decide +kernel)
  exact ⟨find_or_create_converges hrun, by decide +kernel⟩

end Server
end ScheduleSync
