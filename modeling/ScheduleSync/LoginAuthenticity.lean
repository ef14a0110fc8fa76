import ScheduleSync.Separation
import ScheduleSync.Transition

/-! Who may log in. The PIN store keeps one entry for all spellings of an address that
strings.ToLower makes equal, while the mail and the account go by the address as typed.
A login is authentic in the runs where a PIN is only checked for the spelling it was
last requested and mailed for. -/
namespace ScheduleSync

def Logins.newest (toLower : String → String) (v : Logins) (key : String) : Option (String × String) :=
  v.stored.find? fun q => toLower q.1 == key

/-- The pending PIN is that of the newest request under its key, and whoever opened a
session presented a PIN mailed to the address of the account. -/
structure Logins.Authentic (toLower : String → String) (v : Logins) : Prop where
  pending : ∀ key e, v.pins.entries key = some e → ∃ email, v.newest toLower key = some (email, e.pin)
  opened : ∀ p ∈ v.opened, (p.1.email, p.2) ∈ v.mailed

def Task.Cleared (v : Logins) : Task → Prop
  | .verifyPin email pin (.find _) => (email, pin) ∈ v.mailed
  | .verifyPin email pin (.createSession u) => (email, pin) ∈ v.mailed ∧ u.email = email
  | _ => True

/-- While a PIN is pending under the key of `email`, it was requested for exactly this
spelling and its mail has been sent. -/
def World.spelledAsMailed (env : Env) (w : World) (email : String) : Bool :=
  (w.pins.entries (env.toLower email)).isNone ||
    (w.logins.newest env.toLower (env.toLower email)).any fun q =>
      q.1 == email && decide (q ∈ w.trace.pinsMailed)

section Handlers
variable {env : Env} {o : Outcome} {w w' : World} {email : String}

theorem Logins.authentic_store {pin : String} (hv : w.logins.Authentic env.toLower) (now : Int) :
    (World.logins { w with
      pins := w.pins.store env.toLower now email pin
      trace := { w.trace with pinsStored := (email, pin) :: w.trace.pinsStored } }).Authentic
        env.toLower := by
  refine ⟨?_, hv.opened⟩
  intro key e he
  by_cases hkey : key = env.toLower email
  · subst hkey
    have hentry : some (⟨pin, 0, now + pinExpiry⟩ : PinEntry) = some e := by
      simpa [World.logins, PinStore.store] using he
    cases hentry
    exact ⟨email, by simp [Logins.newest, World.logins]⟩
  · have hold : w.logins.pins.entries key = some e := by
      simpa [World.logins, PinStore.store, Function.update_of_ne hkey] using he
    obtain ⟨email', hnew⟩ := hv.pending key e hold
    refine ⟨email', ?_⟩
    have hne : ¬ env.toLower email = key := fun h => hkey h.symm
    simpa [Logins.newest, World.logins, hne] using hnew

theorem findOrCreateUser_email {pc : FindUserPc} {u : User}
    (h : findOrCreateUser o w email pc = some (w', .found u)) : u.email = email := by
  have hread : w.db.userByEmail email = some u → u.email = email :=
    fun hu => beq_iff_eq.mp (Table.queryRow_some hu).2
  cases findOrCreateUser_cases h with
  | known _ hu => exact hread hu
  | reload hsel => exact hread (select_eq_some hsel)

theorem findOrCreateUser_logins {pc : FindUserPc} {r : FindUserResult}
    (h : findOrCreateUser o w email pc = some (w', r)) : w'.logins = w.logins := by
  cases findOrCreateUser_cases h <;> rfl

theorem requestPin_authentic {pc pc' : RequestPinPc}
    (h : requestPin env o w email pc = some (w', pc')) (hv : w.logins.Authentic env.toLower) :
    w'.logins.Authentic env.toLower ∧ ∀ q ∈ w.logins.mailed, q ∈ w'.logins.mailed := by
  have hfound {fpc : FindUserPc} {r : FindUserResult}
      (hfind : findOrCreateUser o w email fpc = some (w', r)) :
      w'.logins.Authentic env.toLower ∧ ∀ q ∈ w.logins.mailed, q ∈ w'.logins.mailed := by
    rw [findOrCreateUser_logins hfind]
    exact ⟨hv, fun _ hq => hq⟩
  cases requestPin_cases h with
  | store => exact ⟨Logins.authentic_store hv w.now, fun _ hq => hq⟩
  | find hfind => exact hfound hfind
  | found hfind => exact hfound hfind
  | notFound hfind => exact hfound hfind
  | mail =>
    exact ⟨⟨hv.pending, fun p hp => List.mem_cons_of_mem _ (hv.opened p hp)⟩,
      fun _ hq => List.mem_cons_of_mem _ hq⟩
  | _ => exact ⟨hv, fun _ hq => hq⟩

theorem mem_mailed_of_verify {pin : String} (hok : w.spelledAsMailed env email = true)
    (hv : w.logins.Authentic env.toLower)
    (hverify : (w.pins.verify env.toLower w.now email pin).2 = none) :
    (email, pin) ∈ w.logins.mailed := by
  obtain ⟨e, he, hpin⟩ := w.pins.verify_success env.toLower hverify
  obtain ⟨email', hnew⟩ := hv.pending _ e he
  have hcond : email' = email ∧ (email', e.pin) ∈ w.trace.pinsMailed := by
    simpa [World.spelledAsMailed, he, hnew] using hok
  rw [← hcond.1, ← hpin]
  exact hcond.2

theorem verifyPin_authentic {pin : String} {pc pc' : VerifyPinPc}
    (h : verifyPin env o w email pin pc = some (w', pc'))
    (hok : pc = .verify → w.spelledAsMailed env email = true)
    (hv : w.logins.Authentic env.toLower) (ht : (Task.verifyPin email pin pc).Cleared w.logins) :
    w'.logins.Authentic env.toLower ∧ w'.logins.mailed = w.logins.mailed ∧
      (Task.verifyPin email pin pc').Cleared w'.logins := by
  have hpins {pins : PinStore} {err : Option PinError}
      (hverify : w.pins.verify env.toLower w.now email pin = (pins, err)) :
      (World.logins { w with pins := pins }).Authentic env.toLower := by
    refine ⟨?_, hv.opened⟩
    intro key e' he'
    have hentries : (w.pins.verify env.toLower w.now email pin).1.entries key = some e' := by
      rw [hverify]
      exact he'
    obtain ⟨e, he, hpin⟩ := w.pins.verify_entries env.toLower hentries
    rw [← hpin]
    exact hv.pending key e he
  cases verifyPin_cases h with
  | invalid => exact ⟨hv, rfl, trivial⟩
  | refused _ hverify => exact ⟨hpins hverify, rfl, trivial⟩
  | verify _ hverify =>
    have hmailed : (email, pin) ∈ w.logins.mailed :=
      mem_mailed_of_verify (hok rfl) hv (by rw [hverify])
    exact ⟨hpins hverify, rfl, hmailed⟩
  | find hfind =>
    rw [findOrCreateUser_logins hfind]
    exact ⟨hv, rfl, ht⟩
  | found hfind =>
    rw [findOrCreateUser_logins hfind]
    exact ⟨hv, rfl, ht, findOrCreateUser_email hfind⟩
  | notFound hfind =>
    rw [findOrCreateUser_logins hfind]
    exact ⟨hv, rfl, trivial⟩
  | sessionFailed => exact ⟨hv, rfl, trivial⟩
  | createSession =>
    refine ⟨⟨hv.pending, ?_⟩, rfl, trivial⟩
    intro p hp
    cases List.mem_cons.mp hp with
    | inl hp =>
      subst hp
      have hmailed := ht.1
      rw [← ht.2] at hmailed
      exact hmailed
    | inr hp => exact hv.opened p hp

theorem Task.Cleared.mono {v v' : Logins} {t : Task} (hmailed : ∀ q ∈ v.mailed, q ∈ v'.mailed)
    (h : t.Cleared v) : t.Cleared v' := by
  cases t with
  | verifyPin email pin pc =>
    cases pc with
    | find fpc => exact hmailed _ h
    | createSession u => exact ⟨hmailed _ h.1, h.2⟩
    | _ => trivial
  | _ => trivial

end Handlers

namespace Server
variable {env : Env} {s s' : Server} {a : Action} {db : DB} {now : Int}

/-- A PIN is checked for the spelling it was last requested and mailed for. -/
def checksAsMailed (env : Env) (s : Server) : Action → Bool
  | .run i _ =>
    match s.tasks[i]? with
    | some (.verifyPin email _ .verify) => s.spelledAsMailed env email
    | _ => true
  | _ => true

/-- A session for an account was opened with a PIN mailed to exactly its address. -/
def LoginsAuthentic (s : Server) : Prop :=
  ∀ p ∈ s.trace.sessionsOpened, (p.1.email, p.2) ∈ s.trace.pinsMailed

structure Screened (env : Env) (s : Server) : Prop where
  logins : s.logins.Authentic env.toLower
  cleared : ∀ t ∈ s.tasks, t.Cleared s.logins

theorem screened_boot : (boot db now).Screened env := by
  refine ⟨⟨?_, ?_⟩, ?_⟩
  · intro key e he
    cases he
  · intro p hp
    cases hp
  · intro t ht
    cases ht

theorem cleared_scrapes {v : Logins} (jobs : List ScrapeJob) :
    ∀ t ∈ jobs.map ScrapeJob.task, t.Cleared v :=
  List.forall_mem_map.mpr fun _ _ => trivial

theorem screened_run {i : Nat} {o : Outcome} (hok : s.checksAsMailed env (.run i o) = true)
    (hs : s.Screened env) (h : s.step env (.run i o) = some s') : s'.Screened env := by
  obtain ⟨t, w, t', jobs, ht, hrun, rfl⟩ := step_run h
  have htask := hs.cleared t (mem_of_getElem?_pool ht)
  have hfinish : w.logins.Authentic env.toLower →
      (∀ q ∈ s.logins.mailed, q ∈ w.logins.mailed) → t'.Cleared w.logins →
      (Server.mk w s.scheduler (pooled s.tasks i t' (jobs.map ScrapeJob.task))).Screened env := by
    intro hv hmailed ht'
    refine ⟨hv, forall_pooled ?_ ht' (cleared_scrapes jobs)⟩
    exact fun u hu => (hs.cleared u hu).mono hmailed
  by_cases hreq : ∃ email pc, t = .requestPin email pc
  · obtain ⟨email, pc, rfl⟩ := hreq
    obtain ⟨⟨w₁, pc'⟩, hr, heq⟩ := Option.map_eq_some_iff.mp hrun
    cases heq
    obtain ⟨hv, hmailed⟩ := requestPin_authentic hr hs.logins
    exact hfinish hv hmailed trivial
  · by_cases hver : ∃ email pin pc, t = .verifyPin email pin pc
    · obtain ⟨email, pin, pc, rfl⟩ := hver
      obtain ⟨⟨w₁, pc'⟩, hr, heq⟩ := Option.map_eq_some_iff.mp hrun
      cases heq
      have hcond : pc = .verify → s.spelledAsMailed env email = true := by
        intro hpc
        subst hpc
        simpa only [checksAsMailed, ht] using hok
      obtain ⟨hv, hmailed, ht'⟩ := verifyPin_authentic hr hcond hs.logins htask
      exact hfinish hv (fun q hq => hmailed ▸ hq) ht'
    · have hlogins : w.logins = s.logins :=
        runTask_logins hrun (fun email pc heq => hreq ⟨email, pc, heq⟩)
          fun email pin pc heq => hver ⟨email, pin, pc, heq⟩
      rw [hlogins] at hfinish
      refine hfinish hs.logins (fun _ hq => hq) ?_
      cases runTask_cases hrun with
      | verifyPin => exact absurd ⟨_, _, _, rfl⟩ hver
      | begun hb =>
        cases AuthedRequest.begin_cases hb <;> trivial
      | _ => trivial

theorem screened_step (hok : s.checksAsMailed env a = true) (hs : s.Screened env)
    (h : s.step env a = some s') : s'.Screened env := by
  cases a with
  | run i o => exact screened_run hok hs h
  | schedule o =>
    obtain ⟨w, sch, jobs, hrun, rfl⟩ := step_schedule h
    have hlogins : w.logins = s.logins := (runScheduler_apart hrun).logins
    refine ⟨?_, ?_⟩
    · have hv := hs.logins
      rw [← hlogins] at hv
      exact hv
    · intro t ht
      have hclear : t.Cleared s.logins := by
        cases List.mem_append.mp ht with
        | inl hold => exact hs.cleared t hold
        | inr hnew => exact cleared_scrapes jobs t hnew
      rw [← hlogins] at hclear
      exact hclear
  | arrive r =>
    cases h
    refine ⟨hs.logins, ?_⟩
    intro t ht
    cases List.mem_append.mp ht with
    | inl hold => exact hs.cleared t hold
    | inr hnew =>
      rw [List.mem_singleton.mp hnew]
      cases r <;> trivial
  | cleanupPins =>
    cases h
    refine ⟨⟨?_, hs.logins.opened⟩, hs.cleared⟩
    intro key e he
    exact hs.logins.pending key e (s.pins.cleanup_entries he)
  | _ =>
    cases h
    exact ⟨hs.logins, hs.cleared⟩

theorem logins_authentic (h : Reaches (step env) (checksAsMailed env) (boot db now) s) :
    s.LoginsAuthentic :=
  have hscreened : s.Screened env :=
    h.invariant screened_boot fun _ _ _ hok hs ha => screened_step hok hs ha
  hscreened.logins.opened

def loginAs (requested presented : String) : List Action :=
  .arrive (.requestPin requested) :: List.replicate 2 (.run 0 {}) ++
    (if requested = sampleUser.email then [] else [.run 0 { uuid := "u2", token := "ics2" }, .run 0 {}]) ++
    [.run 0 {}, .arrive (.verifyPin presented "000000"), .run 1 {}, .run 1 {},
      .run 1 { uuid := "s2", token := "tok2" }]

theorem logins_authentic_same_spelling :
    LoginsAuthentic (after (step sampleEnv) (checksAsMailed sampleEnv) (boot sampleDB 0)
      (loginAs "a@x.com" "a@x.com")) :=
  logins_authentic (reaches_after (by decide +kernel))

/-- The PIN mailed to A@x.com opens a session for the account of a@x.com. -/
theorem logged_in_by_other_spelling :
    ∃ s, Reaches (step sampleEnv) anyStep (boot sampleDB 0) s ∧ ¬ s.LoginsAuthentic := by
  refine ⟨after (step sampleEnv) anyStep (boot sampleDB 0) (loginAs "A@x.com" "a@x.com"),
    reaches_after (by decide +kernel), ?_⟩
  have hopened : (sampleUser, "000000") ∈ (after (step sampleEnv) anyStep (boot sampleDB 0)
      (loginAs "A@x.com" "a@x.com")).trace.sessionsOpened := by decide +kernel
  have hmailed : ("a@x.com", "000000") ∉ (after (step sampleEnv) anyStep (boot sampleDB 0)
      (loginAs "A@x.com" "a@x.com")).trace.pinsMailed := by decide +kernel
  exact fun hauth => hmailed (hauth _ hopened)

end Server
end ScheduleSync
