import ScheduleSync.LoginAuthenticity
import ScheduleSync.Writes

/-! Login identities. The PIN store keys its entries by the lower-cased address, the users
table by the address as it was typed, so two spellings of one address share a PIN. They share
an account as well in the runs where each address only ever comes in one spelling. -/
namespace ScheduleSync

/-- Addresses that differ only in case are of one account. -/
def DB.OneAccount (env : Env) (db : DB) : Prop :=
  ∀ u ∈ db.users, ∀ u' ∈ db.users, env.toLower u.email = env.toLower u'.email → u = u'

def Env.Spelled (env : Env) (spelling : String → String) (email : String) : Prop :=
  email = spelling (env.toLower email)

/-- What is known of the address of a login: the validator looks at it before the PIN store does. -/
def Task.Spelled (env : Env) (spelling : String → String) : Task → Prop
  | .requestPin email .store => env.emailValid email = true → env.Spelled spelling email
  | .requestPin email (.find _ _) => env.Spelled spelling email
  | .verifyPin email _ .verify => env.emailValid email = true → env.Spelled spelling email
  | .verifyPin email _ (.find _) => env.Spelled spelling email
  | _ => True

section Handlers
variable {env : Env} {o : Outcome} {w w' : World} {t t' : Task} {jobs : List ScrapeJob}
  {spelling : String → String}

theorem spelled_run (h : runTask env o w t = some (w', t', jobs)) (ht : t.Spelled env spelling) :
    t'.Spelled env spelling := by
  cases runTask_cases h with
  | requestPin hr =>
    cases requestPin_cases hr with
    | store hvalid => exact ht hvalid
    | find => exact ht
    | _ => trivial
  | verifyPin hr =>
    cases verifyPin_cases hr with
    | verify hvalid =>
      simp only [Bool.or_eq_false_iff, Bool.not_eq_false'] at hvalid
      exact ht hvalid.1
    | find => exact ht
    | _ => trivial
  | begun hb => cases AuthedRequest.begin_cases hb <;> trivial
  | _ => trivial

theorem spelled_of_insertUser {u : User} (hx : t.Writes env o w (.insertUser u)) (ht : t.Spelled env spelling) :
    env.Spelled spelling u.email := by
  cases hx <;> exact ht

end Handlers

namespace Server
variable {env : Env} {s s' : Server} {a : Action} {db : DB} {start : Int} {spelling : String → String}

/-- A request for a PIN or with one has its address in the spelling chosen for it, if the
validator lets it pass. -/
def spellsOneWay (env : Env) (spelling : String → String) (_ : Server) : Action → Bool
  | .arrive (.requestPin email) => !env.emailValid email || email == spelling (env.toLower email)
  | .arrive (.verifyPin email _) => !env.emailValid email || email == spelling (env.toLower email)
  | _ => true

structure Spelled (env : Env) (spelling : String → String) (s : Server) : Prop where
  users : ∀ u ∈ s.db.users, env.Spelled spelling u.email
  tasks : ∀ t ∈ s.tasks, t.Spelled env spelling

theorem spelled_request {r : Request} (hok : spellsOneWay env spelling s (.arrive r) = true) :
    r.task.Spelled env spelling := by
  cases r with
  | requestPin email | verifyPin email pin =>
    intro hvalid
    simpa [spellsOneWay, Env.Spelled, hvalid] using hok
  | _ => trivial

theorem spelled_step (hok : spellsOneWay env spelling s a = true) (hs : s.Spelled env spelling)
    (h : s.step env a = some s') : s'.Spelled env spelling := by
  constructor
  · refine db_step h (P := fun db => ∀ u ∈ db.users, env.Spelled spelling u.email) hs.users ?_
    intro x hwr hdone _ u hu
    cases hdone.users hu with
    | inl hold =>
      obtain ⟨u₀, hu₀, _, hemail, _⟩ := hold
      exact hemail ▸ hs.users u₀ hu₀
    | inr heq =>
      subst heq
      obtain ⟨i, o, t, rfl, ht, hx⟩ | ⟨o, rfl, hx⟩ := write_cases hwr
      · exact spelled_of_insertUser hx (hs.tasks t (mem_of_getElem?_pool ht))
      · generalize s.scheduler = sch at hx
        cases hx
  · have hjobs : ∀ jobs : List ScrapeJob, ∀ t ∈ jobs.map ScrapeJob.task, t.Spelled env spelling :=
      fun _ => List.forall_mem_map.mpr fun _ _ => trivial
    cases a with
    | run i o =>
      obtain ⟨t, w, t', jobs, ht, hrun, rfl⟩ := step_run h
      exact forall_pooled hs.tasks (spelled_run hrun (hs.tasks t (mem_of_getElem?_pool ht))) (hjobs jobs)
    | schedule o =>
      obtain ⟨w, sch, jobs, hrun, rfl⟩ := step_schedule h
      exact List.forall_mem_append.mpr ⟨hs.tasks, hjobs jobs⟩
    | arrive r =>
      cases h
      exact List.forall_mem_append.mpr ⟨hs.tasks, by simpa using spelled_request hok⟩
    | _ =>
      cases h
      exact hs.tasks

/-- One account for each login identity, over every run whose requests bring each address in
one spelling, whichever it is. -/
theorem one_account (hdb : ∀ u ∈ db.users, env.Spelled spelling u.email)
    (h : Reaches (step env) (spellsOneWay env spelling) (boot db start) s) : s.db.OneAccount env := by
  have hstart : (boot db start).Spelled env spelling := ⟨hdb, fun t ht => (List.not_mem_nil ht).elim⟩
  have hs : s.Spelled env spelling := h.invariant hstart fun _ _ _ hok hs ha => spelled_step hok hs ha
  intro u hu u' hu' hlower
  have hemail : u.email = u'.email := by
    rw [hs.users u hu, hs.users u' hu', hlower]
  exact Table.eq_of_clash hu hu' (.inr (.inl hemail))

def capital (key : String) : String := if key = "b@x.com" then "B@x.com" else key

def secondAccount : Server :=
  after (step sampleEnv) (spellsOneWay sampleEnv capital) (boot sampleDB 0) (loginAs "B@x.com" "B@x.com")

theorem one_account_second : secondAccount.db.users.rows.map User.email = ["a@x.com", "B@x.com"] ∧
    secondAccount.db.OneAccount sampleEnv := by
  have hstart : ∀ u ∈ sampleDB.users, sampleEnv.Spelled capital u.email := by
    intro u hu
    rw [List.mem_singleton.mp hu]
    exact (by decide : sampleUser.email = capital (sampleEnv.toLower sampleUser.email))
  exact ⟨by decide +kernel, one_account hstart (reaches_after (by decide +kernel))⟩

theorem two_accounts : ∃ s, Reaches (step sampleEnv) anyStep (boot sampleDB 0) s ∧
    ¬ s.db.OneAccount sampleEnv := by
  refine ⟨after (step sampleEnv) anyStep (boot sampleDB 0) (loginAs "A@x.com" "a@x.com"),
    reaches_after (by decide +kernel), fun hone => ?_⟩
  obtain ⟨u, hu, hemail⟩ : ∃ u, (after (step sampleEnv) anyStep (boot sampleDB 0)
      (loginAs "A@x.com" "a@x.com")).db.userByEmail "a@x.com" = some u ∧ u.email = "a@x.com" :=
    ⟨_, rfl, rfl⟩
  obtain ⟨u', hu', hemail'⟩ : ∃ u, (after (step sampleEnv) anyStep (boot sampleDB 0)
      (loginAs "A@x.com" "a@x.com")).db.userByEmail "A@x.com" = some u ∧ u.email = "A@x.com" :=
    ⟨_, rfl, rfl⟩
  have hsame := hone u (Table.queryRow_some hu).1 u' (Table.queryRow_some hu').1
    (by rw [hemail, hemail']; decide)
  rw [hsame, hemail'] at hemail
  exact absurd hemail (by decide)

end Server
end ScheduleSync
