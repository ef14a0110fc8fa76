import ScheduleSync.Provenance
import ScheduleSync.ScraperReports

/-! The whole system: the service, and in each container that it has started a run of scraper/scrape.js
with the key of the container. A fetch of the run is a request to the service, and what the
service answers to the request is what the run gets, unless it gets an error. -/
namespace ScheduleSync

/-- A run of the scraper in a container: the calls it has made, what is left of the program, and
the task of the service that handles its fetch. -/
structure Process (ι : Type) where
  containerID : String
  scrapeKey : String
  exchanges : List (Exchange (ScraperCall ι))
  script : Script (ScraperCall ι) (Except String Nat × ScraperVars ι)
  request : Option Nat

structure Deployment (ι : Type) extends Server where
  processes : List (Process ι)

/-- What can happen: a step of the service, the start of the program in a container, the arrival of
a fetch, whose body may be too large or cut off, and the end of a call. -/
inductive DeploymentAction (ι : Type) : Type 1
  | serve (a : Action)
  | boot (containerID : String)
  | send (j : Nat) (rejected : Option String)
  | settle (j : Nat) (respond : (X : Type) → ScraperCall ι X → X)

def readBody {X : Type} (rejected : Option String) (body : X) : Except String X :=
  match rejected with
  | some msg => .error msg
  | none => .ok body

def Awaited.request (rejected : Option String) : {X : Type} → Awaited X → Option Request
  | _, .getCredentials _ key => some (.getCredentials key)
  | _, .postShifts _ key shifts _ => some (.submitShifts key (readBody rejected shifts))
  | _, .postFailure _ key logs screenshots => some (.submitFailure key (readBody rejected ⟨logs, screenshots⟩))
  | _, _ => none

def Task.credentials : Task → Option CredentialsInput
  | .getCredentials _ (.answered (.ok creds)) => some creds
  | _ => none

def Task.tookReport : Task → Bool
  | .submitShifts _ (.answered (.ok _)) => true
  | .submitFailure _ (.answered (.ok _)) => true
  | _ => false

/-- A good answer to a fetch is what the task of the service has answered. -/
def Awaited.servedBy (t : Option Task) : {X : Type} → Awaited X → Except String X → Bool
  | _, .getCredentials _ _, r =>
    match r.toOption.bind FetchResponse.accepted with
    | none => true
    | some creds => t.bind Task.credentials == some creds
  | _, .postShifts _ _ _ _, r => (r.toOption.bind FetchResponse.accepted).isNone || t.any Task.tookReport
  | _, .postFailure _ _ _ _, r => (r.toOption.bind FetchResponse.accepted).isNone || t.any Task.tookReport
  | _, _, _ => true

def ScraperCall.servedBy {ι : Type} (t : Option Task) : {X : Type} → ScraperCall ι X → X → Bool
  | _, .await a, x => a.servedBy t x.result
  | _, _, _ => true

namespace Process
variable {ι : Type}

def env (js : ScraperEnv ι) (p : Process ι) : ScraperEnv ι := { js with scrapeKey := p.scrapeKey }

def boot (js : ScraperEnv ι) (c : Container) : Process ι where
  containerID := c.id
  scrapeKey := c.scrapeKey
  exchanges := []
  script := scraperMain { js with scrapeKey := c.scrapeKey } ScraperVars.initial
  request := none

def outgoing (p : Process ι) (rejected : Option String) : Option Request :=
  match p.script with
  | .call (.await a) _ => a.request rejected
  | _ => none

def settle (p : Process ι) (t : Option Task) (respond : (X : Type) → ScraperCall ι X → X) :
    Option (Process ι) :=
  match p.script with
  | .call e k =>
    if e.servedBy t (respond _ e) then
      some { p with
        exchanges := p.exchanges ++ [⟨e, respond _ e⟩], script := k (respond _ e), request := none }
    else none
  | .done _ => none

end Process

namespace Deployment
variable {ι : Type}

def boot (db : DB) (now : Int) : Deployment ι := { Server.boot db now with processes := [] }

def runs (d : Deployment ι) (p : Process ι) : Bool :=
  d.containers.any fun c => c.id == p.containerID && c.phase == .running

def step (env : Env) (js : ScraperEnv ι) (d : Deployment ι) : DeploymentAction ι → Option (Deployment ι)
  | .serve a => (d.toServer.step env a).map fun s => { d with toServer := s }
  | .boot id =>
    if d.processes.any fun p => p.containerID == id then none
    else
      (d.containers.find? fun c => c.id == id && c.phase == .running).map fun c =>
        { d with processes := d.processes ++ [.boot js c] }
  | .send j rejected =>
    match d.processes[j]? with
    | none => none
    | some p =>
      if p.request.isSome || !d.runs p then none
      else
        match p.outgoing rejected with
        | none => none
        | some r =>
          (d.toServer.step env (.arrive r)).map fun s =>
            { d with toServer := s, processes := d.processes.set j { p with request := some d.tasks.length } }
  | .settle j respond =>
    match d.processes[j]? with
    | none => none
    | some p =>
      if !d.runs p then none
      else
        (p.settle (p.request.bind fun i => d.tasks[i]?) respond).map fun p' =>
          { d with processes := d.processes.set j p' }

inductive Moves (env : Env) (js : ScraperEnv ι) (d : Deployment ι) : DeploymentAction ι → Deployment ι → Prop
  | serve {a : Action} {s : Server} (h : d.toServer.step env a = some s) :
      Moves env js d (.serve a) { d with toServer := s }
  | boot {id : String} {c : Container} (hc : c ∈ d.containers)
      (hnew : ∀ p ∈ d.processes, p.containerID ≠ c.id) :
      Moves env js d (.boot id) { d with processes := d.processes ++ [.boot js c] }
  | send {j : Nat} {rejected : Option String} {p : Process ι} {r : Request} {s : Server}
      (hp : d.processes[j]? = some p) (hidle : p.request = none) (hr : p.outgoing rejected = some r)
      (h : d.toServer.step env (.arrive r) = some s) :
      Moves env js d (.send j rejected)
        { d with toServer := s, processes := d.processes.set j { p with request := some d.tasks.length } }
  | settle {j : Nat} {respond : (X : Type) → ScraperCall ι X → X} {p : Process ι} {X : Type}
      {e : ScraperCall ι X} {k : X → Script (ScraperCall ι) (Except String Nat × ScraperVars ι)}
      (x : X) (hp : d.processes[j]? = some p) (hscript : p.script = .call e k)
      (hserved : e.servedBy (p.request.bind fun i => d.tasks[i]?) x = true) :
      Moves env js d (.settle j respond)
        { d with
          processes := d.processes.set j
            { p with exchanges := p.exchanges ++ [⟨e, x⟩], script := k x, request := none } }

theorem settle_cases {p p' : Process ι} {t : Option Task} {respond : (X : Type) → ScraperCall ι X → X}
    (h : p.settle t respond = some p') :
    ∃ (X : Type) (e : ScraperCall ι X) (k : X → Script (ScraperCall ι) (Except String Nat × ScraperVars ι))
      (x : X), p.script = .call e k ∧ e.servedBy t x = true ∧
        p' = { p with exchanges := p.exchanges ++ [⟨e, x⟩], script := k x, request := none } := by
  unfold Process.settle at h
  split at h
  · rename_i X e k hscript
    split at h
    · rename_i hserved
      exact ⟨X, e, k, _, hscript, hserved, (Option.some.inj h).symm⟩
    · cases h
  · cases h

variable {env : Env} {js : ScraperEnv ι} {d d' : Deployment ι} {a : DeploymentAction ι}

theorem step_moves (h : d.step env js a = some d') : d.Moves env js a d' := by
  cases a with
  | serve a =>
    obtain ⟨s, hs, rfl⟩ := Option.map_eq_some_iff.mp h
    exact .serve hs
  | boot id =>
    simp only [step] at h
    split at h
    · cases h
    · rename_i hnone
      obtain ⟨c, hfind, rfl⟩ := Option.map_eq_some_iff.mp h
      have hid : c.id = id := by
        have hboth := List.find?_some hfind
        simp only [Bool.and_eq_true, beq_iff_eq] at hboth
        exact hboth.1
      refine .boot (List.mem_of_find?_eq_some hfind) fun p hp heq => hnone ?_
      exact List.any_eq_true.mpr ⟨p, hp, beq_iff_eq.mpr (heq.trans hid)⟩
  | send j rejected =>
    simp only [step] at h
    split at h
    · cases h
    · rename_i p hp
      split at h
      · cases h
      · rename_i hidle
        split at h
        · cases h
        · rename_i r hr
          obtain ⟨s, hs, rfl⟩ := Option.map_eq_some_iff.mp h
          refine .send hp ?_ hr hs
          cases hrequest : p.request with
          | none => rfl
          | some i => simp [hrequest] at hidle
  | settle j respond =>
    simp only [step] at h
    split at h
    · cases h
    · rename_i p hp
      split at h
      · cases h
      · obtain ⟨p', hp', rfl⟩ := Option.map_eq_some_iff.mp h
        obtain ⟨X, e, k, x, hscript, hserved, rfl⟩ := settle_cases hp'
        exact .settle x hp hscript hserved

end Deployment
end ScheduleSync
