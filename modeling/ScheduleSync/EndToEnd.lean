import ScheduleSync.Deployment
import ScheduleSync.SingleUse

/-! From a user's form to the user's calendar. What a container types into the site was saved by the
user of its scrape, and what the calendar shows was captured by containers of this user. While
nobody else has the keys, a key gives out credentials once. -/
namespace ScheduleSync

inductive Callback where
  | credentials | shifts | failure
deriving DecidableEq

def Task.callback : Task → Option (Callback × String)
  | .getCredentials key _ => some (.credentials, key)
  | .submitShifts key _ => some (.shifts, key)
  | .submitFailure key _ => some (.failure, key)
  | _ => none

def Task.asks (c : Callback × String) (t : Task) : Nat := if t.callback = some c then 1 else 0

def Action.asks (c : Callback × String) : Action → Nat
  | .arrive r => r.task.asks c
  | _ => 0

theorem runTask_callback {env : Env} {o : Outcome} {w w' : World} {t t' : Task} {jobs : List ScrapeJob}
    (h : runTask env o w t = some (w', t', jobs)) : t'.callback = t.callback := by
  cases runTask_cases h with
  | begun hb => cases AuthedRequest.begin_cases hb <;> rfl
  | _ => rfl

theorem Task.handedOut_le (key : String) (t : Task) : t.handedOut key ≤ t.asks (.credentials, key) := by
  cases t with
  | getCredentials k pc =>
    by_cases hkey : k = key
    · subst hkey
      have hasks : Task.asks (.credentials, k) (.getCredentials k pc) = 1 := if_pos rfl
      rw [hasks]
      simp only [Task.handedOut, if_true]
      cases pc with
      | answered r =>
        cases r with
        | ok => exact Nat.le_refl _
        | error => exact Nat.zero_le _
      | _ => exact Nat.zero_le _
    · simp [Task.handedOut, hkey]
  | _ => exact Nat.zero_le _

theorem tally_mono {τ : Type*} {f g : τ → Nat} (h : ∀ t, f t ≤ g t) (ts : List τ) : tally f ts ≤ tally g ts :=
  List.sum_le_sum fun t _ => h t

theorem tally_le_one {τ : Type*} {f : τ → Nat} {ts : List τ} (hle : ∀ t, f t ≤ 1) (hnodup : ts.Nodup)
    (hone : ∀ t ∈ ts, ∀ u ∈ ts, 0 < f t → 0 < f u → t = u) : tally f ts ≤ 1 := by
  induction ts with
  | nil => exact Nat.zero_le _
  | cons t ts ih =>
    obtain ⟨hnew, hnodup⟩ := List.nodup_cons.mp hnodup
    have hcons : tally f (t :: ts) = f t + tally f ts := tally_append f [t] ts
    rw [hcons]
    by_cases ht : 0 < f t
    · have hzero : tally f ts = 0 := by
        rw [tally_eq_zero]
        intro u hu
        by_contra hpos
        have heq := hone t List.mem_cons_self u (List.mem_cons_of_mem _ hu) ht (Nat.pos_of_ne_zero hpos)
        exact hnew (heq ▸ hu)
      have := hle t
      omega
    · have := ih hnodup fun u hu v hv => hone u (List.mem_cons_of_mem _ hu) v (List.mem_cons_of_mem _ hv)
      omega

namespace Server
variable {env : Env} {s s' : Server} {a : Action}

/-- How many requests have come to the callback with the key. -/
def requests (s : Server) (c : Callback × String) : Nat := tally (Task.asks c) s.tasks

theorem callback_step {i : Nat} {t : Task} (ht : s.tasks[i]? = some t) (h : s.step env a = some s') :
    ∃ t', s'.tasks[i]? = some t' ∧ t'.callback = t.callback := by
  cases task_kept ht h with
  | inl hself =>
    obtain ⟨o, rfl⟩ := hself
    obtain ⟨w, t', jobs, hrun, rfl⟩ := step_task ht h
    exact ⟨t', getElem?_pooled_self ht _ _, runTask_callback hrun⟩
  | inr hkept => exact ⟨t, hkept, rfl⟩

theorem requests_step (h : s.step env a = some s') (c : Callback × String) :
    s'.requests c = s.requests c + a.asks c := by
  have hjobs : ∀ jobs : List ScrapeJob, tally (Task.asks c) (jobs.map ScrapeJob.task) = 0 := by
    intro jobs
    rw [tally_eq_zero]
    exact List.forall_mem_map.mpr fun _ _ => rfl
  cases a with
  | run i o =>
    obtain ⟨t, w, t', jobs, ht, hrun, rfl⟩ := step_run h
    have htally := tally_pooled (Task.asks c) ht t' (jobs.map ScrapeJob.task)
    have hsame : t'.asks c = t.asks c := by rw [Task.asks, runTask_callback hrun, Task.asks]
    rw [hjobs, hsame] at htally
    exact Nat.add_right_cancel htally
  | schedule o =>
    obtain ⟨_, _, jobs, _, rfl⟩ := step_schedule h
    exact (tally_append _ _ _).trans (congrArg _ (hjobs jobs))
  | arrive r =>
    cases h
    exact (tally_append _ _ _).trans (congrArg _ (tally_singleton _ _))
  | _ =>
    cases h
    rfl

end Server

variable {ι : Type}

def Exchange.typed : Exchange (ScraperCall ι) → Option String
  | ⟨.await (.type _ text), _⟩ => some text
  | _ => none

def Process.typed (p : Process ι) : List String := p.exchanges.filterMap Exchange.typed

theorem exchange_of_typed {exchange : Exchange (ScraperCall ι)} {text : String}
    (h : exchange.typed = some text) : ∃ el x, exchange = ⟨.await (.type el text), x⟩ := by
  cases exchange with
  | mk call x =>
    cases call with
    | stderr | pageUrl => cases h
    | await a =>
      cases a with
      | type el text' =>
        cases h
        exact ⟨el, x, rfl⟩
      | _ => cases h

/-- What the scraper has captured after `before`, as it uploads it. -/
def captured (js : ScraperEnv ι) (before : List (Exchange (ScraperCall ι))) : List CallbackShift :=
  extractShifts js.toText (mergeScheduleData js.dateOf (seenOf before).weeks)

def ScraperCall.uploading : {X : Type} → ScraperCall ι X → Option (List CallbackShift)
  | _, .await (.postShifts _ _ shifts _) => some shifts
  | _, _ => none

def Process.uploading (p : Process ι) : Option (List CallbackShift) :=
  match p.script with
  | .call e _ => e.uploading
  | .done _ => none

/-- The call that the process made next after `before` uploaded the shifts: it is over, or the request is
under way. -/
def Process.Uploaded (p : Process ι) (before : List (Exchange (ScraperCall ι)))
    (shifts : List CallbackShift) : Prop :=
  (∃ x after, p.exchanges = before ++ x :: after ∧ x.call.uploading = some shifts) ∨
    (p.exchanges = before ∧ p.request.isSome = true ∧ p.uploading = some shifts)

theorem Process.Uploaded.send {p : Process ι} {before : List (Exchange (ScraperCall ι))}
    {shifts : List CallbackShift} (h : p.Uploaded before shifts) (i : Nat) :
    Process.Uploaded { p with request := some i } before shifts :=
  h.imp_right fun hnow => ⟨hnow.1, rfl, hnow.2.2⟩

theorem Process.Uploaded.settle {p : Process ι} {before : List (Exchange (ScraperCall ι))}
    {shifts : List CallbackShift} (h : p.Uploaded before shifts) {X : Type} {e : ScraperCall ι X}
    {k : X → Script (ScraperCall ι) (Except String Nat × ScraperVars ι)} (x : X) (hscript : p.script = .call e k) :
    Process.Uploaded { p with exchanges := p.exchanges ++ [⟨e, x⟩], script := k x, request := none }
      before shifts := by
  cases h with
  | inl hover =>
    obtain ⟨y, after, hxs, hshifts⟩ := hover
    refine .inl ⟨y, after ++ [⟨e, x⟩], ?_, hshifts⟩
    show p.exchanges ++ [⟨e, x⟩] = _
    rw [hxs, List.append_assoc, List.cons_append]
  | inr hnow =>
    obtain ⟨hxs, _, hshifts⟩ := hnow
    rw [Process.uploading, hscript] at hshifts
    exact .inl ⟨⟨e, x⟩, [], congrArg (· ++ [⟨e, x⟩]) hxs, hshifts⟩

/-- What the scraper has seen of credentials, its container and its request, in terms of the service. -/
structure Process.Sound (db₀ : DB) (earlier : List (Uuid × CredentialsInput)) (js : ScraperEnv ι)
    (s : Server) (p : Process ι) : Prop where
  goes : (scraperMain (p.env js) ScraperVars.initial).Goes p.exchanges p.script
  container : ∃ c ∈ s.containers, c.id = p.containerID ∧ c.scrapeKey = p.scrapeKey
  request : ∀ i, p.request = some i → ∃ t c, s.tasks[i]? = some t ∧ t.callback = some (c, p.scrapeKey)
  told : ∀ before, before <+: p.exchanges → ∀ creds, (seenOf before).credentials = some creds →
    ∃ userID, s.KeyOf db₀ p.scrapeKey userID ∧ (userID, creds) ∈ s.trace.saved ++ earlier

def Awaited.callback {X : Type} : Awaited X → Option Callback
  | .getCredentials _ _ => some .credentials
  | .postShifts _ _ _ _ => some .shifts
  | .postFailure _ _ _ _ => some .failure
  | _ => none

def Process.calling (p : Process ι) : Option Callback :=
  match p.script with
  | .call (.await a) _ => a.callback
  | _ => none

def ScraperStage.passed : Callback → ScraperStage → Bool
  | .credentials, .started => false
  | .credentials, _ => true
  | .shifts, .browsing posted => posted
  | .shifts, .closed _ => true
  | .shifts, .reported => true
  | .shifts, _ => false
  | .failure, .reported => true
  | .failure, _ => false

def Process.asks (c : Callback × String) (p : Process ι) : Nat :=
  if p.scrapeKey = c.2 ∧ ((seenOf p.exchanges).stage.passed c.1 = true ∨
    p.request.isSome = true ∧ p.calling = some c.1) then 1 else 0

theorem Process.asks_le (c : Callback × String) (p : Process ι) : p.asks c ≤ 1 := by
  unfold Process.asks
  split <;> simp

theorem ScraperStage.not_passed {X : Type} {stage : ScraperStage} {a : Awaited X} {c : Callback}
    (h : stage.Permits a) (ha : a.callback = some c) : stage.passed c = false := by
  cases a with
  | getCredentials =>
    cases ha
    rw [show stage = .started from h]
    rfl
  | postShifts =>
    cases ha
    rw [show stage = .browsing false from h]
    rfl
  | postFailure =>
    cases ha
    rcases h with rfl | ⟨posted, rfl⟩ <;> rfl
  | _ => cases ha

theorem ScraperStage.passed_of_call {X : Type} {stage : ScraperStage} {a : Awaited X} {c : Callback} (ok : Bool)
    (ha : a.callback = some c) : (stage.after ok a).passed c = true := by
  cases a <;> cases ha <;> rfl

theorem ScraperStage.passed_after {X : Type} {stage : ScraperStage} {a : Awaited X} {c : Callback} (ok : Bool)
    (h : stage.Permits a) (hpassed : stage.passed c = true) : (stage.after ok a).passed c = true := by
  cases a with
  | getCredentials =>
    rw [show stage = .started from h] at hpassed
    cases c <;> cases hpassed
  | launch =>
    rw [show stage = .fetched from h] at hpassed
    cases c <;> cases ok <;> first | rfl | cases hpassed
  | newPage =>
    rw [show stage = .launched from h] at hpassed
    cases c <;> cases ok <;> first | rfl | cases hpassed
  | postShifts =>
    rw [show stage = .browsing false from h] at hpassed
    cases c <;> first | rfl | cases hpassed
  | closeBrowser =>
    rcases h with rfl | ⟨posted, rfl⟩ <;> cases c <;> first | rfl | cases hpassed
  | postFailure => cases c <;> rfl
  | _ => exact hpassed

section Steps
variable {db₀ : DB} {earlier : List (Uuid × CredentialsInput)} {js : ScraperEnv ι} {env : Env}
  {s s' : Server} {p : Process ι}

theorem Process.Sound.accepts (h : p.Sound db₀ earlier js s) {X : Type} {e : ScraperCall ι X}
    {k : X → Script (ScraperCall ι) (Except String Nat × ScraperVars ι)} (hscript : p.script = .call e k) :
    ScheduleSync.accepts (p.env js) (seenOf p.exchanges) X e := by
  have hgoes := h.goes
  rw [hscript] at hgoes
  exact (main_obeys.goes hgoes).2.1

theorem containers_kept {c : Container} (hc : c ∈ s.containers) {a : Action} (h : s.step env a = some s') :
    ∃ c' ∈ s'.containers, c'.id = c.id ∧ c'.scrapeKey = c.scrapeKey := by
  cases Server.hands_step h with
  | keeps _ _ hsame =>
    obtain ⟨c', hc', hid, _, hkey⟩ := hsame.mem hc
    exact ⟨c', hc', hid, hkey⟩
  | draws _ _ _ _ _ _ _ hsame =>
    rw [hsame]
    exact ⟨c, hc, rfl, rfl⟩
  | creates _ _ _ _ _ hcons =>
    rw [hcons]
    exact ⟨c, List.mem_cons_of_mem _ hc, rfl, rfl⟩

theorem Process.Sound.serve (hs : p.Sound db₀ earlier js s) {a : Action} (h : s.step env a = some s') :
    p.Sound db₀ earlier js s' where
  goes := hs.goes
  container := by
    obtain ⟨c, hc, hid, hkey⟩ := hs.container
    obtain ⟨c', hc', hid', hkey'⟩ := containers_kept hc h
    exact ⟨c', hc', hid'.trans hid, hkey'.trans hkey⟩
  request := by
    intro i hi
    obtain ⟨t, c, ht, hcallback⟩ := hs.request i hi
    obtain ⟨t', ht', hsame⟩ := Server.callback_step ht h
    exact ⟨t', c, ht', hsame.trans hcallback⟩
  told := by
    intro before hbefore creds hcreds
    obtain ⟨userID, hkey, hmem⟩ := hs.told before hbefore creds hcreds
    refine ⟨userID, Server.keyOf_step h hkey, ?_⟩
    cases List.mem_append.mp hmem with
    | inl hsaved => exact List.mem_append_left _ (Server.saved_step h _ hsaved)
    | inr hold => exact List.mem_append_right _ hold

theorem Process.sound_boot {c : Container} (hc : c ∈ s.containers) :
    (Process.boot js c).Sound db₀ earlier js s where
  goes := .refl _
  container := ⟨c, hc, rfl, rfl⟩
  request _ hi := by cases hi
  told before hbefore creds hcreds := by
    rw [List.prefix_nil.mp hbefore] at hcreds
    cases hcreds

theorem request_callback {X : Type} {a : Awaited X} {g : Seen ι} {senv : ScraperEnv ι} {rejected : Option String}
    {r : Request} (ha : a.Truthful senv g) (hr : a.request rejected = some r) :
    ∃ c, a.callback = some c ∧ r.task.callback = some (c, senv.scrapeKey) := by
  cases a with
  | getCredentials url key =>
    cases hr
    exact ⟨_, rfl, congrArg (fun key => some (Callback.credentials, key)) ha.2⟩
  | postShifts url key =>
    cases hr
    exact ⟨_, rfl, congrArg (fun key => some (Callback.shifts, key)) ha.2.1⟩
  | postFailure url key =>
    cases hr
    exact ⟨_, rfl, congrArg (fun key => some (Callback.failure, key)) ha.2.1⟩
  | _ => cases hr

theorem Process.outgoing_eq_some {rejected : Option String} {r : Request} (h : p.outgoing rejected = some r) :
    ∃ (X : Type) (a : Awaited X) (k : Settled ι X → Script (ScraperCall ι) (Except String Nat × ScraperVars ι)),
      p.script = .call (.await a) k ∧ a.request rejected = some r := by
  unfold Process.outgoing at h
  split at h
  · rename_i X a k hscript
    exact ⟨X, a, k, hscript, h⟩
  · cases h

theorem Process.Sound.send (hs : p.Sound db₀ earlier js s) {rejected : Option String} {r : Request}
    (hr : p.outgoing rejected = some r) (h : s.step env (.arrive r) = some s') :
    Process.Sound db₀ earlier js s' { p with request := some s.tasks.length } := by
  obtain ⟨X, a, k, hscript, ha⟩ := Process.outgoing_eq_some hr
  obtain ⟨c, _, hcallback⟩ := request_callback (hs.accepts hscript).2 ha
  have hserved := hs.serve h
  refine ⟨hserved.goes, hserved.container, ?_, hserved.told⟩
  intro i hi
  cases hi
  cases h
  exact ⟨r.task, c, List.getElem?_concat_length, hcallback⟩

theorem seenOf_concat (xs : List (Exchange (ScraperCall ι))) (x : Exchange (ScraperCall ι)) :
    seenOf (xs ++ [x]) = (seenOf xs).see x := List.foldl_concat ..

theorem seen_credentials {g : Seen ι} {X : Type} {e : ScraperCall ι X} {x : X} {creds : CredentialsInput}
    {t : Option Task} (h : (g.see ⟨e, x⟩).credentials = some creds) (hserved : e.servedBy t x = true) :
    g.credentials = some creds ∨ t.bind Task.credentials = some creds := by
  cases e with
  | stderr | pageUrl => exact .inl h
  | await a =>
    cases a with
    | getCredentials url key =>
      have haccepted : x.result.toOption.bind FetchResponse.accepted = some creds := h
      simp only [ScraperCall.servedBy, Awaited.servedBy, haccepted, beq_iff_eq] at hserved
      exact .inr hserved
    | _ => exact .inl h

theorem Process.Sound.credentials (hs : p.Sound db₀ earlier js s)
    {uploaded : String → CallbackShift → Prop} (hprov : s.Provenance db₀ earlier uploaded)
    {creds : CredentialsInput} (h : (p.request.bind fun i => s.tasks[i]?).bind Task.credentials = some creds) :
    ∃ userID, s.KeyOf db₀ p.scrapeKey userID ∧ (userID, creds) ∈ s.trace.saved ++ earlier := by
  obtain ⟨t, htask, hcreds⟩ := Option.bind_eq_some_iff.mp h
  obtain ⟨i, hi, ht⟩ := Option.bind_eq_some_iff.mp htask
  obtain ⟨t', c, ht', hcallback⟩ := hs.request i hi
  cases ht.symm.trans ht'
  have hbelongs := hprov.tasks t (mem_of_getElem?_pool ht)
  match t with
  | .getCredentials key (.answered (.ok creds')) =>
    cases hcreds
    cases hcallback
    exact hbelongs

theorem Process.Sound.settle (hs : p.Sound db₀ earlier js s)
    {uploaded : String → CallbackShift → Prop} (hprov : s.Provenance db₀ earlier uploaded) {X : Type}
    {e : ScraperCall ι X} {k : X → Script (ScraperCall ι) (Except String Nat × ScraperVars ι)} (x : X)
    (hscript : p.script = .call e k)
    (hserved : e.servedBy (p.request.bind fun i => s.tasks[i]?) x = true) :
    Process.Sound db₀ earlier js s
      { p with exchanges := p.exchanges ++ [⟨e, x⟩], script := k x, request := none } := by
  have hgoes := hs.goes
  rw [hscript] at hgoes
  refine ⟨hgoes.snoc x, hs.container, fun i hi => (by cases hi), ?_⟩
  intro before hbefore creds hcreds
  cases List.prefix_concat_iff.mp hbefore with
  | inl hall =>
    rw [hall, seenOf_concat] at hcreds
    cases seen_credentials hcreds hserved with
    | inl hold => exact hs.told _ (List.prefix_refl _) creds hold
    | inr hnew => exact hs.credentials hprov hnew
  | inr hold => exact hs.told before hold creds hcreds

end Steps

def settles (n : Nat) : List (DeploymentAction Nat) :=
  List.replicate n (.settle 0 fun X e => (SampleSite.asks.respond () X e).1)

def firstVisit : List (DeploymentAction Nat) :=
  (firstSave ++ launch 1 "log1" "key1" "c1").map .serve ++ .boot "c1" :: settles 1 ++
    .send 0 none :: (statements 2 4).map .serve ++ settles 72 ++
    .send 0 none :: (statements 3 1 ++ Server.ingest 3 "sh1").map .serve ++ settles 3

namespace Deployment
variable {db₀ : DB} {start : Int} {earlier : List (Uuid × CredentialsInput)} {js : ScraperEnv ι} {env : Env}
  {d d' : Deployment ι} {a : DeploymentAction ι} {ok : Deployment ι → DeploymentAction ι → Bool}

theorem server_reaches (h : Reaches (step env js) ok d d') :
    Reaches (Server.step env) anyStep d.toServer d'.toServer := by
  induction h with
  | refl => exact .refl
  | tail _ hmove ih =>
    obtain ⟨a, _, ha⟩ := hmove
    cases step_moves ha with
    | serve hs => exact ih.tail ⟨_, rfl, hs⟩
    | send _ _ _ hs => exact ih.tail ⟨_, rfl, hs⟩
    | boot | settle => exact ih

/-- Each container has one process, and each process is a run of the scraper. -/
structure Sound (db₀ : DB) (earlier : List (Uuid × CredentialsInput)) (js : ScraperEnv ι) (d : Deployment ι) :
    Prop where
  ids : (d.processes.map Process.containerID).Nodup
  processes : ∀ p ∈ d.processes, p.Sound db₀ earlier js d.toServer

theorem forall_set {τ : Type*} {P : τ → Prop} {ts : List τ} {i : Nat} {t : τ} (hts : ∀ u ∈ ts, P u) (ht : P t) :
    ∀ u ∈ ts.set i t, P u := by
  intro u hu
  cases List.mem_or_eq_of_mem_set hu with
  | inl hold => exact hts u hold
  | inr heq => exact heq ▸ ht

theorem nodup_ids_set {p p' : Process ι} {ps : List (Process ι)} {j : Nat} (hp : ps[j]? = some p)
    (hid : p'.containerID = p.containerID) (h : (ps.map Process.containerID).Nodup) :
    ((ps.set j p').map Process.containerID).Nodup := by
  have hsame : (ps.set j p').map Process.containerID = ps.map Process.containerID := by
    obtain ⟨hlt, hget⟩ := List.getElem?_eq_some_iff.mp hp
    rw [List.map_set, hid, ← hget, ← List.getElem_map Process.containerID (h := by simpa using hlt),
      List.set_getElem_self]
  rwa [hsame]

theorem sound_step {uploaded : String → CallbackShift → Prop} (hprov : d.toServer.Provenance db₀ earlier uploaded)
    (hs : d.Sound db₀ earlier js) (h : d.step env js a = some d') : d'.Sound db₀ earlier js := by
  cases step_moves h with
  | serve hserve => exact ⟨hs.ids, fun p hp => (hs.processes p hp).serve hserve⟩
  | boot hc hnew =>
    refine ⟨?_, List.forall_mem_append.mpr ⟨hs.processes, List.forall_mem_singleton.mpr (Process.sound_boot hc)⟩⟩
    rw [List.map_append]
    refine List.nodup_append.mpr ⟨hs.ids, List.nodup_singleton _, ?_⟩
    intro id hid id' hid' heq
    obtain ⟨p, hp, rfl⟩ := List.mem_map.mp hid
    rw [List.mem_singleton.mp hid'] at heq
    exact hnew p hp heq
  | send hp _ hr hserve =>
    refine ⟨nodup_ids_set hp rfl hs.ids, forall_set ?_ ?_⟩
    · exact fun p hp => (hs.processes p hp).serve hserve
    · exact (hs.processes _ (List.mem_of_getElem? hp)).send hr hserve
  | settle x hp hscript hserved =>
    refine ⟨nodup_ids_set hp rfl hs.ids, forall_set hs.processes ?_⟩
    exact (hs.processes _ (List.mem_of_getElem? hp)).settle hprov x hscript hserved

theorem sound_of_reaches (hdb : db₀.Coherent env earlier) (h : Reaches (step env js) ok (boot db₀ start) d) :
    d.Sound db₀ earlier js := by
  induction h with
  | refl => exact ⟨List.nodup_nil, fun _ hp => (List.not_mem_nil hp).elim⟩
  | tail hbefore hmove ih =>
    obtain ⟨a, _, ha⟩ := hmove
    exact sound_step (Server.provenance_of_reaches hdb (server_reaches hbefore)) ih ha

/-- No one but the containers has a key. -/
def callbacksInside (_ : Deployment ι) : DeploymentAction ι → Bool
  | .serve (.arrive r) => r.scrapeKey.isNone
  | _ => true

def visited : Deployment Nat :=
  after (step sampleEnv sampleScraperEnv) callbacksInside (boot sessionDB 0) firstVisit

section Reached
variable {p : Process ι}

theorem attempt_of_process (hcustody : Server.Custody db₀ d.toServer) (hs : d.Sound db₀ earlier js)
    (hp : p ∈ d.processes) : ∃ att ∈ d.trace.attempts, att.log.scrapeKey = some p.scrapeKey := by
  obtain ⟨c, hc, _, hkey⟩ := (hs.processes p hp).container
  obtain ⟨att, hatt, _, hattkey⟩ := hcustody.containers c hc
  exact ⟨att, hatt, hattkey.trans (congrArg some hkey)⟩

theorem typed_saved (hs : d.Sound db₀ earlier js) (hp : p ∈ d.processes) {text : String} (htyped : text ∈ p.typed) :
    ∃ userID creds, d.KeyOf db₀ p.scrapeKey userID ∧ (userID, creds) ∈ d.trace.saved ++ earlier ∧
      text ∈ creds.texts := by
  have hsound := hs.processes p hp
  obtain ⟨exchange, hmem, htext⟩ := List.mem_filterMap.mp htyped
  obtain ⟨el, x, rfl⟩ := exchange_of_typed htext
  obtain ⟨before, after, hxs⟩ := List.append_of_mem hmem
  obtain ⟨creds, hcreds, htext⟩ := ((main_obeys.goes hsound.goes).1 before _ after hxs).2
  obtain ⟨userID, hkey, hmem⟩ := hsound.told before ⟨_, hxs.symm⟩ creds hcreds
  exact ⟨userID, creds, hkey, hmem, htext⟩

/-- Into the site a container types nothing but what the user of its scrape has saved. -/
theorem types_own_credentials (hdb : db₀.Coherent env earlier)
    (hrun : Reaches (step env js) anyStep (boot db₀ start) d) (hp : p ∈ d.processes) {text : String}
    (htyped : text ∈ p.typed) :
    ∃ att ∈ d.trace.attempts, att.log.scrapeKey = some p.scrapeKey ∧
      ∃ creds, (att.log.userID, creds) ∈ d.trace.saved ++ earlier ∧ text ∈ creds.texts := by
  have hcustody := Server.custody_of_reaches (server_reaches hrun)
  have hs := sound_of_reaches hdb hrun
  obtain ⟨att, hatt, hkey⟩ := attempt_of_process hcustody hs hp
  obtain ⟨userID, creds, hof, hmem, htext⟩ := typed_saved hs hp htyped
  have hatt' : d.KeyOf db₀ p.scrapeKey att.log.userID :=
    ⟨att.log, List.mem_append_left _ (List.mem_map_of_mem hatt), hkey, rfl⟩
  rw [hof.unique hcustody hatt'] at hmem
  exact ⟨att, hatt, hkey, creds, hmem, htext⟩

theorem types_own_credentials_first :
    ∃ p ∈ visited.processes, "siren" ∈ p.typed ∧
      ∃ att ∈ visited.trace.attempts, att.log.scrapeKey = some p.scrapeKey ∧
        ∃ creds, (att.log.userID, creds) ∈ visited.trace.saved ++ [] ∧ "siren" ∈ creds.texts := by
  have htyped : visited.processes.any (fun p => p.typed.contains "siren") = true := by decide +kernel
  have hrun : Reaches (step sampleEnv sampleScraperEnv) callbacksInside (boot sessionDB 0) visited :=
    reaches_after (by decide +kernel)
  obtain ⟨p, hp, hsiren⟩ := List.any_eq_true.mp htyped
  have hmem : "siren" ∈ p.typed := List.contains_iff_mem.mp hsiren
  exact ⟨p, hp, hmem, types_own_credentials (Server.coherent_of_no_keys rfl rfl) (hrun.mono fun _ _ _ => rfl) hp hmem⟩

end Reached

/-! While only the containers come to the callbacks. -/

def Captured (js : ScraperEnv ι) (ps : List (Process ι)) (key : String) (sh : CallbackShift) : Prop :=
  ∃ p ∈ ps, p.scrapeKey = key ∧ ∃ before, p.Uploaded before (captured js before) ∧ sh ∈ captured js before

theorem Captured.append {ps qs : List (Process ι)} {key : String} {sh : CallbackShift}
    (h : Captured js ps key sh) : Captured js (ps ++ qs) key sh := by
  obtain ⟨p, hp, hrest⟩ := h
  exact ⟨p, List.mem_append_left _ hp, hrest⟩

theorem Captured.set {p p' : Process ι} {ps : List (Process ι)} {j : Nat} (hp : ps[j]? = some p)
    (hkey : p'.scrapeKey = p.scrapeKey)
    (huploaded : ∀ before shifts, p.Uploaded before shifts → p'.Uploaded before shifts) {key : String}
    {sh : CallbackShift} (h : Captured js ps key sh) : Captured js (ps.set j p') key sh := by
  obtain ⟨q, hq, hqkey, before, hbefore, hsh⟩ := h
  obtain ⟨i, hi⟩ := List.mem_iff_getElem?.mp hq
  by_cases hij : j = i
  · subst hij
    cases hp.symm.trans hi
    obtain ⟨hlt, _⟩ := List.getElem?_eq_some_iff.mp hp
    exact ⟨p', List.mem_set hlt p', hkey.trans hqkey, before, huploaded _ _ hbefore, hsh⟩
  · refine ⟨q, List.mem_iff_getElem?.mpr ⟨i, ?_⟩, hqkey, before, hbefore, hsh⟩
    rw [List.getElem?_set_ne hij]
    exact hi

theorem asks_of_inside {b : Action} (hok : d.callbacksInside (.serve b) = true) (c : Callback × String) :
    b.asks c = 0 := by
  cases b with
  | arrive r =>
    cases r with
    | getCredentials | submitShifts | submitFailure => cases hok
    | _ => rfl
  | _ => rfl

theorem asks_of_send {p : Process ι} {rejected : Option String} {r : Request}
    (hs : p.Sound db₀ earlier js d.toServer) (hidle : p.request = none) (hr : p.outgoing rejected = some r)
    (c : Callback × String) (i : Nat) :
    r.task.asks c + p.asks c ≤ Process.asks c { p with request := some i } := by
  obtain ⟨X, a, k, hscript, ha⟩ := Process.outgoing_eq_some hr
  obtain ⟨hpermits, htrue⟩ := hs.accepts hscript
  obtain ⟨c₀, hc₀, hcallback⟩ := request_callback htrue ha
  have hbefore : p.asks c = if p.scrapeKey = c.2 ∧ (seenOf p.exchanges).stage.passed c.1 = true then 1 else 0 := by
    simp [Process.asks, hidle]
  by_cases hc : r.task.callback = some c
  · have hsame : (c₀, p.scrapeKey) = c := Option.some.inj (hcallback.symm.trans hc)
    subst hsame
    have hcalling : p.calling = some c₀ := by
      unfold Process.calling
      rw [hscript]
      exact hc₀
    have hafter : Process.asks (c₀, p.scrapeKey) { p with request := some i } = 1 :=
      if_pos ⟨rfl, .inr ⟨rfl, hcalling⟩⟩
    have hfirst : p.asks (c₀, p.scrapeKey) = 0 := by
      rw [hbefore, if_neg]
      rintro ⟨_, hpassed⟩
      rw [ScraperStage.not_passed hpermits hc₀] at hpassed
      cases hpassed
    rw [hafter, hfirst, Task.asks, if_pos hc]
  · rw [Task.asks, if_neg hc, hbefore, Nat.zero_add]
    split
    · rename_i hpassed
      exact Nat.le_of_eq (if_pos ⟨hpassed.1, .inl hpassed.2⟩).symm
    · exact Nat.zero_le _

theorem asks_settle {p : Process ι} (hs : p.Sound db₀ earlier js d.toServer) {X : Type} {e : ScraperCall ι X}
    {k : X → Script (ScraperCall ι) (Except String Nat × ScraperVars ι)} (x : X) (hscript : p.script = .call e k)
    (c : Callback × String) :
    p.asks c ≤ Process.asks c
      { p with exchanges := p.exchanges ++ [⟨e, x⟩], script := k x, request := none } := by
  unfold Process.asks
  split
  · rename_i hasked
    obtain ⟨hkey, hasked⟩ := hasked
    have hlater : (seenOf (p.exchanges ++ [⟨e, x⟩])).stage.passed c.1 = true := by
      rw [seenOf_concat]
      have haccepts := hs.accepts hscript
      cases e with
      | stderr | pageUrl =>
        refine hasked.resolve_right fun hcalls => ?_
        simp [Process.calling, hscript] at hcalls
      | await a =>
        cases hasked with
        | inl hpassed => exact ScraperStage.passed_after _ haccepts.1 hpassed
        | inr hcalls =>
          have ha : a.callback = some c.1 := by simpa [Process.calling, hscript] using hcalls.2
          exact ScraperStage.passed_of_call _ ha
    rw [if_pos ⟨hkey, .inl hlater⟩]
  · exact Nat.zero_le _

theorem requests_move (hs : d.Sound db₀ earlier js) (hok : d.callbacksInside a = true)
    (h : d.step env js a = some d') (c : Callback × String)
    (hle : d.requests c ≤ tally (Process.asks c) d.processes) :
    d'.requests c ≤ tally (Process.asks c) d'.processes := by
  cases step_moves h with
  | serve hserve =>
    have hrequests := Server.requests_step hserve c
    rw [asks_of_inside hok c, Nat.add_zero] at hrequests
    exact hrequests ▸ hle
  | boot =>
    simp only [tally_append]
    exact Nat.le_add_right_of_le hle
  | @send j _ p r s hp hidle hr hserve =>
    have hrequests : s.requests c = d.requests c + r.task.asks c := Server.requests_step hserve c
    have hset := tally_set (Process.asks c) hp { p with request := some d.tasks.length }
    have hsend := asks_of_send (hs.processes p (List.mem_of_getElem? hp)) hidle hr c d.tasks.length
    show s.requests c ≤ tally (Process.asks c) (d.processes.set j _)
    omega
  | @settle j _ p X e k x hp hscript =>
    have hset := tally_set (Process.asks c) hp
      { p with exchanges := p.exchanges ++ [⟨e, x⟩], script := k x, request := none }
    have hsettle := asks_settle (hs.processes p (List.mem_of_getElem? hp)) x hscript c
    show d.requests c ≤ tally (Process.asks c) (d.processes.set j _)
    omega

theorem Sound.process_eq (hs : d.Sound db₀ earlier js) (hcustody : Server.Custody db₀ d.toServer)
    {p q : Process ι} (hp : p ∈ d.processes) (hq : q ∈ d.processes) (hkey : p.scrapeKey = q.scrapeKey) : p = q := by
  obtain ⟨c, hc, hid, hckey⟩ := (hs.processes p hp).container
  obtain ⟨c', hc', hid', hckey'⟩ := (hs.processes q hq).container
  have hsame : c = c' := hcustody.container_eq hc hc' (hckey.trans (hkey.trans hckey'.symm))
  have hids : p.containerID = q.containerID := hid.symm.trans (hsame ▸ hid')
  exact List.inj_on_of_nodup_map hs.ids hp hq hids

/-- With each key one request at most comes to each callback, so two uploads or two fetches of a scrape never
meet, and a key gives out credentials once. -/
theorem callbacks_come_once (hdb : db₀.Coherent env earlier)
    (hrun : Reaches (step env js) callbacksInside (boot db₀ start) d) (key : String) :
    (∀ c, d.requests (c, key) ≤ 1) ∧ d.handedOut key ≤ 1 := by
  have hs := sound_of_reaches hdb hrun
  have hcustody := Server.custody_of_reaches (server_reaches hrun)
  have hrequests : ∀ c, d.requests (c, key) ≤ tally (Process.asks (c, key)) d.processes := by
    intro c
    clear hs hcustody
    induction hrun with
    | refl => exact Nat.zero_le _
    | tail hbefore hmove ih =>
      obtain ⟨a, hok, ha⟩ := hmove
      exact requests_move (sound_of_reaches hdb hbefore) hok ha (c, key) ih
  have hone : ∀ c, tally (Process.asks (c, key)) d.processes ≤ 1 := by
    intro c
    refine tally_le_one (Process.asks_le (c, key)) (List.Nodup.of_map _ hs.ids) ?_
    intro p hp q hq hpos hpos'
    have hkeyed : ∀ p : Process ι, 0 < p.asks (c, key) → p.scrapeKey = key := by
      intro p hpos
      by_contra hne
      rw [Process.asks, if_neg fun hasked => hne hasked.1] at hpos
      cases hpos
    exact hs.process_eq hcustody hp hq ((hkeyed p hpos).trans (hkeyed q hpos').symm)
  have honce : ∀ c, d.requests (c, key) ≤ 1 := fun c => Nat.le_trans (hrequests c) (hone c)
  exact ⟨honce, Nat.le_trans (tally_mono (Task.handedOut_le key) _) (honce .credentials)⟩

theorem callbacks_come_once_first :
    ((∀ c, visited.requests (c, "key1") ≤ 1) ∧ visited.handedOut "key1" ≤ 1) ∧
      visited.requests (.credentials, "key1") = 1 ∧ visited.requests (.shifts, "key1") = 1 ∧
      visited.handedOut "key1" = 1 := by
  have hrun : Reaches (step sampleEnv sampleScraperEnv) callbacksInside (boot sessionDB 0) visited :=
    reaches_after (by decide +kernel)
  have hcounts : visited.requests (.credentials, "key1") = 1 ∧ visited.requests (.shifts, "key1") = 1 ∧
      visited.handedOut "key1" = 1 := by decide +kernel
  exact ⟨callbacks_come_once (Server.coherent_of_no_keys rfl rfl) hrun "key1", hcounts⟩

end Deployment
end ScheduleSync
