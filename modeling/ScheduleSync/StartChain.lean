import ScheduleSync.Quiescence
import ScheduleSync.Separation
import ScheduleSync.Writes

/-! Scrapes that do not start. Within one call scrapeForUser tries again and again until a
container starts or the retries are used up; the logs of the tries have consecutive retry
counts, and only when the last one has failed as well is the user scheduled anew. -/
namespace ScheduleSync

structure LogOutline where
  id : Uuid
  userID : Uuid
  retryCount : Nat
  status : ScrapeStatus
deriving DecidableEq

def ScrapeLog.outline (l : ScrapeLog) : LogOutline := ⟨l.id, l.userID, l.retryCount, l.status⟩

def DB.outlines (db : DB) : List LogOutline := db.scrapeLogs.rows.map ScrapeLog.outline

def failedChain (userID : Uuid) (r : Nat) : List Uuid → List LogOutline
  | [] => []
  | id :: ids => ⟨id, userID, r, .failure⟩ :: failedChain userID (r + 1) ids

theorem failedChain_concat (userID id : Uuid) (r : Nat) (ids : List Uuid) :
    failedChain userID r (ids ++ [id]) =
      failedChain userID r ids ++ [⟨id, userID, r + ids.length, .failure⟩] := by
  induction ids generalizing r with
  | nil => rfl
  | cons x ids ih =>
    rw [List.cons_append, failedChain, ih, failedChain, List.cons_append, List.length_cons]
    congr 4
    omega

section Outlines
variable {db db' : DB}

theorem outlines_insertScrapeLog {l : ScrapeLog} (h : db.insertScrapeLog l = some db') :
    db'.outlines = db.outlines ++ [l.outline] := by
  unfold DB.insertScrapeLog at h
  split_ifs at h
  obtain ⟨t, ht, rfl⟩ := Option.map_eq_some_iff.mp h
  rw [DB.outlines, Table.insert_rows ht, List.map_append]
  rfl

@[simp] theorem outlines_setContainerID (id : Uuid) (containerID : String) :
    (db.setContainerID id containerID).outlines = db.outlines := by
  simp only [DB.outlines, DB.setContainerID, Table.update, List.map_map]
  refine List.map_congr_left fun l _ => ?_
  simp only [Function.comp_apply]
  split <;> rfl

theorem outline_startFailed (l : ScrapeLog) (err : String) (now : Int) :
    (l.finish (.startFailed err) now).outline = { l.outline with status := .failure } := rfl

theorem outlines_startFailed {init : List LogOutline} {logID userID : Uuid} {n : Nat} {status : ScrapeStatus}
    (h : db.outlines = init ++ [⟨logID, userID, n, status⟩]) (err : String) (now : Int) :
    (db.finishScrapeLog logID (.startFailed err) now).outlines = init ++ [⟨logID, userID, n, .failure⟩] := by
  have hids : (db.outlines.map LogOutline.id).Nodup := by
    rw [DB.outlines, List.map_map]
    exact List.pairwise_map.mpr (db.scrapeLogs.unique.imp fun hclash heq => hclash (.inl heq))
  rw [h, List.map_append, List.nodup_append] at hids
  have hinit : ∀ x ∈ init, x.id ≠ logID := fun x hx =>
    hids.2.2 x.id (List.mem_map_of_mem hx) logID (List.mem_singleton_self _)
  have hupdate : (db.finishScrapeLog logID (.startFailed err) now).outlines =
      db.outlines.map fun x => if x.id == logID then { x with status := .failure } else x := by
    simp only [DB.outlines, DB.finishScrapeLog, Table.update, List.map_map]
    refine List.map_congr_left fun l _ => ?_
    simp only [Function.comp_apply]
    by_cases hl : (l.id == logID) = true
    · rw [if_pos hl, outline_startFailed, if_pos (show (l.outline.id == logID) = true from hl)]
    · rw [if_neg hl, if_neg (show ¬ (l.outline.id == logID) = true from hl)]
  rw [hupdate, h, List.map_append]
  congr 1
  · refine (List.map_congr_left fun x hx => ?_).trans (List.map_id init)
    rw [if_neg (by simpa using hinit x hx)]
    rfl
  · simp

end Outlines

def ScrapePc.startResult (env : Env) (o : Outcome) (w : World) : ScrapePc → Option Bool
  | .pullImage _ _ _ => if pullNeeded env w && o.dockerFails then some false else none
  | .createContainer _ _ _ => if o.dockerFails then some false else none
  | .startContainer _ _ => some !o.dockerFails
  | _ => none

/-- What a call of scrapeForUser has to show for itself: the logs, the calls of ScheduleNext
and how the starts went, newest first. -/
structure Chain where
  outlines : List LogOutline
  scheduled : List Uuid
  starts : List Bool

/-- The call has inserted logs with consecutive retry counts. Some start succeeded, which
ended the call and left its log running, or none did, and the user was scheduled. -/
inductive Chain.Ended (job : ScrapeJob) (before : Chain) : Chain → Prop
  | started {ids : List Uuid} {logID : Uuid} (hbound : job.retryCount + ids.length ≤ maxRetries)
      (hmanual : job.isAuto = false → ids = []) :
      Ended job before
        { outlines := before.outlines ++ failedChain job.userID job.retryCount ids ++
            [⟨logID, job.userID, job.retryCount + ids.length, .running⟩]
          scheduled := before.scheduled
          starts := true :: List.replicate ids.length false }
  | gaveUp {ids : List Uuid} {logID : Uuid} (hbound : job.retryCount + ids.length ≤ maxRetries)
      (hmanual : job.isAuto = false → ids = [])
      (hauto : job.isAuto = true → job.retryCount + ids.length = maxRetries) :
      Ended job before
        { outlines := before.outlines ++ failedChain job.userID job.retryCount ids ++
            [⟨logID, job.userID, job.retryCount + ids.length, .failure⟩]
          scheduled := logID :: before.scheduled
          starts := List.replicate (ids.length + 1) false }

def ScrapePc.unstarted : ScrapePc → Option Uuid
  | .readTimezone logID _ => some logID
  | .pullImage logID _ _ => some logID
  | .createContainer logID _ _ => some logID
  | .saveContainerID logID _ => some logID
  | .startContainer logID _ => some logID
  | _ => none

/-- The arguments of the current try, after those that have failed. -/
structure ScrapeJob.Retried (job : ScrapeJob) (ids : List Uuid) (job' : ScrapeJob) : Prop where
  userID : job'.userID = job.userID
  isAuto : job'.isAuto = job.isAuto
  retryCount : job'.retryCount = job.retryCount + ids.length
  bound : job.retryCount + ids.length ≤ maxRetries
  manual : job.isAuto = false → ids = []

inductive Chain.At (job : ScrapeJob) (before : Chain) : ScrapeJob → ScrapePc → Chain → Prop
  | insertLog {job' : ScrapeJob} {ids : List Uuid} (hjob : job.Retried ids job') :
      At job before job' .insertLog
        { outlines := before.outlines ++ failedChain job.userID job.retryCount ids
          scheduled := before.scheduled
          starts := List.replicate ids.length false }
  | starting {job' : ScrapeJob} {ids : List Uuid} {pc : ScrapePc} {logID : Uuid}
      (hjob : job.Retried ids job') (hpc : pc.unstarted = some logID) :
      At job before job' pc
        { outlines := before.outlines ++ failedChain job.userID job.retryCount ids ++
            [⟨logID, job.userID, job.retryCount + ids.length, .running⟩]
          scheduled := before.scheduled
          starts := List.replicate ids.length false }
  | markFailed {job' : ScrapeJob} {ids : List Uuid} {logID : Uuid} {err : String}
      (hjob : job.Retried ids job') :
      At job before job' (.markFailed logID err)
        { outlines := before.outlines ++ failedChain job.userID job.retryCount ids ++
            [⟨logID, job.userID, job.retryCount + ids.length, .running⟩]
          scheduled := before.scheduled
          starts := List.replicate (ids.length + 1) false }
  | scheduleNext {job' : ScrapeJob} {ids : List Uuid} {logID : Uuid} (hjob : job.Retried ids job')
      (hauto : job.isAuto = true → job.retryCount + ids.length = maxRetries) :
      At job before job' (.scheduleNext logID)
        { outlines := before.outlines ++ failedChain job.userID job.retryCount ids ++
            [⟨logID, job.userID, job.retryCount + ids.length, .failure⟩]
          scheduled := before.scheduled
          starts := List.replicate (ids.length + 1) false }
  | release {job' : ScrapeJob} {after : Chain} (hended : Ended job before after) :
      At job before job' .release after
  | done {job' : ScrapeJob} {after : Chain} (hended : Ended job before after) :
      At job before job' .done after

def World.chain (w : World) (starts : List Bool) : Chain := ⟨w.db.outlines, w.trace.scheduled, starts⟩

section Statement
variable {env : Env} {o : Outcome} {w w' : World} {job job' job'' : ScrapeJob} {pc pc' : ScrapePc}
  {before : Chain} {starts : List Bool}

theorem insertScrapeLog_new {l : ScrapeLog} {db : DB} (huser : db.hasUser l.userID = true)
    (hid : ∀ x ∈ db.scrapeLogs, x.id ≠ l.id) (hkey : ∀ x ∈ db.scrapeLogs, x.scrapeKey ≠ l.scrapeKey) :
    db.insertScrapeLog l ≠ none := by
  rw [DB.insertScrapeLog, if_pos huser, ne_eq, Option.map_eq_none_iff]
  intro hins
  obtain ⟨x, hx, hclash | hclash⟩ := Table.insert_eq_none hins
  · exact hid x hx hclash
  · exact hkey x hx hclash.1

theorem Chain.At.of_eq {c c' : Chain} (h : At job before job' pc c) (heq : c' = c) : At job before job' pc c' :=
  heq ▸ h

theorem ScrapeJob.Retried.next {ids : List Uuid} (h : job.Retried ids job') (hauto : job'.isAuto = true)
    (hcount : job'.retryCount < maxRetries) (logID : Uuid) :
    job.Retried (ids ++ [logID]) (job'.retryOf logID) := by
  have hcount' := h.retryCount
  refine ⟨h.userID, ?_, ?_, ?_, fun hmanual => ?_⟩
  · rw [← h.isAuto, hauto]
    rfl
  · rw [List.length_append, List.length_singleton, ← Nat.add_assoc, ← hcount']
    rfl
  · rw [List.length_append, List.length_singleton]
    omega
  · rw [← h.isAuto, hauto] at hmanual
    cases hmanual

section Phases
variable {ids : List Uuid} {logID : Uuid}

theorem chain_insertLog (hjob : job.Retried ids job')
    (hc : w.chain starts =
      { outlines := before.outlines ++ failedChain job.userID job.retryCount ids
        scheduled := before.scheduled
        starts := List.replicate ids.length false })
    (h : scrapeForUser env o w job' .insertLog = some (w', job'', pc')) (hsql : o.sqlFails = false)
    (huser : w.db.hasUser job.userID = true) (hids : ∀ l ∈ w.db.scrapeLogs, l.id ∈ w.drawn)
    (hkeys : ∀ l ∈ w.db.scrapeLogs, ∀ key, l.scrapeKey = some key → key ∈ w.drawn) :
    Chain.At job before job'' pc' (w'.chain starts) := by
  obtain ⟨houtlines, hscheduled, hstarts⟩ := Chain.mk.inj hc
  cases scrapeForUser_cases h with
  | insertFailed hid hkey hne hexec =>
    rw [exec_executed hsql] at hexec
    have huser' : w.db.hasUser job'.userID = true := hjob.userID.symm ▸ huser
    refine absurd hexec (insertScrapeLog_new huser' (fun x hx heq => ?_) fun x hx heq => ?_)
    · have hdrawn := hids x hx
      rw [heq] at hdrawn
      exact hid hdrawn
    · exact hkey (hkeys x hx _ heq)
  | inserted hid hkey hne hexec =>
    refine Chain.At.of_eq (.starting hjob rfl) ?_
    rw [World.chain, outlines_insertScrapeLog (exec_eq_some hexec), houtlines, ← hscheduled, ← hstarts]
    simp [ScrapeJob.newLog, ScrapeLog.outline, hjob.userID, hjob.retryCount]

theorem chain_starting (hjob : job.Retried ids job') (hpc : pc.unstarted = some logID)
    (hc : w.chain starts =
      { outlines := before.outlines ++ failedChain job.userID job.retryCount ids ++
          [⟨logID, job.userID, job.retryCount + ids.length, .running⟩]
        scheduled := before.scheduled
        starts := List.replicate ids.length false })
    (h : scrapeForUser env o w job' pc = some (w', job'', pc')) (hsql : o.sqlFails = false) :
    Chain.At job before job'' pc' (w'.chain ((pc.startResult env o w).toList ++ starts)) := by
  obtain ⟨houtlines, hscheduled, hstarts⟩ := Chain.mk.inj hc
  have hfailed : Chain.mk w.db.outlines w.trace.scheduled (false :: starts) =
      { outlines := before.outlines ++ failedChain job.userID job.retryCount ids ++
          [⟨logID, job.userID, job.retryCount + ids.length, .running⟩]
        scheduled := before.scheduled
        starts := List.replicate (ids.length + 1) false } := by
    rw [houtlines, hscheduled, hstarts, List.replicate_succ]
  cases scrapeForUser_cases h with
  | readTimezone =>
    cases hpc
    exact .of_eq (.starting hjob rfl) hc
  | pullSkipped hneeded =>
    cases hpc
    simp only [ScrapePc.startResult, hneeded, Bool.false_and, if_neg Bool.false_ne_true]
    exact .of_eq (.starting hjob rfl) hc
  | pullFailed hneeded hdocker =>
    cases hpc
    simp only [ScrapePc.startResult, hneeded, hdocker, Bool.and_self, if_pos]
    exact .of_eq (.markFailed hjob) hfailed
  | pulled hneeded hdocker =>
    cases hpc
    simp only [ScrapePc.startResult, hdocker, Bool.and_false, if_neg Bool.false_ne_true]
    exact .of_eq (.starting hjob rfl) hc
  | createFailed hdocker =>
    cases hpc
    simp only [ScrapePc.startResult, hdocker, if_pos]
    exact .of_eq (.markFailed hjob) hfailed
  | created hdocker =>
    cases hpc
    simp only [ScrapePc.startResult, hdocker, if_neg Bool.false_ne_true]
    exact .of_eq (.starting hjob rfl) hc
  | saveContainerID =>
    cases hpc
    rw [execDropped_executed hsql]
    refine .of_eq (.starting hjob rfl) (Eq.trans ?_ hc)
    rw [World.chain, outlines_setContainerID]
    rfl
  | startFailed hdocker =>
    cases hpc
    simp only [ScrapePc.startResult, hdocker]
    exact .of_eq (.markFailed hjob) hfailed
  | started hdocker =>
    cases hpc
    simp only [ScrapePc.startResult, hdocker]
    have hended : Chain.Ended job before ⟨w.db.outlines, w.trace.scheduled, true :: starts⟩ := by
      rw [houtlines, hscheduled, hstarts]
      exact .started hjob.bound hjob.manual
    exact .release hended
  | _ => cases hpc

theorem chain_markFailed {err : String} (hjob : job.Retried ids job')
    (hc : w.chain starts =
      { outlines := before.outlines ++ failedChain job.userID job.retryCount ids ++
          [⟨logID, job.userID, job.retryCount + ids.length, .running⟩]
        scheduled := before.scheduled
        starts := List.replicate (ids.length + 1) false })
    (h : scrapeForUser env o w job' (.markFailed logID err) = some (w', job'', pc'))
    (hsql : o.sqlFails = false) : Chain.At job before job'' pc' (w'.chain starts) := by
  obtain ⟨houtlines, hscheduled, hstarts⟩ := Chain.mk.inj hc
  have hmarked := outlines_startFailed houtlines err (unix w.now)
  cases scrapeForUser_cases h with
  | retried hauto hcount =>
    rw [execDropped_executed hsql]
    refine .of_eq (.insertLog (hjob.next hauto hcount logID)) ?_
    rw [World.chain, hmarked, failedChain_concat, ← List.append_assoc, ← hscheduled, List.length_append,
      List.length_singleton, ← hstarts]
  | gaveUp hlast =>
    rw [execDropped_executed hsql]
    refine .of_eq (.scheduleNext hjob fun hauto => ?_) ?_
    · have hmax := hlast (hjob.isAuto.trans hauto)
      have hbound := hjob.bound
      rw [hjob.retryCount] at hmax
      omega
    · rw [World.chain, hmarked, ← hscheduled, ← hstarts]

end Phases

theorem chain_step (hs : Chain.At job before job' pc (w.chain starts))
    (h : scrapeForUser env o w job' pc = some (w', job'', pc')) (hsql : o.sqlFails = false)
    (huser : w.db.hasUser job.userID = true) (hids : ∀ l ∈ w.db.scrapeLogs, l.id ∈ w.drawn)
    (hkeys : ∀ l ∈ w.db.scrapeLogs, ∀ key, l.scrapeKey = some key → key ∈ w.drawn) :
    Chain.At job before job'' pc' (w'.chain ((pc.startResult env o w).toList ++ starts)) := by
  generalize hc : w.chain starts = c at hs
  cases hs with
  | insertLog hjob => exact chain_insertLog hjob hc h hsql huser hids hkeys
  | starting hjob hpc => exact chain_starting hjob hpc hc h hsql
  | markFailed hjob => exact chain_markFailed hjob hc h hsql
  | @scheduleNext ids logID hjob hauto =>
    obtain ⟨houtlines, hscheduled, hstarts⟩ := Chain.mk.inj hc
    cases scrapeForUser_cases h with
    | scheduleNext =>
      have hended : Chain.Ended job before ⟨w.db.outlines, logID :: w.trace.scheduled, starts⟩ := by
        rw [houtlines, hscheduled, hstarts]
        exact .gaveUp hjob.bound hjob.manual hauto
      refine .release ?_
      rw [World.scheduleNext, execDropped_executed hsql]
      exact hended
  | release hended =>
    cases scrapeForUser_cases h with
    | release => exact .of_eq (.done hended) hc
  | done hended => cases scrapeForUser_cases h

end Statement

namespace Server
variable {env : Env} {s s' : Server} {a : Action} {db : DB} {start : Int} {i : Nat} {job : ScrapeJob}
  {before : Chain} {record : List (Option Bool)}

/-- Only task `i` runs, and its statements succeed; time may pass. -/
def chains (i : Nat) (_ : Server) : Action → Bool
  | .run j o => j == i && !o.sqlFails
  | .advance _ => true
  | _ => false

/-- A step of the scrape, with how the start of a container went if it decides that. -/
def chainStep (env : Env) (i : Nat) (s : Server) : Action → Option (Option Bool)
  | .run j o =>
    match s.tasks[i]? with
    | some (.scrape _ pc) => if j = i then some (pc.startResult env o s.toWorld) else none
    | _ => none
  | _ => none

def starts (record : List (Option Bool)) : List Bool := record.filterMap id

/-- The call of task `i` is on its way, with enough steps left for what it still may do. -/
structure InChain (i : Nat) (job : ScrapeJob) (before : Chain) (s : Server) (record : List (Option Bool)) :
    Prop where
  registered : s.Registered
  user : s.db.hasUser job.userID = true
  task : ∃ job' pc, s.tasks[i]? = some (.scrape job' pc) ∧
    Chain.At job before job' pc (s.chain (starts record)) ∧
    record.length + pc.remaining job'.retriesLeft ≤ ScrapePc.insertLog.remaining job.retriesLeft

theorem inChain_step (hs : InChain i job before s record) (hok : chains i s a = true)
    (h : s.step env a = some s') : InChain i job before s' ((chainStep env i s a).toList ++ record) := by
  obtain ⟨job', pc, ht, hchain, hrank⟩ := hs.task
  have hregistered := registered_step hs.registered h
  cases a with
  | run j o =>
    obtain ⟨hj, hsql⟩ : j = i ∧ o.sqlFails = false := by simpa [chains] using hok
    subst hj
    obtain ⟨w, t', jobs, hrun, rfl⟩ := step_task ht h
    obtain ⟨⟨w₁, job'', pc'⟩, hr, heq⟩ := Option.map_eq_some_iff.mp hrun
    cases heq
    have hevent : chainStep env j s (.run j o) = some (pc.startResult env o s.toWorld) := by
      simp [chainStep, ht]
    rw [hevent, Option.toList_some, List.singleton_append]
    have husers : w.db.users = s.db.users := congrArg Vault.users (scrapeForUser_apart hr).vault
    refine ⟨hregistered, ?_, job'', pc', getElem?_pooled_self ht _ _, ?_, ?_⟩
    · have huser := hs.user
      rw [DB.hasUser, ← husers] at huser
      exact huser
    · have hnext := chain_step hchain hr hsql hs.user hs.registered.logs hs.registered.keys
      have hstarts : starts (pc.startResult env o s.toWorld :: record) =
          (pc.startResult env o s.toWorld).toList ++ starts record := by
        rw [starts, List.filterMap_cons]
        cases pc.startResult env o s.toWorld <;> rfl
      rw [hstarts]
      exact hnext
    · have hless := scrapeForUser_remaining hr
      rw [List.length_cons]
      omega
  | advance d =>
    cases h
    exact ⟨hregistered, hs.user, job', pc, ht, hchain, hrank⟩
  | _ => cases hok

theorem chain_proceeds {pc : ScrapePc} (ht : s.tasks[i]? = some (.scrape job pc)) (hacquire : pc ≠ .acquire)
    (hdone : pc ≠ .done) (fails : Bool) :
    ∃ o, o.sqlFails = false ∧ o.dockerFails = fails ∧ (s.step env (.run i o)).isSome = true := by
  obtain ⟨id, hid⟩ := exists_unused_string s.drawn
  obtain ⟨key, hkey⟩ := exists_unused_string (id :: s.drawn)
  obtain ⟨containerID, hcontainer⟩ := exists_unused_string (s.containers.map Container.id)
  rw [List.mem_cons, not_or] at hkey
  have hnew : ¬ s.containers.any (fun c => c.id == containerID) = true := by
    intro hany
    obtain ⟨c, hc, heq⟩ := List.any_eq_true.mp hany
    exact hcontainer (List.mem_map.mpr ⟨c, hc, beq_iff_eq.mp heq⟩)
  let o : Outcome := { dockerFails := fails, uuid := id, key := key, containerID := containerID }
  refine ⟨o, rfl, rfl, ?_⟩
  have hrun : (scrapeForUser env o s.toWorld job pc).isSome = true := by
    cases pc with
    | acquire => exact absurd rfl hacquire
    | done => exact absurd rfl hdone
    | insertLog =>
      have hfresh : ¬ (o.uuid ∈ s.drawn ∨ o.key ∈ s.drawn ∨ o.uuid = o.key) :=
        not_or.mpr ⟨hid, not_or.mpr ⟨hkey.2, Ne.symm hkey.1⟩⟩
      simp only [scrapeForUser, if_neg hfresh]
      split <;> rfl
    | createContainer =>
      have hunused : ¬ s.containers.any (fun c => c.id == o.containerID) = true := hnew
      simp only [scrapeForUser, if_neg hunused]
      split <;> rfl
    | readTimezone | saveContainerID | scheduleNext | release => rfl
    | pullImage =>
      simp only [scrapeForUser]
      split_ifs <;> rfl
    | startContainer | markFailed =>
      simp only [scrapeForUser]
      split_ifs <;> rfl
  obtain ⟨⟨w, job', pc'⟩, hr⟩ := Option.isSome_iff_exists.mp hrun
  simp [step, ht, runTask, hr]

/-- A call of scrapeForUser whose statements succeed returns after a bounded number of steps,
whatever starts fail: it is never stuck before, and then it has made one chain of tries. -/
theorem start_failures_chain {ok : Server → Action → Bool} (hreach : Reaches (step env) ok (boot db start) s)
    (ht : s.tasks[i]? = some (.scrape job .insertLog)) (huser : s.db.hasUser job.userID = true)
    (hretry : job.retryCount ≤ maxRetries)
    (h : Reaches (recorded (step env) (chainStep env i)) (fun p => chains i p.1) (s, []) (s', record)) :
    record.length ≤ 7 * (maxRetries - job.retryCount) + 9 ∧
    ∃ job' pc, s'.tasks[i]? = some (.scrape job' pc) ∧
      (pc ≠ .done → ∀ fails, ∃ o, o.sqlFails = false ∧ o.dockerFails = fails ∧
        (s'.step env (.run i o)).isSome = true) ∧
      (pc = .release ∨ pc = .done → Chain.Ended job (s.chain []) (s'.chain (starts record))) := by
  have hstart : InChain i job (s.chain []) s [] := by
    refine ⟨registered_of_reaches hreach, huser, job, .insertLog, ht, ?_, by simp⟩
    have hretried : job.Retried [] job := ⟨rfl, rfl, rfl, hretry, fun _ => rfl⟩
    refine .of_eq (.insertLog hretried) ?_
    simp [World.chain, failedChain, starts]
  have hs : InChain i job (s.chain []) s' record :=
    h.invariant_recorded (I := InChain i job (s.chain [])) hstart
      fun _ _ _ _ hok hs hstep => inChain_step hs hok hstep
  obtain ⟨job', pc, ht', hchain, hrank⟩ := hs.task
  refine ⟨?_, job', pc, ht', fun hdone => ?_, ?_⟩
  · have hfirst : ScrapePc.insertLog.remaining job.retriesLeft = 7 * job.retriesLeft + 9 := rfl
    have hretries : job.retriesLeft ≤ maxRetries - job.retryCount := by
      unfold ScrapeJob.retriesLeft
      split <;> omega
    omega
  · have hacquire : pc ≠ .acquire := by
      rintro rfl
      generalize s'.chain (starts record) = c at hchain
      cases hchain with
      | starting _ hpc => cases hpc
    exact chain_proceeds ht' hacquire hdone
  · intro hend
    generalize s'.chain (starts record) = c at hchain ⊢
    cases hend with
    | inl hrelease =>
      subst hrelease
      cases hchain with
      | starting _ hpc => cases hpc
      | release hended => exact hended
    | inr hdone =>
      subst hdone
      cases hchain with
      | starting _ hpc => cases hpc
      | done hended => exact hended

def duePolled : Server := after (step sampleEnv) anyStep (boot sampleDB 0) (firstPoll ++ statements 0 1)

def dueJob : ScrapeJob := ⟨"u1", 0, true, true, none⟩

def secondTry (i : Nat) : List Action :=
  .run i { uuid := "log1", key := "key1" } :: statements i 2 ++
    [.run i { dockerFails := true }, .run i {}, .run i { uuid := "log2", key := "key2" }] ++ statements i 2 ++
    .run i { containerID := "c1" } :: statements i 3

def startedSecond : Server × List (Option Bool) :=
  after (recorded (step sampleEnv) (chainStep sampleEnv 0)) (fun p => chains 0 p.1) (duePolled, []) (secondTry 0)

def saveTriggered : Server := after (step sampleEnv) anyStep (boot sessionDB 0) (firstSave ++ statements 1 1)

def manualJob : ScrapeJob := ⟨"u1", 0, false, false, none⟩

def manualTry : Server × List (Option Bool) :=
  after (recorded (step sampleEnv) (chainStep sampleEnv 1)) (fun p => chains 1 p.1) (saveTriggered, [])
    (.run 1 { uuid := "log1", key := "key1" } :: statements 1 2 ++ [.run 1 { containerID := "c1" }, .run 1 {},
      .run 1 { dockerFails := true }] ++ statements 1 3)

theorem start_failures_chain_second :
    Chain.Ended dueJob (duePolled.chain []) (startedSecond.1.chain [true, false]) ∧
    startedSecond.1.tasks[0]? = some (.scrape ⟨"u1", 1, true, true, some "log1"⟩ .done) ∧
    Chain.Ended manualJob (saveTriggered.chain []) (manualTry.1.chain [false]) ∧
    manualTry.1.tasks[1]? = some (.scrape manualJob .done) := by
  have hdue : Reaches (step sampleEnv) anyStep (boot sampleDB 0) duePolled := reaches_after (by decide +kernel)
  have hrun : Reaches (recorded (step sampleEnv) (chainStep sampleEnv 0)) (fun p => chains 0 p.1)
      (duePolled, []) (startedSecond.1, startedSecond.2) :=
    reaches_recorded_after (by decide +kernel)
  have hsaved : Reaches (step sampleEnv) anyStep (boot sessionDB 0) saveTriggered := reaches_after (by decide +kernel)
  have hmanual : Reaches (recorded (step sampleEnv) (chainStep sampleEnv 1)) (fun p => chains 1 p.1)
      (saveTriggered, []) (manualTry.1, manualTry.2) :=
    reaches_recorded_after (by decide +kernel)
  have hdueTask : duePolled.tasks[0]? = some (.scrape dueJob .insertLog) := rfl
  have hmanualTask : saveTriggered.tasks[1]? = some (.scrape manualJob .insertLog) := rfl
  have hreturned : startedSecond.1.tasks[0]? = some (.scrape ⟨"u1", 1, true, true, some "log1"⟩ .done) := rfl
  have hreturned' : manualTry.1.tasks[1]? = some (.scrape manualJob .done) := rfl
  refine ⟨?_, hreturned, ?_, hreturned'⟩
  · obtain ⟨_, job', pc, hpc, _, hended⟩ :=
      start_failures_chain hdue hdueTask (by decide +kernel) (by decide) hrun
    cases hpc.symm.trans hreturned
    exact hended (.inr rfl)
  · obtain ⟨_, job', pc, hpc, _, hended⟩ :=
      start_failures_chain hsaved hmanualTask (by decide +kernel) (by decide) hmanual
    cases hpc.symm.trans hreturned'
    exact hended (.inr rfl)

end Server
end ScheduleSync
