import ScheduleSync.ConcurrencyCap
import ScheduleSync.Lineage
import ScheduleSync.Writes

/-! A timed out scrape and its container. The reaper kills the container its SELECT
named, if it named one, and marks the log whatever became of that; a goroutine that is
still launching the log goes on and starts the container afterwards. In the runs where
the reaper only meets logs whose launch is over and recorded, nothing of a marked log
runs again. -/
namespace ScheduleSync

def ScrapePc.launching : ScrapePc → Option Uuid
  | .readTimezone logID _ => some logID
  | .pullImage logID _ _ => some logID
  | .createContainer logID _ _ => some logID
  | .saveContainerID logID _ => some logID
  | .startContainer logID _ => some logID
  | _ => none

/-- The container a scrape has created and not started, with its log. -/
def ScrapePc.created : ScrapePc → Option (Uuid × String)
  | .saveContainerID logID containerID => some (logID, containerID)
  | .startContainer logID containerID => some (logID, containerID)
  | _ => none

def Task.launching : Task → Option Uuid
  | .scrape _ pc => pc.launching
  | _ => none

def Task.created : Task → Option (Uuid × String)
  | .scrape _ pc => pc.created
  | _ => none

def Calmer (cs cs' : List Container) : Prop :=
  ∃ f : Container → Container, (∀ c, (f c).id = c.id ∧ (f c).logID = c.logID ∧
    ((f c).phase = .running → c.phase = .running)) ∧ cs' = cs.map f

theorem Calmer.refl (cs : List Container) : Calmer cs cs :=
  ⟨id, fun _ => ⟨rfl, rfl, fun h => h⟩, (List.map_id cs).symm⟩

/-- A step of a scrape goroutine: it creates a container of its log, it starts the one
it has created, or it leaves the containers alone and takes up no log but a new one. -/
inductive ScrapePc.Advances (w w' : World) : ScrapePc → ScrapePc → Prop
  | other {pc pc' : ScrapePc} (hc : w'.containers = w.containers)
      (hl : ∀ L, pc'.launching = some L → pc.launching = some L ∨ L ∉ w.drawn)
      (hcreated : ∀ p, pc'.created = some p → pc.created = some p) : Advances w w' pc pc'
  | create {logID : Uuid} {key tzName : String} (c : Container) (hlog : c.logID = logID)
      (hphase : c.phase = .created) (hnew : ∀ x ∈ w.containers, x.id ≠ c.id)
      (hc : w'.containers = c :: w.containers) :
      Advances w w' (.createContainer logID key tzName) (.saveContainerID logID c.id)
  | start {logID : Uuid} {containerID : String}
      (hc : w'.containers = w.containers.map (Container.start containerID)) :
      Advances w w' (.startContainer logID containerID) .release

section Handlers
variable {env : Env} {o : Outcome} {w w' : World}

theorem scrapeForUser_advances {job job' : ScrapeJob} {pc pc' : ScrapePc}
    (h : scrapeForUser env o w job pc = some (w', job', pc')) : pc.Advances w w' pc' := by
  cases scrapeForUser_cases h with
  | inserted hid =>
    refine .other rfl ?_ (by simp [ScrapePc.created])
    intro L hL
    cases hL
    exact .inr hid
  | readTimezone | pullSkipped | pulled =>
    exact .other rfl (fun _ hL => .inl hL) (by simp [ScrapePc.created])
  | @created logID key tzName _ hnew =>
    exact .create ⟨o.containerID, logID, key, tzName, .created, false, false⟩ rfl rfl hnew rfl
  | saveContainerID => exact .other (execDropped_containers w o _) (fun _ hL => .inl hL) fun _ hp => hp
  | started => exact .start rfl
  | retried | gaveUp =>
    exact .other (execDropped_containers w o _) (by simp [ScrapePc.launching])
      (by simp [ScrapePc.created])
  | scheduleNext =>
    exact .other (scheduleNext_containers w o _ _) (by simp [ScrapePc.launching])
      (by simp [ScrapePc.created])
  | _ => exact .other rfl (by simp [ScrapePc.launching]) (by simp [ScrapePc.created])

theorem reap_of_reapMark {waited : Bool} {sch : Scheduler} {jobs : List ScrapeJob} {e : StaleEntry}
    {rest : List StaleEntry}
    (h : runScheduler o w waited sch = some (w', .reapMark e rest, jobs)) : sch = .reap (e :: rest) := by
  cases runScheduler_cases h with
  | notKilled | killed => rfl

theorem request_stays {t t' : Task} {jobs : List ScrapeJob}
    (h : runTask env o w t = some (w', t', jobs)) (ht : ∀ job pc, t ≠ .scrape job pc) :
    t'.launching = none ∧ t'.created = none := by
  cases runTask_cases h with
  | scrape => exact absurd rfl (ht _ _)
  | begun hb => cases AuthedRequest.begin_cases hb <;> exact ⟨rfl, rfl⟩
  | _ => exact ⟨rfl, rfl⟩

end Handlers

theorem calmer_kill (id : String) (cs : List Container) : Calmer cs (killContainer id cs) := by
  refine ⟨fun c => if c.id == id && c.phase == .running
    then { c with phase := .exited, killed := true } else c, fun c => ?_, rfl⟩
  dsimp only
  split
  · exact ⟨rfl, rfl, fun hrun => by cases hrun⟩
  · exact ⟨rfl, rfl, fun hrun => hrun⟩

theorem calmer_report (key : Option String) (cs : List Container) : Calmer cs (markReported key cs) := by
  refine ⟨fun c => if key == some c.scrapeKey then { c with reported := true } else c, fun c => ?_, rfl⟩
  dsimp only
  split <;> exact ⟨rfl, rfl, fun hrun => hrun⟩

theorem calmer_exit (id : String) (cs : List Container) :
    Calmer cs (cs.map fun c => if c.id == id && c.phase == .running then { c with phase := .exited } else c) := by
  refine ⟨_, fun c => ?_, rfl⟩
  split
  · exact ⟨rfl, rfl, fun hrun => by cases hrun⟩
  · exact ⟨rfl, rfl, fun hrun => hrun⟩

namespace Server
variable {env : Env} {s s' s₁ s₂ : Server} {a : Action} {db₀ : DB} {start : Int} {L : Uuid}

def KeepsLaunching (s s' : Server) : Prop :=
  ∀ t' ∈ s'.tasks, ∀ L, t'.launching = some L → (∃ t ∈ s.tasks, t.launching = some L) ∨ L ∉ s.drawn

def KeepsCreated (s s' : Server) : Prop :=
  ∀ t' ∈ s'.tasks, ∀ p, t'.created = some p → ∃ t ∈ s.tasks, t.created = some p

/-- What a step does to the containers and to the launches under way. -/
inductive Launches (s s' : Server) : Prop
  | calm (hl : KeepsLaunching s s') (hcreated : KeepsCreated s s')
      (hc : Calmer s.containers s'.containers)
  | create (hl : KeepsLaunching s s') (c : Container)
      (hcreated : ∀ t' ∈ s'.tasks, ∀ p, t'.created = some p →
        p = (c.logID, c.id) ∨ ∃ t ∈ s.tasks, t.created = some p)
      (hphase : c.phase = .created) (hnew : ∀ x ∈ s.containers, x.id ≠ c.id)
      (hc : s'.containers = c :: s.containers)
  | start (hl : KeepsLaunching s s') (hcreated : KeepsCreated s s') (logID : Uuid)
      (containerID : String)
      (ht : ∃ t ∈ s.tasks, t.launching = some logID ∧ t.created = some (logID, containerID))
      (hc : s'.containers = s.containers.map (Container.start containerID))

theorem keepsLaunching_pooled {i : Nat} {t t' : Task} {jobs : List ScrapeJob}
    (ht : s.tasks[i]? = some t) (htasks : s'.tasks = pooled s.tasks i t' (jobs.map ScrapeJob.task))
    (h : ∀ L, t'.launching = some L → t.launching = some L ∨ L ∉ s.drawn) : KeepsLaunching s s' := by
  rw [KeepsLaunching, htasks]
  refine forall_pooled (fun u hu L hL => .inl ⟨u, hu, hL⟩) ?_ ?_
  · intro L hL
    cases h L hL with
    | inl hbefore => exact .inl ⟨t, mem_of_getElem?_pool ht, hbefore⟩
    | inr hfresh => exact .inr hfresh
  · intro u hu L hL
    obtain ⟨job, _, rfl⟩ := List.mem_map.mp hu
    cases hL

theorem keepsCreated_pooled {i : Nat} {t t' : Task} {jobs : List ScrapeJob}
    (ht : s.tasks[i]? = some t) (htasks : s'.tasks = pooled s.tasks i t' (jobs.map ScrapeJob.task))
    (h : ∀ p, t'.created = some p → t.created = some p) : KeepsCreated s s' := by
  rw [KeepsCreated, htasks]
  refine forall_pooled (fun u hu p hp => ⟨u, hu, hp⟩) ?_ ?_
  · intro p hp
    exact ⟨t, mem_of_getElem?_pool ht, h p hp⟩
  · intro u hu p hp
    obtain ⟨job, _, rfl⟩ := List.mem_map.mp hu
    cases hp

theorem launches_append {ts : List Task} (htasks : s'.tasks = s.tasks ++ ts)
    (hts : ∀ t ∈ ts, t.launching = none ∧ t.created = none)
    (hc : Calmer s.containers s'.containers) : Launches s s' := by
  refine .calm ?_ ?_ hc
  · rw [KeepsLaunching, htasks, List.forall_mem_append]
    refine ⟨fun u hu L hL => .inl ⟨u, hu, hL⟩, fun u hu L hL => ?_⟩
    rw [(hts u hu).1] at hL
    cases hL
  · rw [KeepsCreated, htasks, List.forall_mem_append]
    refine ⟨fun u hu p hp => ⟨u, hu, hp⟩, fun u hu p hp => ?_⟩
    rw [(hts u hu).2] at hp
    cases hp

theorem launches_run {i : Nat} {o : Outcome} (h : s.step env (.run i o) = some s') : Launches s s' := by
  obtain ⟨t, w, t', jobs, ht, hrun, rfl⟩ := step_run h
  by_cases hscrape : ∃ job pc, t = .scrape job pc
  · obtain ⟨job, pc, rfl⟩ := hscrape
    obtain ⟨⟨w₁, job', pc'⟩, hr, heq⟩ := Option.map_eq_some_iff.mp hrun
    cases heq
    cases scrapeForUser_advances hr with
    | other hc hl hcreated =>
      refine .calm (keepsLaunching_pooled ht rfl hl) (keepsCreated_pooled ht rfl hcreated) ?_
      show Calmer s.containers w.containers
      rw [hc]
      exact .refl _
    | create c hlog hphase hnew hc =>
      refine .create (keepsLaunching_pooled ht rfl fun _ hL => .inl hL) c ?_ hphase hnew hc
      refine forall_pooled (fun u hu p hp => .inr ⟨u, hu, hp⟩) ?_ (by simp)
      intro p hp
      cases hp
      exact .inl (by rw [hlog])
    | @start logID containerID hc =>
      exact .start (keepsLaunching_pooled ht rfl (by simp [Task.launching, ScrapePc.launching]))
        (keepsCreated_pooled ht rfl (by simp [Task.created, ScrapePc.created])) logID containerID
        ⟨_, mem_of_getElem?_pool ht, rfl, rfl⟩ hc
  · have hne : ∀ job pc, t ≠ .scrape job pc := fun job pc heq => hscrape ⟨job, pc, heq⟩
    obtain ⟨hl, hcreated⟩ := request_stays hrun hne
    refine .calm (keepsLaunching_pooled ht rfl (by simp [hl]))
      (keepsCreated_pooled ht rfl (by simp [hcreated])) ?_
    show Calmer s.containers w.containers
    rw [(runTask_containers hrun hne).1]
    exact .refl _

theorem launches_step (h : s.step env a = some s') : Launches s s' := by
  cases a with
  | run i o => exact launches_run h
  | schedule o =>
    obtain ⟨w, sch, jobs, hrun, rfl⟩ := step_schedule h
    refine launches_append rfl ?_ ?_
    · intro t ht
      obtain ⟨job, _, rfl⟩ := List.mem_map.mp ht
      exact ⟨rfl, rfl⟩
    · show Calmer s.containers w.containers
      cases runScheduler_kills hrun with
      | inl hsame =>
        rw [hsame]
        exact .refl _
      | inr hkill =>
        obtain ⟨id, hkill⟩ := hkill
        rw [hkill]
        exact calmer_kill id s.containers
  | arrive r =>
    cases h
    refine launches_append rfl ?_ (calmer_report r.reports s.containers)
    intro t ht
    rw [List.mem_singleton.mp ht]
    cases r <;> exact ⟨rfl, rfl⟩
  | containerExit id =>
    cases h
    exact launches_append (List.append_nil _).symm (by simp) (calmer_exit id s.containers)
  | advance d | cleanupPins | sweepLimiters =>
    cases h
    exact launches_append (List.append_nil _).symm (by simp) (.refl _)

def OwnsContainers (s : Server) : Prop :=
  ∀ t ∈ s.tasks, ∀ logID containerID, t.created = some (logID, containerID) →
    (∃ c ∈ s.containers, c.id = containerID) ∧
      ∀ c ∈ s.containers, c.id = containerID → c.logID = logID

theorem ownsContainers_map {f : Container → Container}
    (hf : ∀ c, (f c).id = c.id ∧ (f c).logID = c.logID) (hcreated : KeepsCreated s s')
    (hc : s'.containers = s.containers.map f) (hs : s.OwnsContainers) : s'.OwnsContainers := by
  intro t' ht' logID containerID hp
  obtain ⟨t, ht, hbefore⟩ := hcreated t' ht' _ hp
  obtain ⟨⟨c, hmem, hid⟩, hall⟩ := hs t ht logID containerID hbefore
  rw [hc]
  refine ⟨⟨f c, List.mem_map_of_mem hmem, (hf c).1.trans hid⟩, ?_⟩
  intro x hx hxid
  obtain ⟨y, hy, rfl⟩ := List.mem_map.mp hx
  rw [(hf y).2]
  exact hall y hy ((hf y).1.symm.trans hxid)

theorem start_same (containerID : String) (c : Container) :
    (c.start containerID).id = c.id ∧ (c.start containerID).logID = c.logID := by
  unfold Container.start
  split <;> exact ⟨rfl, rfl⟩

theorem ownsContainers_step (hs : s.OwnsContainers) (h : s.step env a = some s') :
    s'.OwnsContainers := by
  cases launches_step h with
  | calm _ hcreated hc =>
    obtain ⟨f, hf, hc⟩ := hc
    exact ownsContainers_map (fun c => ⟨(hf c).1, (hf c).2.1⟩) hcreated hc hs
  | start _ hcreated logID containerID _ hc =>
    exact ownsContainers_map (start_same containerID) hcreated hc hs
  | create _ c hcreated _ hnew hc =>
    intro t' ht' logID containerID hp
    rw [hc]
    cases hcreated t' ht' _ hp with
    | inl hthis =>
      cases hthis
      refine ⟨⟨c, List.mem_cons_self, rfl⟩, ?_⟩
      intro x hx hid
      cases List.mem_cons.mp hx with
      | inl heq => rw [heq]
      | inr hold => exact absurd hid (hnew x hold)
    | inr hbefore =>
      obtain ⟨t, ht, hp⟩ := hbefore
      obtain ⟨⟨x, hx, hid⟩, hall⟩ := hs t ht logID containerID hp
      refine ⟨⟨x, List.mem_cons_of_mem _ hx, hid⟩, ?_⟩
      intro y hy hyid
      cases List.mem_cons.mp hy with
      | inl heq =>
        subst heq
        exact absurd (hid.trans hyid.symm) (hnew x hx)
      | inr hold => exact hall y hold hyid

/-- The log is known, nobody is launching it and no container of it runs. -/
structure Stopped (s : Server) (L : Uuid) : Prop where
  drawn : L ∈ s.drawn
  launched : ∀ t ∈ s.tasks, t.launching ≠ some L
  exited : ∀ c ∈ s.containers, c.logID = L → c.phase ≠ .running

theorem launched_step (hs : s.Stopped L) (hl : KeepsLaunching s s') :
    ∀ t' ∈ s'.tasks, t'.launching ≠ some L := by
  intro t' ht' hlaunch
  cases hl t' ht' L hlaunch with
  | inl hbefore =>
    obtain ⟨t, ht, hlaunching⟩ := hbefore
    exact hs.launched t ht hlaunching
  | inr hfresh => exact hfresh hs.drawn

/-- What is stopped stays so: only a scrape that is launching a log starts a container of it. -/
theorem stopped_step (hown : s.OwnsContainers) (hs : s.Stopped L) (h : s.step env a = some s') :
    s'.Stopped L := by
  have hdrawn := drawn_step h hs.drawn
  cases launches_step h with
  | calm hl _ hc =>
    refine ⟨hdrawn, launched_step hs hl, ?_⟩
    obtain ⟨f, hf, hc⟩ := hc
    intro x hx hlog hrun
    rw [hc] at hx
    obtain ⟨c, hmem, rfl⟩ := List.mem_map.mp hx
    exact hs.exited c hmem ((hf c).2.1.symm.trans hlog) ((hf c).2.2 hrun)
  | create hl c _ hphase _ hc =>
    refine ⟨hdrawn, launched_step hs hl, ?_⟩
    intro x hx hlog hrun
    rw [hc] at hx
    cases List.mem_cons.mp hx with
    | inl heq =>
      subst heq
      rw [hphase] at hrun
      cases hrun
    | inr hold => exact hs.exited x hold hlog hrun
  | start hl _ logID containerID ht hc =>
    refine ⟨hdrawn, launched_step hs hl, ?_⟩
    intro x hx hlog hrun
    rw [hc] at hx
    obtain ⟨c, hmem, rfl⟩ := List.mem_map.mp hx
    rw [(start_same containerID c).2] at hlog
    by_cases hid : c.id = containerID
    · -- the container started is of a log that was being launched, so not of this one
      obtain ⟨t, ht, hlaunching, hcreated⟩ := ht
      have hthis := (hown t ht logID containerID hcreated).2 c hmem hid
      rw [← hthis, hlog] at hlaunching
      exact hs.launched t ht hlaunching
    · rw [Container.start, if_neg (by simpa using hid)] at hrun
      exact hs.exited c hmem hlog hrun

/-- ContainerKill on a running container stops it. -/
def killsRunning (s : Server) (a : Action) : Bool :=
  match a, s.scheduler with
  | .schedule o, .reap (e :: _) =>
    !o.dockerFails || s.containers.all fun c => c.id != e.containerID || c.phase != .running
  | _, _ => true

/-- When the reaper comes to a log, nobody is launching it any more, and a container of it
that runs is the one its row named. -/
def launchRecorded (s : Server) (a : Action) : Bool :=
  match a, s.scheduler with
  | .schedule _, .reap (e :: _) =>
    (s.tasks.all fun t => t.launching != some e.logID) &&
      s.containers.all fun c => c.logID != e.logID || c.phase != .running ||
        (c.id == e.containerID && c.id != "")
  | _, _ => true

def reapsLaunched (s : Server) (a : Action) : Bool := s.killsRunning a && s.launchRecorded a

theorem stopped_of_reap {e : StaleEntry} {rest : List StaleEntry} {o : Outcome}
    (hok : s.reapsLaunched (.schedule o) = true) (hsch : s.scheduler = .reap (e :: rest))
    (hdrawn : e.logID ∈ s.drawn) (h : s.step env (.schedule o) = some s') :
    s'.scheduler = .reapMark e rest ∧ s'.Stopped e.logID := by
  simp only [reapsLaunched, killsRunning, launchRecorded, hsch, Bool.and_eq_true, Bool.or_eq_true,
    Bool.not_eq_true', List.all_eq_true, bne_iff_ne, beq_iff_eq] at hok
  obtain ⟨hkill, hlaunched, hnamed⟩ := hok
  have hdrawn' := drawn_step h hdrawn
  obtain ⟨w, sch, jobs, hrun, rfl⟩ := step_schedule h
  rw [hsch] at hrun
  cases runScheduler_cases hrun with
  | notKilled hskip =>
    refine ⟨rfl, hdrawn', by simpa using hlaunched, ?_⟩
    intro c hc hlog hrunning
    rcases hnamed c hc with (hne | hne) | ⟨hid, hname⟩
    · exact hne hlog
    · exact hne hrunning
    · cases hskip with
      | inl hempty => exact hname (hid.trans hempty)
      | inr hfails =>
        cases hkill with
        | inl hworks =>
          rw [hfails] at hworks
          cases hworks
        | inr hnone =>
          cases hnone c hc with
          | inl hne => exact hne hid
          | inr hne => exact hne hrunning
  | killed =>
    refine ⟨rfl, hdrawn', by simpa using hlaunched, ?_⟩
    intro x hx hlog hrunning
    obtain ⟨c, hc, rfl⟩ := List.mem_map.mp hx
    split at hrunning
    · cases hrunning
    · rename_i hmiss
      split at hlog
      · rename_i hhit
        exact hmiss hhit
      · rcases hnamed c hc with (hne | hne) | ⟨hid, _⟩
        · exact hne hlog
        · exact hne hrunning
        · exact hmiss (by simp [hid, hrunning])

theorem entry_drawn (hl : Lineage db₀ s) {e : StaleEntry} {rest : List StaleEntry}
    (hsch : s.scheduler = .reap (e :: rest)) : e.logID ∈ s.drawn := by
  have hlawful := hl.workers s.scheduler.worker (by simp [workers])
  obtain ⟨k, hk, hid, _⟩ := hlawful.refs e.ref (by simp [Worker.refs, hsch, Scheduler.worker])
  rw [show e.logID = k.id from hid.symm]
  exact hl.drawn k hk

/-- Between the kill and the UPDATE the log at hand is stopped. -/
structure ReapsStopped (s : Server) : Prop where
  owns : s.OwnsContainers
  marking : ∀ e rest, s.scheduler = .reapMark e rest → s.Stopped e.logID

theorem reapsStopped_step (hl : Lineage db₀ s) (hok : s.reapsLaunched a = true)
    (hs : s.ReapsStopped) (h : s.step env a = some s') : s'.ReapsStopped := by
  refine ⟨ownsContainers_step hs.owns h, ?_⟩
  intro e rest hsch'
  by_cases hstays : s.scheduler = .reapMark e rest
  · exact stopped_step hs.owns (hs.marking e rest hstays) h
  · cases a with
    | schedule o =>
      obtain ⟨w, sch, jobs, hrun, heq⟩ := step_schedule h
      subst heq
      have hmarks : sch = .reapMark e rest := hsch'
      rw [hmarks] at hrun
      have hsch : s.scheduler = .reap (e :: rest) := reap_of_reapMark hrun
      exact (stopped_of_reap hok hsch (entry_drawn hl hsch) h).2
    | run i o =>
      obtain ⟨_, _, _, _, _, _, rfl⟩ := step_run h
      exact absurd hsch' hstays
    | _ =>
      cases h
      exact absurd hsch' hstays

theorem reapsStopped_of_reaches (h : Reaches (step env) reapsLaunched (boot db₀ start) s) :
    s.ReapsStopped := by
  have hboth : Lineage db₀ s ∧ s.ReapsStopped := by
    refine h.invariant (I := fun s => Lineage db₀ s ∧ s.ReapsStopped) ⟨lineage_boot, ?_⟩ ?_
    · refine ⟨?_, ?_⟩
      · intro t ht
        cases ht
      · intro e rest hsch
        cases hsch
    · intro t a t' hok ht ha
      exact ⟨lineage_step ht.1 ha, reapsStopped_step ht.1 hok ht.2 ha⟩
  exact hboth.2

/-- In a run where the reaper meets only launches that are over and recorded, no container
of a log runs from the moment the reaper marks it. -/
theorem reaped_stopped (h : Reaches (step env) reapsLaunched (boot db₀ start) s) {e : StaleEntry}
    {rest : List StaleEntry} (hsch : s.scheduler = .reapMark e rest) {o : Outcome}
    (hmark : s.step env (.schedule o) = some s₁) (hrun : Reaches (step env) anyStep s₁ s₂) :
    ∀ c ∈ s₂.containers, c.logID = e.logID → c.phase ≠ .running := by
  have hs := reapsStopped_of_reaches h
  have hend : s₂.OwnsContainers ∧ s₂.Stopped e.logID := by
    refine hrun.invariant (I := fun t => t.OwnsContainers ∧ t.Stopped e.logID)
      ⟨ownsContainers_step hs.owns hmark, stopped_step hs.owns (hs.marking e rest hsch) hmark⟩ ?_
    intro t a t' _ ht ha
    exact ⟨ownsContainers_step ht.1 ha, stopped_step ht.1 ht.2 ha⟩
  exact hend.2.exited

def adminDB : DB :=
  { DB.empty with
    users := ⟨[{ sampleUser with isAdmin := true }], List.pairwise_singleton _ _⟩
    sessions := sessionDB.sessions }

def triggered : List Action :=
  .arrive (.authed "tok" (.triggerScrape (.ok "u1"))) :: statements 0 1

def reapLate : List Action := .advance (121 * 1000000000) :: polls 11

def hanging : Server :=
  after (step sampleEnv) reapsLaunched (boot adminDB 0)
    (triggered ++ launch 1 "log1" "key1" "c1" ++ reapLate)

def slowCreate : Server :=
  after (step sampleEnv) killsRunning (boot adminDB 0)
    (triggered ++ (launch 1 "log1" "key1" "c1").take 4 ++ reapLate)

def markedEarly : Server := after (step sampleEnv) killsRunning slowCreate (polls 1)

def startedLate : Server :=
  after (step sampleEnv) killsRunning markedEarly (((launch 1 "log1" "key1" "c1").drop 4).take 3)

def entryAt (s : Server) : Option StaleEntry :=
  match s.scheduler with
  | .reapMark e [] => some e
  | _ => none

theorem scheduler_of_entryAt {e : StaleEntry} (h : s.entryAt = some e) :
    s.scheduler = .reapMark e [] := by
  unfold entryAt at h
  split at h
  · rename_i hsch
    cases h
    exact hsch
  · cases h

theorem reaped_stopped_hanging : ∃ s₁, hanging.step sampleEnv (.schedule {}) = some s₁ ∧
    ∀ s₂, Reaches (step sampleEnv) anyStep s₁ s₂ →
      ∀ c ∈ s₂.containers, c.logID = "log1" → c.phase ≠ .running := by
  have hreach : Reaches (step sampleEnv) reapsLaunched (boot adminDB 0) hanging :=
    reaches_after (by decide +kernel)
  have hentry : hanging.entryAt = some ⟨"log1", "u1", "c1"⟩ := by decide +kernel
  obtain ⟨s₁, hmark⟩ := Option.isSome_iff_exists.mp
    (show (hanging.step sampleEnv (.schedule {})).isSome = true by decide +kernel)
  exact ⟨s₁, hmark, fun s₂ hrun => reaped_stopped hreach (scheduler_of_entryAt hentry) hmark hrun⟩

/-- The reaper marks a log whose container is still being created; it runs afterwards. -/
theorem reaped_started : ∃ s e s₁ s₂, Reaches (step sampleEnv) killsRunning (boot adminDB 0) s ∧
    s.scheduler = .reapMark e [] ∧ s.step sampleEnv (.schedule {}) = some s₁ ∧
    Reaches (step sampleEnv) killsRunning s₁ s₂ ∧
    ∃ c ∈ s₂.containers, c.logID = e.logID ∧ c.phase = .running := by
  have hreach : Reaches (step sampleEnv) killsRunning (boot adminDB 0) slowCreate :=
    reaches_after (by decide +kernel)
  have hentry : slowCreate.entryAt = some ⟨"log1", "u1", ""⟩ := by decide +kernel
  have hlate : Reaches (step sampleEnv) killsRunning markedEarly startedLate :=
    reaches_after (by decide +kernel)
  have hrunning :
      startedLate.containers.any (fun c => c.logID == "log1" && c.phase == .running) = true := by
    decide +kernel
  obtain ⟨c, hc, hboth⟩ := List.any_eq_true.mp hrunning
  simp only [Bool.and_eq_true, beq_iff_eq] at hboth
  exact ⟨slowCreate, _, markedEarly, startedLate, hreach, scheduler_of_entryAt hentry, rfl, hlate, c,
    hc, hboth⟩

end Server
end ScheduleSync
