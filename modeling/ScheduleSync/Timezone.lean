import ScheduleSync.ConcurrencyCap
import ScheduleSync.Ingestion
import ScheduleSync.Lineage
import ScheduleSync.Writes

/-! The timezone of a scrape. runScrapeContainer reads the user's row and passes what it
finds to the container; scrapeSubmitShifts reads the row again, minutes later, to turn the
container's local timestamps into instants. What is passed on in between is one name for
each log, so the two agree exactly when the two reads do. -/
namespace ScheduleSync

def Env.tzName (env : Env) (u : Option User) : String :=
  match u with
  | some u => if (env.loadLocation u.timezone).isSome then u.timezone else "UTC"
  | none => "UTC"

theorem Env.loadLocation_tzName {env : Env} (hutc : env.loadLocation "UTC" = some .utc)
    (u : Option User) : env.loadLocation (env.tzName u) = some (env.locationOf u) := by
  cases u with
  | none => simp [Env.tzName, Env.locationOf, hutc]
  | some u =>
    simp only [Env.tzName, Env.locationOf]
    cases h : env.loadLocation u.timezone with
    | none => simp [hutc]
    | some loc => simp [h]

def ScrapePc.zone : ScrapePc → Option (Uuid × Option String)
  | .readTimezone logID _ => some (logID, none)
  | .pullImage logID _ tzName => some (logID, some tzName)
  | .createContainer logID _ tzName => some (logID, some tzName)
  | _ => none

def Task.zone : Task → Option (Uuid × Option String)
  | .scrape _ pc => pc.zone
  | _ => none

def SameZones (cs cs' : List Container) : Prop :=
  ∀ c' ∈ cs', ∃ c ∈ cs, c.logID = c'.logID ∧ c.timezone = c'.timezone

theorem SameZones.refl (cs : List Container) : SameZones cs cs := fun c hc => ⟨c, hc, rfl, rfl⟩

theorem SameZones.map (cs : List Container) {f : Container → Container}
    (hf : ∀ c, (f c).logID = c.logID ∧ (f c).timezone = c.timezone) : SameZones cs (cs.map f) := by
  intro c' hc'
  obtain ⟨c, hc, rfl⟩ := List.mem_map.mp hc'
  exact ⟨c, hc, (hf c).1.symm, (hf c).2.symm⟩

/-- A step of a scrape, as far as it is about timezones. -/
inductive ScrapePc.Zoned (w w' : World) : ScrapePc → ScrapePc → Prop
  | carry {pc pc' : ScrapePc} (hc : SameZones w.containers w'.containers)
      (hz : ∀ z, pc'.zone = some z → pc.zone = some z) : Zoned w w' pc pc'
  | draw {logID : Uuid} {key : String} (hnew : logID ∉ w.drawn) (hdrawn : logID ∈ w'.drawn)
      (hc : w'.containers = w.containers) : Zoned w w' .insertLog (.readTimezone logID key)
  | read {logID : Uuid} {key tzName : String} (hc : w'.containers = w.containers) :
      Zoned w w' (.readTimezone logID key) (.pullImage logID key tzName)
  | create {logID : Uuid} {key tzName : String} (c : Container) (hlog : c.logID = logID)
      (hzone : c.timezone = tzName) (hc : w'.containers = c :: w.containers) :
      Zoned w w' (.createContainer logID key tzName) (.saveContainerID logID c.id)

theorem scrapeForUser_zoned {env : Env} {o : Outcome} {w w' : World} {job job' : ScrapeJob}
    {pc pc' : ScrapePc} (h : scrapeForUser env o w job pc = some (w', job', pc')) :
    pc.Zoned w w' pc' := by
  have hdropped : ∀ db, SameZones w.containers (w.execDropped o db).containers := by
    intro db
    rw [execDropped_containers]
    exact .refl _
  cases scrapeForUser_cases h with
  | inserted hid => exact .draw hid (by simp) rfl
  | readTimezone => exact .read rfl
  | pullSkipped | pulled => exact .carry (.refl _) fun _ hz => hz
  | @created logID key tzName =>
    exact .create ⟨o.containerID, logID, key, tzName, .created, false, false⟩ rfl rfl rfl
  | started =>
    refine .carry (.map _ fun c => ?_) (by simp [ScrapePc.zone])
    split <;> exact ⟨rfl, rfl⟩
  | saveContainerID => exact .carry (hdropped _) (by simp [ScrapePc.zone])
  | retried | gaveUp => exact .carry (hdropped _) (by simp [ScrapePc.zone])
  | scheduleNext =>
    refine .carry ?_ (by simp [ScrapePc.zone])
    rw [scheduleNext_containers]
    exact .refl _
  | _ => exact .carry (.refl _) (by simp [ScrapePc.zone])

namespace Server
variable {env : Env} {s s' s₀ s₁ s₂ : Server} {a : Action} {L : Uuid} {tz : String}

def zoneAt (s : Server) (i : Nat) : Option (Uuid × Option String) := s.tasks[i]?.bind Task.zone

theorem zoneAt_eq {i : Nat} {t : Task} (ht : s.tasks[i]? = some t) : s.zoneAt i = t.zone := by
  rw [zoneAt, ht, Option.bind_some]

/-- The tasks other than `i` prepare no other containers than before. -/
def OthersKeepZones (i : Nat) (s s' : Server) : Prop :=
  ∀ j, j ≠ i → ∀ z, s'.zoneAt j = some z → s.zoneAt j = some z

inductive ZoneStep (s s' : Server) : Prop
  | carry (hc : SameZones s.containers s'.containers)
      (hz : ∀ j z, s'.zoneAt j = some z → s.zoneAt j = some z)
  | draw (i : Nat) (L : Uuid) (hnew : L ∉ s.drawn) (hdrawn : L ∈ s'.drawn)
      (hz : s'.zoneAt i = some (L, none)) (hothers : OthersKeepZones i s s')
      (hc : s'.containers = s.containers)
  | read (i : Nat) (L : Uuid) (tzName : String) (hbefore : s.zoneAt i = some (L, none))
      (hz : s'.zoneAt i = some (L, some tzName)) (hothers : OthersKeepZones i s s')
      (hc : s'.containers = s.containers)
  | create (i : Nat) (c : Container) (hbefore : s.zoneAt i = some (c.logID, some c.timezone))
      (hz : s'.zoneAt i = none) (hothers : OthersKeepZones i s s')
      (hc : s'.containers = c :: s.containers)

theorem othersKeepZones_pooled {i : Nat} {t' : Task} {jobs : List ScrapeJob}
    (htasks : s'.tasks = pooled s.tasks i t' (jobs.map ScrapeJob.task)) : OthersKeepZones i s s' := by
  intro j hne z hz
  obtain ⟨u, hu, hzone⟩ := Option.bind_eq_some_iff.mp hz
  rw [htasks] at hu
  cases of_getElem?_pooled_ne hu hne with
  | inl hold => rw [zoneAt, hold, Option.bind_some, hzone]
  | inr hnew =>
    obtain ⟨job, _, rfl⟩ := List.mem_map.mp hnew
    cases hzone

theorem zoneStep_append {ts : List Task} (htasks : s'.tasks = s.tasks ++ ts)
    (hts : ∀ t ∈ ts, t.zone = none) (hc : SameZones s.containers s'.containers) : ZoneStep s s' := by
  refine .carry hc fun j z hz => ?_
  obtain ⟨u, hu, hzone⟩ := Option.bind_eq_some_iff.mp hz
  rw [htasks, List.getElem?_append] at hu
  split at hu
  · rw [zoneAt, hu, Option.bind_some, hzone]
  · rw [hts u (List.mem_of_getElem? hu)] at hzone
    cases hzone

theorem zoneStep_run {i : Nat} {o : Outcome} (h : s.step env (.run i o) = some s') : ZoneStep s s' := by
  obtain ⟨t, w, t', jobs, ht, hrun, rfl⟩ := step_run h
  have hothers : OthersKeepZones i s
      { s with toWorld := w, tasks := pooled s.tasks i t' (jobs.map ScrapeJob.task) } :=
    othersKeepZones_pooled rfl
  have hself : Server.zoneAt
      { s with toWorld := w, tasks := pooled s.tasks i t' (jobs.map ScrapeJob.task) } i = t'.zone :=
    zoneAt_eq (getElem?_pooled_self ht _ _)
  have hcarry : SameZones s.containers w.containers → (∀ z, t'.zone = some z → t.zone = some z) →
      ZoneStep s { s with toWorld := w, tasks := pooled s.tasks i t' (jobs.map ScrapeJob.task) } := by
    refine fun hc hz => .carry hc fun j z hj => ?_
    by_cases hji : j = i
    · subst hji
      rw [zoneAt_eq ht]
      exact hz z (hself.symm.trans hj)
    · exact hothers j hji z hj
  by_cases hscrape : ∃ job pc, t = .scrape job pc
  · obtain ⟨job, pc, rfl⟩ := hscrape
    obtain ⟨⟨w₁, job', pc'⟩, hr, heq⟩ := Option.map_eq_some_iff.mp hrun
    cases heq
    cases scrapeForUser_zoned hr with
    | carry hc hz => exact hcarry hc hz
    | @draw logID key hnew hdrawn hc => exact .draw i logID hnew hdrawn hself hothers hc
    | @read logID key tzName hc => exact .read i logID tzName (zoneAt_eq ht) hself hothers hc
    | create c hlog hzone hc =>
      refine .create i c ?_ hself hothers hc
      rw [zoneAt_eq ht, hlog, hzone]
      rfl
  · have hne : ∀ job pc, t ≠ .scrape job pc := fun job pc heq => hscrape ⟨job, pc, heq⟩
    refine hcarry ?_ ?_
    · rw [(runTask_containers hrun hne).1]
      exact .refl _
    · cases runTask_cases hrun with
      | scrape => exact absurd rfl (hne _ _)
      | begun hb => cases AuthedRequest.begin_cases hb <;> simp [Task.zone]
      | _ => simp [Task.zone]

theorem zoneStep_of_step (h : s.step env a = some s') : ZoneStep s s' := by
  cases a with
  | run i o => exact zoneStep_run h
  | schedule o =>
    obtain ⟨w, sch, jobs, hrun, rfl⟩ := step_schedule h
    refine zoneStep_append rfl ?_ ?_
    · intro t ht
      obtain ⟨job, _, rfl⟩ := List.mem_map.mp ht
      rfl
    · show SameZones s.containers w.containers
      cases runScheduler_kills hrun with
      | inl hsame =>
        rw [hsame]
        exact .refl _
      | inr hkill =>
        obtain ⟨id, hkill⟩ := hkill
        rw [hkill]
        refine .map _ fun c => ?_
        split <;> exact ⟨rfl, rfl⟩
  | arrive r =>
    cases h
    refine zoneStep_append rfl ?_ (.map _ fun c => ?_)
    · intro t ht
      rw [List.mem_singleton.mp ht]
      cases r <;> rfl
    · split <;> exact ⟨rfl, rfl⟩
  | containerExit id =>
    cases h
    refine zoneStep_append (List.append_nil _).symm (by simp) (.map _ fun c => ?_)
    split <;> exact ⟨rfl, rfl⟩
  | advance d | cleanupPins | sweepLimiters =>
    cases h
    exact zoneStep_append (List.append_nil _).symm (by simp) (.refl _)

/-- Before a log has a container, one task prepares it. -/
structure Prepared (s : Server) : Prop where
  drawn : ∀ i L z, s.zoneAt i = some (L, z) → L ∈ s.drawn
  known : ∀ c ∈ s.containers, c.logID ∈ s.drawn
  pending : ∀ i L z, s.zoneAt i = some (L, z) → ∀ c ∈ s.containers, c.logID ≠ L
  sole : ∀ i j L z z', s.zoneAt i = some (L, z) → s.zoneAt j = some (L, z') → i = j

theorem prepared_boot {db : DB} {now : Int} : (boot db now).Prepared := by
  refine ⟨?_, fun c hc => absurd hc List.not_mem_nil, ?_, ?_⟩
  · intro i L z hz
    simp [zoneAt, boot] at hz
  · intro i L z _ c hc
    cases hc
  · intro i j L z z' hz
    simp [zoneAt, boot] at hz

theorem Prepared.kept (hs : s.Prepared) (hdrawn : ∀ id ∈ s.drawn, id ∈ s'.drawn)
    (hzones : ∀ i L z, s'.zoneAt i = some (L, z) → ∃ z₀, s.zoneAt i = some (L, z₀))
    (hc : SameZones s.containers s'.containers) : s'.Prepared := by
  refine ⟨?_, ?_, ?_, ?_⟩
  · intro i L z hi
    obtain ⟨z₀, h₀⟩ := hzones i L z hi
    exact hdrawn L (hs.drawn i L z₀ h₀)
  · intro c' hc'
    obtain ⟨c, hmem, hlog, _⟩ := hc c' hc'
    exact hlog ▸ hdrawn _ (hs.known c hmem)
  · intro i L z hi c' hc'
    obtain ⟨z₀, h₀⟩ := hzones i L z hi
    obtain ⟨c, hmem, hlog, _⟩ := hc c' hc'
    exact hlog ▸ hs.pending i L z₀ h₀ c hmem
  · intro i j L z z' hi hj
    obtain ⟨z₀, h₀⟩ := hzones i L z hi
    obtain ⟨z₁, h₁⟩ := hzones j L z' hj
    exact hs.sole i j L z₀ z₁ h₀ h₁

theorem Prepared.draw {i : Nat} (hs : s.Prepared) (hdrawn : ∀ id ∈ s.drawn, id ∈ s'.drawn)
    (hnew : L ∉ s.drawn) (hin : L ∈ s'.drawn) (hz : s'.zoneAt i = some (L, none))
    (hothers : OthersKeepZones i s s') (hc : s'.containers = s.containers) : s'.Prepared := by
  have hsole : ∀ j z, s'.zoneAt j = some (L, z) → j = i := by
    intro j z hj
    by_contra hji
    exact hnew (hs.drawn j L z (hothers j hji _ hj))
  have hcases : ∀ j M z, s'.zoneAt j = some (M, z) → (j = i ∧ M = L) ∨ s.zoneAt j = some (M, z) := by
    intro j M z hj
    by_cases hji : j = i
    · subst hji
      cases hz.symm.trans hj
      exact .inl ⟨rfl, rfl⟩
    · exact .inr (hothers j hji _ hj)
  refine ⟨?_, ?_, ?_, ?_⟩
  · intro j M z hj
    obtain ⟨_, rfl⟩ | hold := hcases j M z hj
    · exact hin
    · exact hdrawn M (hs.drawn j M z hold)
  · rw [hc]
    exact fun c hmem => hdrawn _ (hs.known c hmem)
  · rw [hc]
    intro j M z hj c hmem
    obtain ⟨_, rfl⟩ | hold := hcases j M z hj
    · rintro rfl
      exact hnew (hs.known c hmem)
    · exact hs.pending j M z hold c hmem
  · intro j k M z z' hj hk
    obtain ⟨rfl, rfl⟩ | hold := hcases j M z hj
    · exact (hsole k z' hk).symm
    · obtain ⟨rfl, rfl⟩ | hold' := hcases k M z' hk
      · exact hsole j z hj
      · exact hs.sole j k M z z' hold hold'

theorem Prepared.create {i : Nat} {c : Container} (hs : s.Prepared)
    (hdrawn : ∀ id ∈ s.drawn, id ∈ s'.drawn) (hbefore : s.zoneAt i = some (c.logID, some c.timezone))
    (hz : s'.zoneAt i = none) (hothers : OthersKeepZones i s s')
    (hc : s'.containers = c :: s.containers) : s'.Prepared := by
  have hne : ∀ {j M z}, s'.zoneAt j = some (M, z) → j ≠ i := by
    rintro j M z hj rfl
    rw [hz] at hj
    cases hj
  refine ⟨?_, ?_, ?_, ?_⟩
  · exact fun j M z hj => hdrawn M (hs.drawn j M z (hothers j (hne hj) _ hj))
  · rw [hc, List.forall_mem_cons]
    exact ⟨hdrawn _ (hs.drawn i _ _ hbefore), fun x hx => hdrawn _ (hs.known x hx)⟩
  · rw [hc]
    intro j M z hj
    have hj₀ := hothers j (hne hj) _ hj
    rw [List.forall_mem_cons]
    refine ⟨?_, hs.pending j M z hj₀⟩
    rintro rfl
    exact hne hj (hs.sole j i _ _ _ hj₀ hbefore)
  · intro j k M z z' hj hk
    exact hs.sole j k M z z' (hothers j (hne hj) _ hj) (hothers k (hne hk) _ hk)

theorem prepared_step (hs : s.Prepared) (h : s.step env a = some s') : s'.Prepared := by
  have hdrawn : ∀ id ∈ s.drawn, id ∈ s'.drawn := fun id hid => drawn_step h hid
  cases zoneStep_of_step h with
  | carry hc hz => exact hs.kept hdrawn (fun i L z hi => ⟨z, hz i _ hi⟩) hc
  | draw i L hnew hin hz hothers hc => exact hs.draw hdrawn hnew hin hz hothers hc
  | read i L tzName hbefore hz hothers hc =>
    refine hs.kept hdrawn ?_ (hc ▸ .refl _)
    intro j M z hj
    by_cases hji : j = i
    · subst hji
      cases hz.symm.trans hj
      exact ⟨_, hbefore⟩
    · exact ⟨z, hothers j hji _ hj⟩
  | create i c hbefore hz hothers hc => exact hs.create hdrawn hbefore hz hothers hc

theorem prepared_of_reaches {ok : Server → Action → Bool} {db : DB} {start : Int}
    (h : Reaches (step env) ok (boot db start) s) : s.Prepared :=
  h.invariant prepared_boot fun _ _ _ _ hs ha => prepared_step hs ha

/-- The timezone of the log has been read as `tz`, and all that is passed on is `tz`. -/
structure Passes (L : Uuid) (tz : String) (s : Server) : Prop where
  drawn : L ∈ s.drawn
  tasks : ∀ i z, s.zoneAt i = some (L, z) → z = some tz
  containers : ∀ c ∈ s.containers, c.logID = L → c.timezone = tz

theorem passes_step (hs : s.Passes L tz) (h : s.step env a = some s') : s'.Passes L tz := by
  have hdrawn := drawn_step h hs.drawn
  cases zoneStep_of_step h with
  | carry hc hz =>
    refine ⟨hdrawn, fun i z hi => hs.tasks i z (hz i _ hi), ?_⟩
    intro c' hc' hL
    obtain ⟨c, hmem, hlog, hzone⟩ := hc c' hc'
    exact hzone ▸ hs.containers c hmem (hlog.trans hL)
  | draw i M hnew _ hz hothers hc =>
    refine ⟨hdrawn, fun j z hj => ?_, by rw [hc]; exact hs.containers⟩
    by_cases hji : j = i
    · subst hji
      cases hz.symm.trans hj
      exact absurd hs.drawn hnew
    · exact hs.tasks j z (hothers j hji _ hj)
  | read i M tzName hbefore hz hothers hc =>
    refine ⟨hdrawn, fun j z hj => ?_, by rw [hc]; exact hs.containers⟩
    by_cases hji : j = i
    · subst hji
      cases hz.symm.trans hj
      cases hs.tasks j none hbefore
    · exact hs.tasks j z (hothers j hji _ hj)
  | create i c hbefore hz hothers hc =>
    refine ⟨hdrawn, fun j z hj => ?_, ?_⟩
    · refine hs.tasks j z (hothers j ?_ _ hj)
      rintro rfl
      rw [hz] at hj
      cases hj
    · rw [hc, List.forall_mem_cons]
      refine ⟨?_, hs.containers⟩
      rintro rfl
      exact Option.some.inj (hs.tasks i _ hbefore)

theorem passes_of_read {i : Nat} {o : Outcome} {job : ScrapeJob} {key : String} (hs : s.Prepared)
    (ht : s.tasks[i]? = some (.scrape job (.readTimezone L key)))
    (h : s.step env (.run i o) = some s') :
    s'.db = s.db ∧ s'.Passes L (env.tzName (World.select o (s.db.user job.userID))) := by
  have hzone : s.zoneAt i = some (L, none) := zoneAt_eq ht
  obtain ⟨w, t', jobs, hrun, rfl⟩ := step_task ht h
  cases hrun
  refine ⟨rfl, hs.drawn i L none hzone, fun j z hj => ?_, fun c hc hL => ?_⟩
  · by_cases hji : j = i
    · subst hji
      rw [zoneAt_eq (getElem?_pooled_self ht _ _)] at hj
      cases hj
      rfl
    · exact absurd (hs.sole j i L z none (othersKeepZones_pooled rfl j hji _ hj) hzone) hji
  · exact absurd hL (hs.pending i L none hzone c hc)

/-- The stored timezone of the user is as before. -/
def keepsTimezone (env : Env) (userID : Uuid) (s : Server) (a : Action) : Bool :=
  match s.step env a with
  | none => true
  | some s' => decide ((s'.db.user userID).map User.timezone = (s.db.user userID).map User.timezone)

theorem timezone_kept {userID : Uuid} (h : Reaches (step env) (keepsTimezone env userID) s s') :
    (s'.db.user userID).map User.timezone = (s.db.user userID).map User.timezone := by
  refine h.invariant (I := fun t => (t.db.user userID).map User.timezone =
    (s.db.user userID).map User.timezone) rfl ?_
  intro t a t' hok ht ha
  simp only [keepsTimezone, ha, decide_eq_true_eq] at hok
  exact hok.trans ht

theorem locationOf_congr {u u' : Option User} (h : u'.map User.timezone = u.map User.timezone) :
    env.locationOf u' = env.locationOf u := by
  cases u <;> cases u' <;> simp_all [Env.locationOf]

theorem same_user {db : DB} {start : Int} {i j : Nat} {job : ScrapeJob} {key key' : String}
    {userID : Uuid} {shifts : List CallbackShift} {ok : Server → Action → Bool}
    (hboot : Reaches (step env) anyStep (boot db start) s₀)
    (hread : s₀.tasks[i]? = some (.scrape job (.readTimezone L key)))
    (hrun : Reaches (step env) ok s₀ s₂)
    (hcallback : s₂.tasks[j]? = some (.submitShifts key' (.readTimezone L userID shifts))) :
    job.userID = userID := by
  have hl₀ := lineage_of_reaches hboot
  have hl₂ : Lineage db s₂ := hrun.invariant hl₀ fun _ _ _ _ hs ha => lineage_step hs ha
  obtain ⟨k, hk, hid, huser⟩ := known_of_task hl₀ hread List.mem_cons_self
  obtain ⟨k', hk', hid', huser'⟩ := known_of_task hl₂ hcallback List.mem_cons_self
  have hsame : k = k' := hl₂.eq_of_id (known_of_reaches hl₀ hrun hk) hk' (hid.trans hid'.symm)
  exact huser.symm.trans (hsame ▸ huser')

/-- The location a callback reads its timestamps in is that of the timezone passed to the
container exactly when the user's row gave the same location at both reads; so it is in every
run in which the stored timezone stays as it is from one read to the other. -/
theorem timezone_agrees {db : DB} {start : Int} {i j : Nat} {o o' : Outcome} {job : ScrapeJob}
    {key key' : String} {userID : Uuid} {shifts : List CallbackShift} {s₃ : Server} {c : Container}
    (hboot : Reaches (step env) anyStep (boot db start) s₀)
    (hutc : env.loadLocation "UTC" = some .utc)
    (hread : s₀.tasks[i]? = some (.scrape job (.readTimezone L key)))
    (hstep : s₀.step env (.run i o) = some s₁) (hrun : Reaches (step env) anyStep s₁ s₂)
    (hcallback : s₂.tasks[j]? = some (.submitShifts key' (.readTimezone L userID shifts)))
    (hstep' : s₂.step env (.run j o') = some s₃) (hc : c ∈ s₂.containers) (hL : c.logID = L) :
    ∃ g, s₃.tasks[j]? = some (.submitShifts key' (.count g)) ∧
      (env.loadLocation c.timezone = some g.loc ↔
        env.locationOf (World.select o (s₀.db.user userID)) =
          env.locationOf (World.select o' (s₂.db.user userID))) ∧
      (o.sqlFails = false → o'.sqlFails = false →
        Reaches (step env) (keepsTimezone env userID) s₁ s₂ →
        env.loadLocation c.timezone = some g.loc) := by
  have hall : Reaches (step env) anyStep s₀ s₂ := .head ⟨_, rfl, hstep⟩ hrun
  obtain rfl := same_user hboot hread hall hcallback
  obtain ⟨hdb, hpasses₁⟩ := passes_of_read (prepared_of_reaches hboot) hread hstep
  have hpasses₂ := hrun.invariant hpasses₁ fun _ _ _ _ hs ha => passes_step hs ha
  obtain ⟨pc', hr, ht'⟩ := submitShifts_step hcallback hstep'
  obtain ⟨_, rfl⟩ := Prod.mk.inj (Option.some.inj hr)
  have hzone := hpasses₂.containers c hc hL
  have hiff : env.loadLocation c.timezone =
        some (env.locationOf (World.select o' (s₂.db.user job.userID))) ↔
      env.locationOf (World.select o (s₀.db.user job.userID)) =
        env.locationOf (World.select o' (s₂.db.user job.userID)) := by
    rw [hzone, Env.loadLocation_tzName hutc, Option.some.injEq]
  refine ⟨_, ht', hiff, fun hsql hsql' hkept => hiff.mpr ?_⟩
  have hsame := timezone_kept hkept
  rw [hdb] at hsame
  simp only [World.select, hsql, hsql']
  exact (locationOf_congr hsame).symm

def newYork : Location := ⟨fun _ => ⟨-18000, none, none⟩⟩

def tokyo : Location := ⟨fun _ => ⟨32400, none, none⟩⟩

def travelEnv : Env :=
  { sampleEnv with
    loadLocation := fun s =>
      if s = "UTC" then some .utc
      else if s = "America/New_York" then some newYork
      else if s = "Asia/Tokyo" then some tokyo
      else none }

def travelDB : DB :=
  { sessionDB with users := ⟨[{ sampleUser with timezone := "America/New_York" }], List.pairwise_singleton _ _⟩ }

def winterShift : CallbackShift := sampleShift "2026-01-15T09:00:00" "2026-01-15T13:00:00"

def beforeZoneRead : Server :=
  after (step travelEnv) anyStep (boot travelDB 0) (firstPoll ++ (launch 0 "log1" "key1" "c1").take 2)

def afterZoneRead : Server := after (step travelEnv) anyStep beforeZoneRead (statements 0 1)

def zoneUpload : Server :=
  after (step travelEnv) (keepsTimezone travelEnv "u1") afterZoneRead
    ((launch 0 "log1" "key1" "c1").drop 3 ++
      .arrive (.submitShifts "key1" (.ok [winterShift])) :: statements 1 1)

theorem timezone_agrees_at_home : ∃ s₃ c g, c ∈ zoneUpload.containers ∧ c.logID = "log1" ∧
    c.timezone = "America/New_York" ∧ zoneUpload.step travelEnv (.run 1 {}) = some s₃ ∧
    s₃.tasks[1]? = some (.submitShifts "key1" (.count g)) ∧
    travelEnv.loadLocation c.timezone = some g.loc ∧
    parseShiftTime winterShift.start g.loc = some 1768485600 := by
  have hboot : Reaches (step travelEnv) anyStep (boot travelDB 0) beforeZoneRead :=
    reaches_after (by decide +kernel)
  have hkept : Reaches (step travelEnv) (keepsTimezone travelEnv "u1") afterZoneRead zoneUpload :=
    reaches_after (by decide +kernel)
  have hread : beforeZoneRead.tasks[0]? =
      some (.scrape ⟨"u1", 0, true, true, none⟩ (.readTimezone "log1" "key1")) := rfl
  have hstep : beforeZoneRead.step travelEnv (.run 0 {}) = some afterZoneRead := rfl
  have hcallback : zoneUpload.tasks[1]? =
      some (.submitShifts "key1" (.readTimezone "log1" "u1" [winterShift])) := rfl
  obtain ⟨s₃, hstep'⟩ : ∃ s₃, zoneUpload.step travelEnv (.run 1 {}) = some s₃ := ⟨_, rfl⟩
  obtain ⟨c, hc, hL, hzone⟩ : ∃ c ∈ zoneUpload.containers, c.logID = "log1" ∧ c.timezone = "America/New_York" := by
    decide +kernel
  obtain ⟨g, hg, _, hagrees⟩ := timezone_agrees hboot rfl hread hstep
    (hkept.mono fun _ _ _ => rfl) hcallback hstep' hc hL
  have hloc := hagrees rfl rfl hkept
  have hhome : newYork = g.loc := by
    rw [hzone] at hloc
    exact Option.some.inj hloc
  exact ⟨s₃, c, g, hc, hL, hzone, hstep', hg, hloc, hhome ▸ by decide⟩

def zoneChanged : List Action :=
  firstPoll ++ launch 0 "log1" "key1" "c1" ++
    .arrive (.authed "tok" (.updateTimezone (.ok "Asia/Tokyo"))) :: statements 1 2 ++
    .arrive (.submitShifts "key1" (.ok [winterShift])) :: statements 2 1

/-- Nine o'clock in New York is taken for nine o'clock in Tokyo. -/
theorem timezone_changed_between : ∃ s c g s', Reaches (step travelEnv) anyStep (boot travelDB 0) s ∧
    c ∈ s.containers ∧ c.logID = "log1" ∧ c.timezone = "America/New_York" ∧
    s.tasks[2]? = some (.submitShifts "key1" (.readTimezone "log1" "u1" [winterShift])) ∧
    s.step travelEnv (.run 2 {}) = some s' ∧
    s'.tasks[2]? = some (.submitShifts "key1" (.count g)) ∧
    travelEnv.loadLocation c.timezone ≠ some g.loc ∧
    parseShiftTime winterShift.start newYork = some 1768485600 ∧
    parseShiftTime winterShift.start g.loc = some 1768435200 := by
  refine ⟨after (step travelEnv) anyStep (boot travelDB 0) zoneChanged,
    ⟨"c1", "log1", "key1", "America/New_York", .running, true, false⟩,
    ⟨"log1", "u1", tokyo, 1, [winterShift], 0⟩, _, reaches_after (by decide +kernel), by decide +kernel, rfl, rfl,
    rfl, rfl, rfl, ?_, by decide, by decide⟩
  intro heq
  have hoffset := congrArg (fun loc => (loc.lookup 0).offset) (Option.some.inj heq)
  exact absurd hoffset (by decide)

end Server
end ScheduleSync
