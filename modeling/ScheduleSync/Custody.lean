import ScheduleSync.KeyAuthority
import ScheduleSync.Reaping

/-! Where a scrape key is. It is drawn with the log of an attempt, goes with the goroutine that
launches the log, and ends in one container. Whoever comes with it is answered from that log:
with credentials its user saved, and with rows of that user. -/
namespace ScheduleSync

def ScrapePc.holdsKey : ScrapePc → Option (Uuid × String)
  | .readTimezone logID key => some (logID, key)
  | .pullImage logID key _ => some (logID, key)
  | .createContainer logID key _ => some (logID, key)
  | _ => none

def Task.holdsKey : Task → Option (Uuid × String)
  | .scrape _ pc => pc.holdsKey
  | _ => none

def Task.keyUses (key : String) (t : Task) : Nat := if t.holdsKey.map Prod.snd = some key then 1 else 0

def keyedContainers (key : String) (cs : List Container) : Nat := cs.countP fun c => c.scrapeKey == key

theorem Task.keyUses_le {t t' : Task} (h : ∀ p, t'.holdsKey = some p → t.holdsKey = some p) (key : String) :
    t'.keyUses key ≤ t.keyUses key := by
  unfold Task.keyUses
  cases ht : t'.holdsKey with
  | none => simp
  | some p => rw [h p ht]

theorem eq_of_countP_le_one {α : Type} {p : α → Bool} {xs : List α} (h : xs.countP p ≤ 1) {a b : α}
    (ha : a ∈ xs) (hb : b ∈ xs) (hpa : p a = true) (hpb : p b = true) : a = b := by
  have hmem : ∀ x ∈ xs, p x = true → x ∈ xs.filter p := fun x hx hpx => List.mem_filter.mpr ⟨hx, hpx⟩
  rw [List.countP_eq_length_filter] at h
  have ha' := hmem a ha hpa
  have hb' := hmem b hb hpb
  match hfilter : xs.filter p with
  | [] =>
    rw [hfilter] at ha'
    cases ha'
  | [x] =>
    rw [hfilter] at ha' hb'
    exact (List.mem_singleton.mp ha').trans (List.mem_singleton.mp hb').symm
  | x :: y :: rest =>
    rw [hfilter] at h
    simp at h

def SameContainers (cs cs' : List Container) : Prop :=
  ∃ f : Container → Container, (∀ c, (f c).id = c.id ∧ (f c).logID = c.logID ∧ (f c).scrapeKey = c.scrapeKey) ∧
    cs' = cs.map f

theorem SameContainers.refl (cs : List Container) : SameContainers cs cs :=
  ⟨id, fun _ => ⟨rfl, rfl, rfl⟩, (List.map_id cs).symm⟩

theorem SameContainers.of_mem {cs cs' : List Container} (h : SameContainers cs cs') {c' : Container}
    (hc' : c' ∈ cs') : ∃ c ∈ cs, c'.id = c.id ∧ c'.logID = c.logID ∧ c'.scrapeKey = c.scrapeKey := by
  obtain ⟨f, hf, rfl⟩ := h
  obtain ⟨c, hc, rfl⟩ := List.mem_map.mp hc'
  exact ⟨c, hc, hf c⟩

theorem SameContainers.mem {cs cs' : List Container} (h : SameContainers cs cs') {c : Container}
    (hc : c ∈ cs) : ∃ c' ∈ cs', c'.id = c.id ∧ c'.logID = c.logID ∧ c'.scrapeKey = c.scrapeKey := by
  obtain ⟨f, hf, rfl⟩ := h
  exact ⟨f c, List.mem_map_of_mem hc, hf c⟩

theorem SameContainers.keyed {cs cs' : List Container} (h : SameContainers cs cs') (key : String) :
    keyedContainers key cs' = keyedContainers key cs := by
  obtain ⟨f, hf, rfl⟩ := h
  rw [keyedContainers, keyedContainers, List.countP_map]
  congr 1
  funext c
  simp [hf c]

theorem sameContainers_kill (id : String) (cs : List Container) : SameContainers cs (killContainer id cs) := by
  refine ⟨_, fun c => ?_, rfl⟩
  split <;> exact ⟨rfl, rfl, rfl⟩

theorem sameContainers_exit (id : String) (cs : List Container) : SameContainers cs
    (cs.map fun c => if c.id == id && c.phase == .running then { c with phase := .exited } else c) := by
  refine ⟨_, fun c => ?_, rfl⟩
  split <;> exact ⟨rfl, rfl, rfl⟩

theorem sameContainers_report (key : Option String) (cs : List Container) :
    SameContainers cs (markReported key cs) := by
  refine ⟨_, fun c => ?_, rfl⟩
  split <;> exact ⟨rfl, rfl, rfl⟩

/-- What a step of a scrape does with keys: it draws one, puts one into a container, or takes
up none. -/
inductive ScrapePc.Hands (o : Outcome) (w w' : World) (job : ScrapeJob) : ScrapePc → ScrapePc → Prop
  | keeps {pc pc' : ScrapePc} (hattempts : w'.trace.attempts = w.trace.attempts)
      (hholds : ∀ p, pc'.holdsKey = some p → pc.holdsKey = some p)
      (hc : SameContainers w.containers w'.containers) : Hands o w w' job pc pc'
  | draws (hattempts : w'.trace.attempts =
        ⟨job.newLog o.uuid o.key (unix w.now), job.parent⟩ :: w.trace.attempts)
      (hkey : o.key ∉ w.drawn) (hdrawn : o.key ∈ w'.drawn) (hc : w'.containers = w.containers) :
      Hands o w w' job .insertLog (.readTimezone o.uuid o.key)
  | creates {logID : Uuid} {key tzName : String} (hattempts : w'.trace.attempts = w.trace.attempts)
      (hnew : ∀ c ∈ w.containers, c.id ≠ o.containerID)
      (hc : w'.containers = ⟨o.containerID, logID, key, tzName, .created, false, false⟩ :: w.containers) :
      Hands o w w' job (.createContainer logID key tzName) (.saveContainerID logID o.containerID)

section Handlers
variable {env : Env} {o : Outcome} {w w' : World}

theorem execDropped_attempts (w : World) (o : Outcome) (db : DB) :
    (w.execDropped o db).trace.attempts = w.trace.attempts := by
  unfold World.execDropped
  split <;> rfl

theorem scheduleNext_attempts (w : World) (o : Outcome) (logID userID : Uuid) :
    (w.scheduleNext o logID userID).trace.attempts = w.trace.attempts := rfl

theorem scrapeForUser_hands {job job' : ScrapeJob} {pc pc' : ScrapePc}
    (h : scrapeForUser env o w job pc = some (w', job', pc')) : pc.Hands o w w' job pc' := by
  cases scrapeForUser_cases h with
  | inserted _ hkey => exact .draws rfl hkey (by simp) rfl
  | created _ hnew => exact .creates rfl hnew rfl
  | readTimezone | pullSkipped | pulled => exact .keeps rfl (fun _ hp => hp) (.refl _)
  | @started _ containerID =>
    refine .keeps rfl (by simp [ScrapePc.holdsKey]) ⟨_, fun c => ?_, rfl⟩
    split <;> exact ⟨rfl, rfl, rfl⟩
  | saveContainerID | retried | gaveUp =>
    refine .keeps (execDropped_attempts w o _) (by simp [ScrapePc.holdsKey]) ?_
    rw [execDropped_containers]
    exact .refl _
  | scheduleNext =>
    refine .keeps (scheduleNext_attempts w o _ _) (by simp [ScrapePc.holdsKey]) ?_
    rw [scheduleNext_containers]
    exact .refl _
  | _ => exact .keeps rfl (by simp [ScrapePc.holdsKey]) (.refl _)

theorem attempts_of_idle {c : Call} {W W' : Worker} {spawned : List Worker} (h : WorkStep c w w' W W' spawned)
    (hW : W.job = none) : w'.trace.attempts = w.trace.attempts := by
  cases h with
  | insert => cases hW
  | remove _ _ hatt => exact hatt
  | settle _ _ _ hatt => exact hatt
  | finish _ _ hfin | finishRetry _ _ hfin => exact hfin.attempts
  | quiet _ hsame | arrive _ hsame | check _ hsame | insertFails _ hsame | launched _ hsame
  | launchFails _ hsame | handOver _ _ _ _ hsame => exact hsame.attempts

theorem request_holds {t t' : Task} {jobs : List ScrapeJob}
    (h : runTask env o w t = some (w', t', jobs)) (ht : ∀ job pc, t ≠ .scrape job pc) :
    w'.trace.attempts = w.trace.attempts ∧ t'.holdsKey = none := by
  constructor
  · refine attempts_of_idle (runTask_effect h).work ?_
    cases t with
    | scrape job pc => exact absurd rfl (ht _ _)
    | submitShifts key pc => cases pc <;> rfl
    | submitFailure key pc => cases pc <;> rfl
    | _ => rfl
  · cases runTask_cases h with
    | scrape => exact absurd rfl (ht _ _)
    | begun hb => cases AuthedRequest.begin_cases hb <;> rfl
    | _ => rfl

end Handlers

namespace Server
variable {env : Env} {s s' : Server} {a : Action} {db₀ : DB} {start : Int} {key : String}

def keyUses (s : Server) (key : String) : Nat :=
  tally (Task.keyUses key) s.tasks + keyedContainers key s.containers

def HoldsNoNewKey (s s' : Server) : Prop :=
  ∀ t' ∈ s'.tasks, ∀ p, t'.holdsKey = some p → ∃ t ∈ s.tasks, t.holdsKey = some p

inductive Hands (s s' : Server) : Prop
  | keeps (hattempts : s'.trace.attempts = s.trace.attempts) (hholds : HoldsNoNewKey s s')
      (hc : SameContainers s.containers s'.containers)
      (huses : ∀ key, tally (Task.keyUses key) s'.tasks ≤ tally (Task.keyUses key) s.tasks)
  | draws (att : Attempt) (key : String) (hattempts : s'.trace.attempts = att :: s.trace.attempts)
      (hatt : att.log.scrapeKey = some key) (hkey : key ∉ s.drawn) (hdrawn : key ∈ s'.drawn)
      (hholds : ∀ t' ∈ s'.tasks, ∀ p, t'.holdsKey = some p →
        p = (att.log.id, key) ∨ ∃ t ∈ s.tasks, t.holdsKey = some p)
      (hc : s'.containers = s.containers)
      (huses : ∀ k, tally (Task.keyUses k) s'.tasks ≤ tally (Task.keyUses k) s.tasks + if k = key then 1 else 0)
  | creates (c : Container) (hattempts : s'.trace.attempts = s.trace.attempts)
      (hheld : ∃ t ∈ s.tasks, t.holdsKey = some (c.logID, c.scrapeKey)) (hholds : HoldsNoNewKey s s')
      (hnew : ∀ x ∈ s.containers, x.id ≠ c.id) (hc : s'.containers = c :: s.containers)
      (huses : ∀ k, tally (Task.keyUses k) s'.tasks + (if k = c.scrapeKey then 1 else 0) ≤
        tally (Task.keyUses k) s.tasks)

theorem keyUses_jobs (key : String) (jobs : List ScrapeJob) :
    tally (Task.keyUses key) (jobs.map ScrapeJob.task) = 0 := by
  rw [tally_eq_zero]
  exact List.forall_mem_map.mpr fun _ _ => rfl

theorem holds_pooled {i : Nat} {t t' : Task} {jobs : List ScrapeJob} (ht : s.tasks[i]? = some t)
    (hholds : ∀ p, t'.holdsKey = some p → t.holdsKey = some p) {u : Task}
    (hu : u ∈ pooled s.tasks i t' (jobs.map ScrapeJob.task)) {p : Uuid × String} (hp : u.holdsKey = some p) :
    ∃ t ∈ s.tasks, t.holdsKey = some p := by
  rcases mem_pooled hu with hold | rfl | hnew
  · exact ⟨u, hold, hp⟩
  · exact ⟨t, mem_of_getElem?_pool ht, hholds p hp⟩
  · obtain ⟨job, _, rfl⟩ := List.mem_map.mp hnew
    cases hp

theorem hands_run {i : Nat} {o : Outcome} (h : s.step env (.run i o) = some s') : Hands s s' := by
  obtain ⟨t, w, t', jobs, ht, hrun, rfl⟩ := step_run h
  have htally := fun key => tally_pooled (Task.keyUses key) ht t' (jobs.map ScrapeJob.task)
  simp only [keyUses_jobs, Nat.add_zero] at htally
  by_cases hscrape : ∃ job pc, t = .scrape job pc
  · obtain ⟨job, pc, rfl⟩ := hscrape
    obtain ⟨⟨w₁, job', pc'⟩, hr, heq⟩ := Option.map_eq_some_iff.mp hrun
    cases heq
    cases scrapeForUser_hands hr with
    | keeps hattempts hholds hc =>
      have hkept : ∀ p, (Task.scrape job' pc').holdsKey = some p → (Task.scrape job pc).holdsKey = some p := hholds
      refine .keeps hattempts (fun u hu p hp => holds_pooled ht hkept hu hp) hc fun key => ?_
      have hle := Task.keyUses_le hkept key
      have := htally key
      simp only [List.map_nil] at this ⊢
      omega
    | draws hattempts hkey hdrawn hc =>
      refine .draws _ o.key hattempts rfl hkey hdrawn ?_ hc fun k => ?_
      · intro u hu p hp
        rcases mem_pooled hu with hold | rfl | hnew
        · exact .inr ⟨u, hold, hp⟩
        · cases hp
          exact .inl rfl
        · cases hnew
      · have := htally k
        simp only [List.map_nil, Task.keyUses, Task.holdsKey, ScrapePc.holdsKey, Option.map_some,
          Option.some.injEq, eq_comm (a := o.key)] at this ⊢
        simp at this
        omega
    | @creates logID key tzName hattempts hnew hc =>
      refine .creates _ hattempts ⟨_, mem_of_getElem?_pool ht, rfl⟩
        (fun u hu p hp => holds_pooled ht (by simp [Task.holdsKey, ScrapePc.holdsKey]) hu hp) hnew hc fun k => ?_
      have := htally k
      simp only [List.map_nil, Task.keyUses, Task.holdsKey, ScrapePc.holdsKey, Option.map_some,
        Option.some.injEq, eq_comm (a := key)] at this ⊢
      simp at this
      omega
  · have hne : ∀ job pc, t ≠ .scrape job pc := fun job pc heq => hscrape ⟨job, pc, heq⟩
    obtain ⟨hattempts, hnone⟩ := request_holds hrun hne
    refine .keeps hattempts (fun u hu p hp => holds_pooled ht (by simp [hnone]) hu hp) ?_ fun key => ?_
    · show SameContainers s.containers w.containers
      rw [(runTask_containers hrun hne).1]
      exact .refl _
    · have hle : t'.keyUses key ≤ t.keyUses key := Task.keyUses_le (by simp [hnone]) key
      have := htally key
      simp only at this ⊢
      omega

theorem hands_append {ts : List Task} (htasks : s'.tasks = s.tasks ++ ts) (hts : ∀ t ∈ ts, t.holdsKey = none)
    (hattempts : s'.trace.attempts = s.trace.attempts) (hc : SameContainers s.containers s'.containers) :
    Hands s s' := by
  refine .keeps hattempts ?_ hc fun key => ?_
  · intro t' ht' p hp
    rw [htasks] at ht'
    cases List.mem_append.mp ht' with
    | inl hold => exact ⟨t', hold, hp⟩
    | inr hnew =>
      rw [hts t' hnew] at hp
      cases hp
  · have hzero : tally (Task.keyUses key) ts = 0 := by
      rw [tally_eq_zero]
      intro t ht
      simp [Task.keyUses, hts t ht]
    rw [htasks, tally_append, hzero, Nat.add_zero]

theorem hands_step (h : s.step env a = some s') : Hands s s' := by
  cases a with
  | run i o => exact hands_run h
  | schedule o =>
    obtain ⟨w, sch, jobs, hrun, rfl⟩ := step_schedule h
    have hidle : s.scheduler.worker.job = none := by
      cases s.scheduler <;> rfl
    refine hands_append rfl ?_ (attempts_of_idle (runScheduler_effect hrun).work hidle) ?_
    · intro t ht
      obtain ⟨job, _, rfl⟩ := List.mem_map.mp ht
      rfl
    · show SameContainers s.containers w.containers
      cases runScheduler_kills hrun with
      | inl hsame =>
        rw [hsame]
        exact .refl _
      | inr hkill =>
        obtain ⟨id, hkill⟩ := hkill
        rw [hkill]
        exact sameContainers_kill id s.containers
  | arrive r =>
    cases h
    refine hands_append rfl ?_ rfl (sameContainers_report r.reports s.containers)
    intro t ht
    rw [List.mem_singleton.mp ht]
    cases r <;> rfl
  | containerExit id =>
    cases h
    exact hands_append (List.append_nil _).symm (by simp) rfl (sameContainers_exit id s.containers)
  | advance d | cleanupPins | sweepLimiters =>
    cases h
    exact hands_append (List.append_nil _).symm (by simp) rfl (.refl _)

theorem attempt_of_insert {l : ScrapeLog} (h : s.step env a = some s')
    (hwr : s.write env a = some (.insertScrapeLog l)) (hfails : fails a = false)
    (hexec : (Write.insertScrapeLog l).exec s.db = some s'.db) : ∃ att ∈ s'.trace.attempts, att.log = l := by
  rcases write_cases hwr with ⟨i, o, t, rfl, ht, hwrites⟩ | ⟨o, rfl, hwrites⟩
  · cases hwrites with
    | @insertLog job =>
      obtain ⟨w, t', jobs, hrun, rfl⟩ := step_task ht h
      obtain ⟨⟨w₁, job', pc'⟩, hr, heq⟩ := Option.map_eq_some_iff.mp hrun
      cases heq
      cases scrapeForUser_cases hr with
      | inserted => exact ⟨_, List.mem_cons_self, rfl⟩
      | insertFailed _ _ _ hnone =>
        have hsql : o.sqlFails = false := hfails
        have hinsert : s.db.insertScrapeLog (job.newLog o.uuid o.key (unix s.now)) = none := by
          simpa [World.exec, hsql] using hnone
        have hsome : s.db.insertScrapeLog (job.newLog o.uuid o.key (unix s.now)) = some _ := hexec
        rw [hinsert] at hsome
        cases hsome
  · generalize s.scheduler = sch at hwrites
    cases hwrites

theorem logRow_step (h : s.step env a = some s') :
    ∀ l ∈ s'.db.scrapeLogs, (∃ l₀ ∈ s.db.scrapeLogs, l₀.id = l.id ∧ l₀.scrapeKey = l.scrapeKey ∧
      l₀.userID = l.userID ∧ (l.status = .running → l₀.status = .running)) ∨
      ∃ att ∈ s'.trace.attempts, att.log = l := by
  intro l hl
  cases hfails : fails a with
  | true =>
    rw [step_failed h hfails] at hl
    exact .inl ⟨l, hl, rfl, rfl, rfl, id⟩
  | false =>
    cases step_wrote h with
    | same hdb =>
      rw [hdb] at hl
      exact .inl ⟨l, hl, rfl, rfl, rfl, id⟩
    | exec x hwr hexec _ =>
      cases (Write.done_of_exec hexec).scrapeLogs hl with
      | inl hold =>
        obtain ⟨l₀, hl₀, rfl⟩ := hold
        exact .inl ⟨l₀, hl₀, by simp, by simp, by simp, Write.edit_running⟩
      | inr heq =>
        subst heq
        exact .inr (attempt_of_insert h hwr hfails hexec)

def Issued (s : Server) (p : Uuid × String) : Prop :=
  ∃ att ∈ s.trace.attempts, att.log.id = p.1 ∧ att.log.scrapeKey = some p.2

theorem Issued.mono (hsub : ∀ att ∈ s.trace.attempts, att ∈ s'.trace.attempts) {p : Uuid × String}
    (h : s.Issued p) : s'.Issued p := by
  obtain ⟨att, hatt, hp⟩ := h
  exact ⟨att, hsub att hatt, hp⟩

/-- Each key was drawn for one log and is in one place, and the rows of scrape_logs have the
keys and users they were inserted with. -/
structure Custody (db₀ : DB) (s : Server) : Prop where
  rows : ∀ l ∈ s.db.scrapeLogs, ∃ k ∈ s.known db₀, k.id = l.id ∧ k.scrapeKey = l.scrapeKey ∧
    k.userID = l.userID
  drawn : ∀ k ∈ s.known db₀, ∀ key, k.scrapeKey = some key → key ∈ s.drawn
  own : ∀ k ∈ s.known db₀, ∀ k' ∈ s.known db₀, k.scrapeKey.isSome = true → k.scrapeKey = k'.scrapeKey → k = k'
  held : ∀ t ∈ s.tasks, ∀ p, t.holdsKey = some p → s.Issued p
  containers : ∀ c ∈ s.containers, s.Issued (c.logID, c.scrapeKey)
  once : ∀ key, s.keyUses key ≤ 1

theorem custody_boot : Custody db₀ (boot db₀ start) where
  rows l hl := ⟨l, hl, rfl, rfl, rfl⟩
  drawn k hk key hkey :=
    List.mem_append_right _ (List.mem_filterMap.mpr ⟨k, hk, hkey⟩)
  own k hk k' hk' hsome hkey := Table.eq_of_clash hk hk' (.inr ⟨hkey, hsome⟩)
  held _ ht := by cases ht
  containers _ hc := by cases hc
  once _ := Nat.zero_le _

theorem Issued.drawn (hs : Custody db₀ s) {p : Uuid × String} (h : s.Issued p) : p.2 ∈ s.drawn := by
  obtain ⟨att, hatt, _, hkey⟩ := h
  exact hs.drawn att.log (List.mem_append_left _ (List.mem_map_of_mem hatt)) p.2 hkey

theorem Custody.unused (hs : Custody db₀ s) (hkey : key ∉ s.drawn) : s.keyUses key = 0 := by
  have htasks : tally (Task.keyUses key) s.tasks = 0 := by
    rw [tally_eq_zero]
    intro t ht
    refine if_neg fun heq => ?_
    obtain ⟨p, hp, rfl⟩ := Option.map_eq_some_iff.mp heq
    exact hkey ((hs.held t ht p hp).drawn hs)
  have hcontainers : keyedContainers key s.containers = 0 := by
    refine List.countP_eq_zero.mpr fun c hc heq => ?_
    rw [← beq_iff_eq.mp heq] at hkey
    exact hkey ((hs.containers c hc).drawn hs)
  rw [keyUses, htasks, hcontainers]

theorem Hands.attempts (h : Hands s s') : ∀ att ∈ s.trace.attempts, att ∈ s'.trace.attempts := by
  intro att hatt
  cases h with
  | keeps hattempts | creates _ hattempts =>
    rw [hattempts]
    exact hatt
  | draws _ _ hattempts =>
    rw [hattempts]
    exact List.mem_cons_of_mem _ hatt

theorem known_mono (hsub : ∀ att ∈ s.trace.attempts, att ∈ s'.trace.attempts) {k : ScrapeLog}
    (hk : k ∈ s.known db₀) : k ∈ s'.known db₀ := by
  cases List.mem_append.mp hk with
  | inl hatt =>
    obtain ⟨att, hmem, rfl⟩ := List.mem_map.mp hatt
    exact List.mem_append_left _ (List.mem_map_of_mem (hsub att hmem))
  | inr hrow => exact List.mem_append_right _ hrow

theorem custodyRows_step (hs : Custody db₀ s) (h : s.step env a = some s') :
    ∀ l ∈ s'.db.scrapeLogs, ∃ k ∈ s'.known db₀, k.id = l.id ∧ k.scrapeKey = l.scrapeKey ∧
      k.userID = l.userID := by
  intro l hl
  rcases logRow_step h l hl with ⟨l₀, hl₀, hid, hkey, huser, _⟩ | ⟨att, hatt, rfl⟩
  · obtain ⟨k, hk, hkid, hkkey, hkuser⟩ := hs.rows l₀ hl₀
    exact ⟨k, known_mono (hands_step h).attempts hk, hkid.trans hid, hkkey.trans hkey, hkuser.trans huser⟩
  · exact ⟨_, List.mem_append_left _ (List.mem_map_of_mem hatt), rfl, rfl, rfl⟩

theorem known_draws {att : Attempt} (hattempts : s'.trace.attempts = att :: s.trace.attempts) :
    s'.known db₀ = att.log :: s.known db₀ := by
  rw [known, hattempts, known]
  rfl

theorem custody_step (hs : Custody db₀ s) (h : s.step env a = some s') : Custody db₀ s' := by
  have hrows := custodyRows_step hs h
  have hands := hands_step h
  have hissued : ∀ {p}, s.Issued p → s'.Issued p := fun hp => hp.mono hands.attempts
  have hdrawn : ∀ k ∈ s.known db₀, ∀ key, k.scrapeKey = some key → key ∈ s'.drawn :=
    fun k hk key hkey => drawn_step h (hs.drawn k hk key hkey)
  cases hands with
  | keeps hattempts hholds hc huses =>
    have hknown : s'.known db₀ = s.known db₀ := known_eq hattempts
    refine ⟨hrows, by rwa [hknown], by rw [hknown]; exact hs.own, ?_, ?_, fun key => ?_⟩
    · intro t' ht' p hp
      obtain ⟨t, ht, hheld⟩ := hholds t' ht' p hp
      exact hissued (hs.held t ht p hheld)
    · intro c' hc'
      obtain ⟨c, hmem, _, hlog, hkey⟩ := hc.of_mem hc'
      rw [hlog, hkey]
      exact hissued (hs.containers c hmem)
    · have honce := hs.once key
      have hkeyed := hc.keyed key
      have hle := huses key
      simp only [keyUses] at honce ⊢
      omega
  | draws att key hattempts hatt hkey hdrawn' hholds hc huses =>
    have hknown : s'.known db₀ = att.log :: s.known db₀ := known_draws hattempts
    have hnew : ∀ k ∈ s.known db₀, k.scrapeKey ≠ some key := fun k hk heq => hkey (hs.drawn k hk key heq)
    refine ⟨hrows, ?_, ?_, ?_, ?_, fun k => ?_⟩
    · rw [hknown]
      intro k hk key' hkey'
      cases List.mem_cons.mp hk with
      | inl heq =>
        rw [heq, hatt] at hkey'
        cases hkey'
        exact hdrawn'
      | inr hold => exact hdrawn k hold key' hkey'
    · rw [hknown]
      intro k hk k' hk' hsome heq
      cases List.mem_cons.mp hk with
      | inl hknew =>
        cases List.mem_cons.mp hk' with
        | inl hknew' => exact hknew.trans hknew'.symm
        | inr hold' => exact absurd (heq.symm.trans (hknew ▸ hatt)) (hnew k' hold')
      | inr hold =>
        cases List.mem_cons.mp hk' with
        | inl hknew' => exact absurd (heq.trans (hknew' ▸ hatt)) (hnew k hold)
        | inr hold' => exact hs.own k hold k' hold' hsome heq
    · intro t' ht' p hp
      rcases hholds t' ht' p hp with rfl | ⟨t, ht, hheld⟩
      · exact ⟨att, by rw [hattempts]; exact List.mem_cons_self, rfl, hatt⟩
      · exact hissued (hs.held t ht p hheld)
    · rw [hc]
      exact fun c hmem => hissued (hs.containers c hmem)
    · have honce := hs.once k
      have hle := huses k
      simp only [keyUses, hc] at honce ⊢
      by_cases heq : k = key
      · subst heq
        have hunused := hs.unused hkey
        simp only [keyUses] at hunused
        simp only [if_true] at hle
        omega
      · rw [if_neg heq] at hle
        omega
  | creates c hattempts hheld hholds hnew hc huses =>
    have hknown : s'.known db₀ = s.known db₀ := known_eq hattempts
    refine ⟨hrows, by rwa [hknown], by rw [hknown]; exact hs.own, ?_, ?_, fun k => ?_⟩
    · intro t' ht' p hp
      obtain ⟨t, ht, hheld⟩ := hholds t' ht' p hp
      exact hissued (hs.held t ht p hheld)
    · rw [hc]
      intro c' hc'
      cases List.mem_cons.mp hc' with
      | inl heq =>
        obtain ⟨t, ht, hp⟩ := hheld
        rw [heq]
        exact hissued (hs.held t ht _ hp)
      | inr hold => exact hissued (hs.containers c' hold)
    · have honce := hs.once k
      have hle := huses k
      have hcount : keyedContainers k s'.containers =
          keyedContainers k s.containers + if k = c.scrapeKey then 1 else 0 := by
        rw [hc, keyedContainers, List.countP_cons, keyedContainers]
        exact congrArg _ (if_congr (by rw [beq_iff_eq, eq_comm]) rfl rfl)
      simp only [keyUses] at honce ⊢
      omega

theorem Custody.container_eq (hs : Custody db₀ s) {c c' : Container} (hc : c ∈ s.containers)
    (hc' : c' ∈ s.containers) (hkey : c.scrapeKey = c'.scrapeKey) : c = c' := by
  have honce := hs.once c.scrapeKey
  refine eq_of_countP_le_one (p := fun x => x.scrapeKey == c.scrapeKey) ?_ hc hc' (beq_self_eq_true _)
    (beq_iff_eq.mpr hkey.symm)
  exact Nat.le_trans (Nat.le_add_left _ _) honce

theorem custody_of_reaches {ok : Server → Action → Bool}
    (h : Reaches (step env) ok (boot db₀ start) s) : Custody db₀ s :=
  h.invariant custody_boot fun _ _ _ _ hs ha => custody_step hs ha

end Server
end ScheduleSync
