import ScheduleSync.Workers

/-! Every step of every task and of the scheduler is a WorkStep. Nothing after
this module looks inside a handler to follow a scrape log. -/
namespace ScheduleSync

section Quiet
variable {c : Call} {w w' : World}

theorem Frame.of_tables (hnow : w'.now = w.now) (hdrawn : ∀ x ∈ w.drawn, x ∈ w'.drawn)
    (hlogs : ∀ l ∈ w'.db.scrapeLogs, w.db.Continues l)
    (hsched : w'.db.scrapeSchedule = w.db.scrapeSchedule) : Frame c w w' := by
  refine ⟨by rw [hnow], hdrawn, fun l hl => .inl (hlogs l hl), ?_⟩
  intro r hr
  rw [hsched] at hr
  exact .inl hr

theorem Frame.of_eq (hnow : w'.now = w.now) (hdrawn : w'.drawn = w.drawn) (hdb : w'.db = w.db) :
    Frame c w w' := by
  refine .of_tables hnow (fun x hx => by rwa [hdrawn]) (fun l hl => ?_) (by rw [hdb])
  rw [hdb] at hl
  exact DB.continues_of_mem hl

theorem SameLogs.of_eq (hrows : w'.db.scrapeLogs = w.db.scrapeLogs)
    (hatt : w'.trace.attempts = w.trace.attempts)
    (hsched : w'.trace.scheduled = w.trace.scheduled) : SameLogs w w' := by
  refine ⟨?_, hatt, hsched⟩
  intro L
  unfold DB.standing DB.scrapeLog
  rw [hrows]

theorem Effect.idle (W : Worker) (hl : c.launches = []) : Effect c w w W W [] := by
  have h : WorkStep c w w W W (c.launches.map Worker.ofJob) := .quiet W (.of_eq rfl rfl rfl)
  rw [hl] at h
  exact ⟨.of_eq rfl rfl rfl, h⟩

theorem SameLogs.execDropped (o : Outcome) {db : DB} (hrow : ∀ L, db.standing L = w.db.standing L) :
    SameLogs w (w.execDropped o db) := by
  unfold World.execDropped
  split
  · exact .of_eq rfl rfl rfl
  · exact ⟨hrow, rfl, rfl⟩

theorem Frame.execDropped (o : Outcome) {db : DB} (hlogs : ∀ l ∈ db.scrapeLogs, w.db.Continues l)
    (hsched : db.scrapeSchedule = w.db.scrapeSchedule) : Frame c w (w.execDropped o db) := by
  unfold World.execDropped
  split
  · exact .of_eq rfl rfl rfl
  · exact .of_tables rfl (fun _ hx => hx) hlogs hsched

theorem Finished.execDropped {o : Outcome} {id : Uuid} (v : Verdict) (hcall : c.finishes = some id)
    (hfails : c.sqlFails = o.sqlFails) :
    Finished c w (w.execDropped o (w.db.finishScrapeLog id v (unix w.now))) id := by
  unfold World.execDropped
  split
  · rename_i hsql
    exact ⟨hcall, .inr ⟨hfails.trans hsql, fun _ => rfl⟩, rfl, rfl⟩
  · exact ⟨hcall, .inl ⟨v, fun L => standing_finishScrapeLog id v (unix w.now) L⟩, rfl, rfl⟩

end Quiet

theorem DB.insertScrapeLog_frame {db db' : DB} {l : ScrapeLog}
    (h : db.insertScrapeLog l = some db') : db'.scrapeSchedule = db.scrapeSchedule ∧
      ∀ x ∈ db'.scrapeLogs, x ∈ db.scrapeLogs ∨ x = l := by
  unfold DB.insertScrapeLog at h
  split at h
  · obtain ⟨t, ht, rfl⟩ := Option.map_eq_some_iff.mp h
    exact ⟨rfl, fun x hx => (Table.mem_of_insert ht).mp hx⟩
  · cases h

theorem DB.insertShift_frame {db db' : DB} {sh : Shift} (h : db.insertShift sh = some db') :
    db'.scrapeLogs = db.scrapeLogs ∧ db'.scrapeSchedule = db.scrapeSchedule := by
  unfold DB.insertShift at h
  split_ifs at h
  · obtain ⟨t, _, rfl⟩ := Option.map_eq_some_iff.mp h
    exact ⟨rfl, rfl⟩
  · cases h
    exact ⟨rfl, rfl⟩

section ScheduleNext
variable {o : Outcome} {w : World} {logID userID : Uuid}

theorem DB.mem_scheduleNext {db : DB} {next now : Int} {x : ScrapeSchedule} :
    x ∈ (db.scheduleNext userID next now).scrapeSchedule ↔
      ∃ r ∈ db.scrapeSchedule, (if r.userID == userID then
        { r with nextScrapeAt := next, lastScrapedAt := some now } else r) = x := by
  simp only [DB.scheduleNext, Table.mem_update]

theorem next_of_scheduleNext (hsql : o.sqlFails = false) {x : ScrapeSchedule}
    (hx : x ∈ (w.scheduleNext o logID userID).db.scrapeSchedule) (hu : x.userID = userID) :
    unix w.now + 16 * 3600 ≤ x.nextScrapeAt := by
  have hjitter : unix (w.now + 16 * 3600 * second) ≤ unix (w.now + scrapeJitter o.jitter) := by
    apply unix_mono
    have := scrapeJitter_ge o.jitter
    simp only [minScrapeInterval, hour, minute] at this
    omega
  rw [unix_add_seconds] at hjitter
  simp only [World.scheduleNext, World.execDropped, hsql] at hx
  obtain ⟨r, _, rfl⟩ := DB.mem_scheduleNext.mp hx
  split at hu
  · rename_i hr
    rw [if_pos hr]
    exact hjitter
  · rename_i hr
    exact absurd hu (by simpa using hr)

theorem mem_scheduleNext {x : ScrapeSchedule}
    (hx : x ∈ (w.scheduleNext o logID userID).db.scrapeSchedule) :
    x ∈ w.db.scrapeSchedule ∨ x.userID = userID ∧ unix w.now + 16 * 3600 ≤ x.nextScrapeAt := by
  by_cases hu : x.userID = userID
  · cases hsql : o.sqlFails with
    | true =>
      simp only [World.scheduleNext, World.execDropped, hsql] at hx
      exact .inl hx
    | false => exact .inr ⟨hu, next_of_scheduleNext hsql hx hu⟩
  · left
    simp only [World.scheduleNext, World.execDropped] at hx
    split at hx
    · exact hx
    · obtain ⟨r, hr, rfl⟩ := DB.mem_scheduleNext.mp hx
      split
      · rename_i hp
        rw [if_pos hp] at hu
        exact absurd (beq_iff_eq.mp hp) hu
      · exact hr

theorem Effect.scheduleNext {c : Call} (r : LogRef) (rest : List LogRef)
    (hcall : c.schedulesNext = some r.userID) (hfails : c.sqlFails = o.sqlFails) :
    Effect c w (w.scheduleNext o r.logID r.userID) { holding := rest, owing := [r] }
      { holding := rest } [] := by
  have hdb : ∀ L, (w.scheduleNext o r.logID r.userID).db.standing L = w.db.standing L := by
    intro L
    simp only [World.scheduleNext, World.execDropped]
    split <;> rfl
  refine ⟨⟨?_, ?_, ?_, ?_⟩, .settle r rest hdb ?_ ?_ hcall ?_⟩
  · simp only [World.scheduleNext, World.execDropped]
    split <;> rfl
  · intro x hx
    simp only [World.scheduleNext, World.execDropped]
    split <;> exact hx
  · intro l hl
    simp only [World.scheduleNext, World.execDropped] at hl
    left
    split at hl <;> exact DB.continues_of_mem hl
  · intro x hx
    cases mem_scheduleNext hx with
    | inl hx => exact .inl hx
    | inr hmoved => exact .inr (.inr ⟨hmoved.1 ▸ hcall, hmoved.2⟩)
  · simp only [World.scheduleNext, World.execDropped]
  · simp only [World.scheduleNext, World.execDropped]
  · intro hsql x hx hu
    exact next_of_scheduleNext (hfails ▸ hsql) hx hu

end ScheduleNext

section Handlers
variable {env : Env} {o : Outcome} {w w' : World}

theorem Effect.lookup {c : Call} {key : String} {l : ScrapeLog} (h : w.db.runningLog key = some l) :
    Effect c w w {} { holding := [⟨l.id, l.userID, none⟩] } [] := by
  obtain ⟨hmem, _, hrunning⟩ := DB.mem_of_runningLog h
  refine ⟨.of_eq rfl rfl rfl, .check _ (.of_eq rfl rfl rfl) (by simp) ?_⟩
  intro r hr
  rw [List.mem_singleton] at hr
  subst hr
  exact ⟨rfl, l.core, DB.standing_of_mem hmem, rfl, hrunning⟩

theorem scrapeForUser_effect {job job' : ScrapeJob} {pc pc' : ScrapePc}
    (h : scrapeForUser env o w job pc = some (w', job', pc')) :
    Effect (pc.call env o w job) w w' (pc.worker job) (pc'.worker job') [] := by
  cases scrapeForUser_cases h with
  | acquire | pulled | created | release =>
    exact ⟨.of_eq rfl rfl rfl, .quiet _ (.of_eq rfl rfl rfl)⟩
  | readTimezone | pullSkipped => exact .idle _ rfl
  | insertFailed hid hkey hne hexec =>
    refine ⟨.of_tables rfl ?_ (fun _ hl => DB.continues_of_mem hl) rfl,
      .insertFails job (.of_eq rfl rfl rfl) ?_⟩
    · intro x hx
      simp [hx]
    · simp only [ScrapePc.call, hexec]
  | inserted hid hkey hne hexec =>
    have hins := exec_eq_some hexec
    obtain ⟨hsched, hlogs⟩ := DB.insertScrapeLog_frame hins
    refine ⟨⟨le_refl _, ?_, ?_, ?_⟩, .insert job o.uuid o.key hid ?_ ?_ rfl rfl⟩
    · intro x hx
      simp [hx]
    · intro l hl
      cases hlogs l hl with
      | inl hl => exact .inl (DB.continues_of_mem hl)
      | inr hl =>
        subst hl
        exact .inr ⟨o.key, rfl, hkey, by simp⟩
    · intro r hr
      rw [hsched] at hr
      exact .inl hr
    · simp
    · exact fun L => standing_insertScrapeLog hins L
  | pullFailed hneeded hdocker =>
    refine ⟨.of_eq rfl rfl rfl, .launchFails _ (.of_eq rfl rfl rfl) ?_⟩
    simp [ScrapePc.call, hneeded, hdocker]
  | createFailed hdocker | startFailed hdocker =>
    refine ⟨.of_eq rfl rfl rfl, .launchFails _ (.of_eq rfl rfl rfl) ?_⟩
    simp [ScrapePc.call, hdocker]
  | saveContainerID =>
    exact ⟨.execDropped o DB.continues_setContainerID rfl,
      .quiet _ (.execDropped o fun L => standing_setContainerID _ _ L)⟩
  | started => exact ⟨.of_eq rfl rfl rfl, .launched _ (.of_eq rfl rfl rfl)⟩
  | retried hauto hcount =>
    exact ⟨.execDropped o DB.continues_finish rfl,
      .finishRetry _ job (.execDropped (.startFailed _) rfl rfl) rfl rfl hauto hcount⟩
  | gaveUp =>
    exact ⟨.execDropped o DB.continues_finish rfl,
      .finish _ _ (.execDropped (.startFailed _) rfl rfl)⟩
  | @scheduleNext logID => exact .scheduleNext ⟨logID, job.userID, some job⟩ [] rfl rfl

theorem scrapeSubmitShifts_effect {key : String} {pc pc' : SubmitShiftsPc}
    (h : scrapeSubmitShifts env o w key pc = some (w', pc')) :
    Effect (pc.call o) w w' pc.worker pc'.worker [] := by
  cases scrapeSubmitShifts_cases h with
  | noKey | notFound | badBody | readTimezone => exact .idle _ rfl
  | found hsel => exact .lookup (select_eq_some hsel)
  | @finished i hrest =>
    refine ⟨.execDropped o DB.continues_finish rfl,
      .finish _ _ (.execDropped (.reportedShifts i.found i.newCount) ?_ ?_)⟩
    · simp [SubmitShiftsPc.call, hrest]
    · simp [SubmitShiftsPc.call, hrest]
  | skipped hrest | counted hrest => exact .idle _ (by simp [SubmitShiftsPc.call, hrest])
  | insertFailed =>
    refine ⟨.of_tables rfl ?_ (fun _ hl => DB.continues_of_mem hl) rfl,
      .quiet _ (.of_eq rfl rfl rfl)⟩
    intro x hx
    simp [hx]
  | inserted hid hexec =>
    obtain ⟨hlogs, hsched⟩ := DB.insertShift_frame (exec_eq_some hexec)
    refine ⟨.of_tables rfl ?_ ?_ hsched, .quiet _ (.of_eq hlogs rfl rfl)⟩
    · intro x hx
      simp [hx]
    · intro l hl
      rw [hlogs] at hl
      exact DB.continues_of_mem hl
  | @scheduleNext logID userID answer => exact .scheduleNext ⟨logID, userID, none⟩ [] rfl rfl

theorem Effect.handleScrapeFailure {c : Call} {r : LogRef} {job : ScrapeJob} (rest : List LogRef)
    (h : handleScrapeFailure o w r.logID r.userID = some job) :
    Effect c w w { holding := rest, owing := [r] } { holding := rest } [.ofJob job] := by
  obtain ⟨l, hfound, hauto, hcount, rfl⟩ := handleScrapeFailure_some h
  obtain ⟨hmem, hid⟩ := DB.mem_of_scrapeLog hfound
  have hread := DB.standing_of_mem hmem
  rw [hid] at hread
  exact ⟨.of_eq rfl rfl rfl, .handOver r rest _ l.core (.of_eq rfl rfl rfl) rfl rfl rfl hread hauto
    hcount rfl⟩

theorem scrapeSubmitFailure_effect {key : String} {pc pc' : SubmitFailurePc} {jobs : List ScrapeJob}
    (h : scrapeSubmitFailure o w key pc = some (w', pc', jobs)) :
    Effect (pc.call o) w w' pc.worker pc'.worker (jobs.map Worker.ofJob) := by
  cases scrapeSubmitFailure_cases h with
  | noKey | notFound | badBody | gaveUp => exact .idle _ rfl
  | found hsel => exact .lookup (select_eq_some hsel)
  | markFailed =>
    exact ⟨.execDropped o DB.continues_finish rfl,
      .finish _ _ (.execDropped (.reportedFailure _ _) rfl rfl)⟩
  | @retried logID userID job hretry =>
    exact .handleScrapeFailure (r := ⟨logID, userID, none⟩) [] hretry
  | @scheduleNext logID userID => exact .scheduleNext ⟨logID, userID, none⟩ [] rfl rfl

theorem standing_filter {p : ScrapeLog → Bool} {q : LogCore → Prop} {r : Option ScrapeLog}
    (hpq : ∀ l, p l = true → q l.core) :
    (r.filter fun l => !p l).map ScrapeLog.core = r.map ScrapeLog.core ∨
      (r.filter fun l => !p l).map ScrapeLog.core = none ∧
        ∀ l, r.map ScrapeLog.core = some l → q l := by
  cases r with
  | none => simp
  | some l =>
    by_cases hp : p l = true
    · right
      simp [Option.filter_some, hp, hpq l hp]
    · left
      simp [Option.filter_some, hp]

theorem retention_effect {now : Int} {stmt : RetentionStatement} (W : Worker) :
    Effect { sqlFails := o.sqlFails, retains := if o.sqlFails then none else some (now, stmt) } w
      (w.execDropped o (stmt.exec now w.db)) W W [] := by
  have hsched : (stmt.exec now w.db).scrapeSchedule = w.db.scrapeSchedule := by
    cases stmt <;> rfl
  have hlogs : ∀ l ∈ (stmt.exec now w.db).scrapeLogs, w.db.Continues l := by
    cases stmt with
    | successLogs => exact DB.continues_delete
    | failureLogs => exact DB.continues_delete
    | screenshots =>
      intro l hl
      simp only [RetentionStatement.exec, Table.mem_update] at hl
      exact DB.continues_update hl (fun _ => rfl) fun _ hx => hx
    | shifts => exact fun _ hl => DB.continues_of_mem hl
    | sessions => exact fun _ hl => DB.continues_of_mem hl
  refine ⟨.execDropped o hlogs hsched, ?_⟩
  cases hsql : o.sqlFails with
  | true =>
    have hw : w.execDropped o (stmt.exec now w.db) = w := by simp [World.execDropped, hsql]
    rw [hw]
    exact .quiet W (.of_eq rfl rfl rfl)
  | false =>
    have hw : w.execDropped o (stmt.exec now w.db) = { w with db := stmt.exec now w.db } := by
      simp [World.execDropped, hsql]
    rw [hw]
    refine .remove W (fun L => ?_) rfl rfl
    unfold DB.standing DB.scrapeLog
    cases stmt with
    | successLogs =>
      simp only [RetentionStatement.exec]
      rw [standing_delete]
      apply standing_filter
      intro l hl
      exact .inr ⟨now, .successLogs, rfl, hl⟩
    | failureLogs =>
      simp only [RetentionStatement.exec]
      rw [standing_delete]
      apply standing_filter
      intro l hl
      exact .inr ⟨now, .failureLogs, rfl, hl⟩
    | screenshots =>
      left
      simp only [RetentionStatement.exec]
      apply standing_update_same
      · exact fun _ => rfl
      · exact fun _ => rfl
    | shifts => exact .inl rfl
    | sessions => exact .inl rfl

theorem nodup_staleLogs {db : DB} {cutoff : Int} : ((db.staleLogs cutoff).map ScrapeLog.id).Nodup := by
  have hrows : (db.scrapeLogs.rows.map ScrapeLog.id).Nodup := by
    refine List.pairwise_map.mpr (db.scrapeLogs.unique.imp ?_)
    intro a b hab heq
    exact hab (.inl heq)
  exact hrows.sublist (List.filter_sublist.map _)

theorem runScheduler_effect {waited : Bool} {sch sch' : Scheduler} {jobs : List ScrapeJob}
    (h : runScheduler o w waited sch = some (w', sch', jobs)) :
    Effect (sch.call o w) w w' sch.worker sch'.worker (jobs.map Worker.ofJob) := by
  cases runScheduler_cases h with
  | retentionTick | pollTick | waitScrapes | staleFailed | reaped | notKilled | reapLast | retained =>
    exact .idle _ rfl
  | dueFailed hsql => exact .idle _ (by simp [Scheduler.call, hsql])
  | due hsql =>
    have hl : (Scheduler.due.call o w).launches =
        (w.db.dueUsers (unix w.now)).map fun uid => ⟨uid, 0, true, true, none⟩ := by
      simp [Scheduler.call, hsql]
    rw [← hl]
    exact ⟨.of_eq rfl rfl rfl, .quiet _ (.of_eq rfl rfl rfl)⟩
  | stale =>
    refine ⟨.of_eq rfl rfl rfl, .check _ (.of_eq rfl rfl rfl) ?_ ?_⟩
    · simpa [ScrapeLog.staleEntry, StaleEntry.ref, Function.comp_def] using nodup_staleLogs
    · intro r hr
      simp only [List.map_map, List.mem_map, Function.comp_apply] at hr
      obtain ⟨l, hl, rfl⟩ := hr
      obtain ⟨hmem, hp⟩ := List.mem_filter.mp hl
      have hrunning := ((Bool.and_eq_true _ _).mp hp).1
      exact ⟨rfl, l.core, DB.standing_of_mem hmem, rfl, beq_iff_eq.mp hrunning⟩
  | killed => exact ⟨.of_eq rfl rfl rfl, .quiet _ (.of_eq rfl rfl rfl)⟩
  | reapMark =>
    exact ⟨.execDropped o DB.continues_finish rfl, .finish _ _ (.execDropped .timedOut rfl rfl)⟩
  | @reapRetry e rest job hretry => exact .handleScrapeFailure (r := e.ref) _ hretry
  | @reapSchedule e rest => exact .scheduleNext e.ref _ rfl rfl
  | retention => exact retention_effect _

end Handlers

/-- A step that concerns neither scrape logs nor schedules nor containers. -/
structure Unrelated (w w' : World) : Prop where
  now : w'.now = w.now
  drawn : ∀ x ∈ w.drawn, x ∈ w'.drawn
  schedule : w'.db.scrapeSchedule = w.db.scrapeSchedule
  logs : w'.db.scrapeLogs = w.db.scrapeLogs
  attempts : w'.trace.attempts = w.trace.attempts
  scheduled : w'.trace.scheduled = w.trace.scheduled
  containers : w'.containers = w.containers

section Others
variable {env : Env} {o : Outcome} {w w' : World}

theorem Unrelated.refl (w : World) : Unrelated w w := ⟨rfl, fun _ h => h, rfl, rfl, rfl, rfl, rfl⟩

theorem Unrelated.effect {c : Call} (h : Unrelated w w') (W : Worker) (hl : c.launches = []) :
    Effect c w w' W W [] := by
  have hq : WorkStep c w w' W W (c.launches.map Worker.ofJob) :=
    .quiet W (.of_eq h.logs h.attempts h.scheduled)
  rw [hl] at hq
  refine ⟨.of_tables h.now h.drawn ?_ h.schedule, hq⟩
  intro l hl
  rw [h.logs] at hl
  exact DB.continues_of_mem hl

theorem scrapeGetCredentials_reads {key : String} {pc pc' : GetCredentialsPc}
    (h : scrapeGetCredentials env o w key pc = some (w', pc')) :
    w' = w ∨ (∃ creds, pc = .markFetched creds) ∧
      w' = w.execDropped o (w.db.setCredentialsFetchedAt key (unix w.now)) := by
  cases scrapeGetCredentials_cases h with
  | @markFetched creds => exact .inr ⟨⟨creds, rfl⟩, rfl⟩
  | _ => exact .inl rfl

theorem scrapeGetCredentials_effect {c : Call} {key : String} {pc pc' : GetCredentialsPc}
    (h : scrapeGetCredentials env o w key pc = some (w', pc')) (hl : c.launches = []) :
    Effect c w w' {} {} [] := by
  rcases scrapeGetCredentials_reads h with rfl | ⟨_, rfl⟩
  · exact .idle _ hl
  · have hq : WorkStep c w (w.execDropped o (w.db.setCredentialsFetchedAt key (unix w.now))) {} {}
        (c.launches.map Worker.ofJob) :=
      .quiet _ (.execDropped o fun L => standing_setCredentialsFetchedAt _ _ L)
    rw [hl] at hq
    exact ⟨.execDropped o DB.continues_setCredentialsFetchedAt rfl, hq⟩

theorem DB.insertUser_frame {db db' : DB} {u : User} (h : db.insertUser u = some db') :
    db'.scrapeLogs = db.scrapeLogs ∧ db'.scrapeSchedule = db.scrapeSchedule := by
  obtain ⟨t, _, rfl⟩ := Option.map_eq_some_iff.mp h
  exact ⟨rfl, rfl⟩

theorem findOrCreateUser_unrelated {email : String} {pc : FindUserPc} {r : FindUserResult}
    (h : findOrCreateUser o w email pc = some (w', r)) : Unrelated w w' := by
  cases findOrCreateUser_cases h with
  | insertFailed => exact ⟨rfl, fun x hx => by simp [hx], rfl, rfl, rfl, rfl, rfl⟩
  | inserted hrand hid hexec =>
    obtain ⟨hlogs, hsched⟩ := DB.insertUser_frame (exec_eq_some hexec)
    exact ⟨rfl, fun x hx => by simp [hx], hsched, hlogs, rfl, rfl, rfl⟩
  | _ => exact .refl w

theorem requestPin_unrelated {email : String} {pc pc' : RequestPinPc}
    (h : requestPin env o w email pc = some (w', pc')) : Unrelated w w' := by
  cases requestPin_cases h with
  | invalid | noPin | mailFailed => exact .refl w
  | store | mail => exact ⟨rfl, fun _ hx => hx, rfl, rfl, rfl, rfl, rfl⟩
  | find hfind | found hfind | notFound hfind => exact findOrCreateUser_unrelated hfind

theorem DB.insertSession_frame {db db' : DB} {r : Session} (h : db.insertSession r = some db') :
    db'.scrapeLogs = db.scrapeLogs ∧ db'.scrapeSchedule = db.scrapeSchedule := by
  unfold DB.insertSession at h
  split_ifs at h
  obtain ⟨t, _, rfl⟩ := Option.map_eq_some_iff.mp h
  exact ⟨rfl, rfl⟩

theorem verifyPin_unrelated {email pin : String} {pc pc' : VerifyPinPc}
    (h : verifyPin env o w email pin pc = some (w', pc')) : Unrelated w w' := by
  cases verifyPin_cases h with
  | invalid => exact .refl w
  | refused | verify => exact ⟨rfl, fun _ hx => hx, rfl, rfl, rfl, rfl, rfl⟩
  | find hfind | found hfind | notFound hfind => exact findOrCreateUser_unrelated hfind
  | sessionFailed => exact ⟨rfl, fun x hx => by simp [hx], rfl, rfl, rfl, rfl, rfl⟩
  | createSession hid hrand hexec =>
    obtain ⟨hlogs, hsched⟩ := DB.insertSession_frame (exec_eq_some hexec)
    exact ⟨rfl, fun x hx => by simp [hx], hsched, hlogs, rfl, rfl, rfl⟩

theorem DB.insertDEK_frame {db db' : DB} {dek : UserDEK} (h : db.insertDEK dek = some db') :
    db'.scrapeLogs = db.scrapeLogs ∧ db'.scrapeSchedule = db.scrapeSchedule := by
  unfold DB.insertDEK at h
  split_ifs at h
  obtain ⟨t, _, rfl⟩ := Option.map_eq_some_iff.mp h
  exact ⟨rfl, rfl⟩

theorem DB.upsertCredentials_frame {db db' : DB} {c : StarbucksCredentials}
    (h : db.upsertCredentials c = some db') :
    db'.scrapeLogs = db.scrapeLogs ∧ db'.scrapeSchedule = db.scrapeSchedule := by
  unfold DB.upsertCredentials at h
  split_ifs at h
  · cases h
    exact ⟨rfl, rfl⟩
  · obtain ⟨t, _, rfl⟩ := Option.map_eq_some_iff.mp h
    exact ⟨rfl, rfl⟩

theorem DB.upsertSchedule_frame {db db' : DB} {userID : Uuid} {next : Int}
    (h : db.upsertSchedule userID next = some db') :
    db'.scrapeLogs = db.scrapeLogs ∧
      ∀ r ∈ db'.scrapeSchedule, r ∈ db.scrapeSchedule ∨ userID = r.userID := by
  unfold DB.upsertSchedule at h
  split_ifs at h
  · cases h
    refine ⟨rfl, ?_⟩
    intro r hr
    simp only [Table.mem_update] at hr
    obtain ⟨x, hx, rfl⟩ := hr
    split
    · rename_i hp
      exact .inr (beq_iff_eq.mp hp).symm
    · exact .inl hx
  · obtain ⟨t, ht, rfl⟩ := Option.map_eq_some_iff.mp h
    refine ⟨rfl, ?_⟩
    intro r hr
    cases (Table.mem_of_insert ht).mp hr with
    | inl hr => exact .inl hr
    | inr hr => exact .inr (congrArg ScrapeSchedule.userID hr).symm

theorem writeCredentials_unrelated {userID : Uuid} {pc pc' : WriteCredentialsPc}
    {jobs : List ScrapeJob} (h : writeCredentials env o w userID pc = some (w', pc', jobs))
    (hpc : ∀ t, pc ≠ .schedule t) : Unrelated w w' ∧ jobs = [] := by
  cases writeCredentials_cases h with
  | credentialLimited | credentialLimit | scrapeLimited | badBody | scrapeLimit =>
    exact ⟨⟨rfl, fun _ hx => hx, rfl, rfl, rfl, rfl, rfl⟩, rfl⟩
  | insertDEK hrand hgen hexec =>
    obtain ⟨hlogs, hsched⟩ := DB.insertDEK_frame (exec_eq_some hexec)
    exact ⟨⟨rfl, fun _ hx => hx, hsched, hlogs, rfl, rfl, rfl⟩, rfl⟩
  | upsert hrand hseal hexec =>
    obtain ⟨hlogs, hsched⟩ := DB.upsertCredentials_frame (exec_eq_some hexec)
    exact ⟨⟨rfl, fun _ hx => hx, hsched, hlogs, rfl, rfl, rfl⟩, rfl⟩
  | scheduleFailed | schedule => exact absurd rfl (hpc _)
  | _ => exact ⟨.refl w, rfl⟩

theorem writeCredentials_effect {userID : Uuid} {pc pc' : WriteCredentialsPc}
    {jobs : List ScrapeJob} (h : writeCredentials env o w userID pc = some (w', pc', jobs)) :
    Effect ((Task.writeCredentials userID pc).call env o w) w w' {} {} (jobs.map Worker.ofJob) := by
  cases pc with
  | schedule now =>
    cases writeCredentials_cases h with
    | scheduleFailed => exact ⟨.of_eq rfl rfl rfl, .quiet _ (.of_eq rfl rfl rfl)⟩
    | schedule hexec =>
      obtain ⟨hlogs, hsched⟩ := DB.upsertSchedule_frame (exec_eq_some hexec)
      refine ⟨⟨le_refl _, fun _ hx => hx, ?_, ?_⟩, .quiet _ (.of_eq hlogs rfl rfl)⟩
      · intro l hl
        rw [hlogs] at hl
        exact .inl (DB.continues_of_mem hl)
      · intro r hr
        cases hsched r hr with
        | inl hr => exact .inl hr
        | inr hr => exact .inr (.inl (congrArg some hr))
  | _ =>
    obtain ⟨hun, rfl⟩ := writeCredentials_unrelated h (by simp)
    exact hun.effect _ rfl

theorem deleteAccount_effect {userID : Uuid} :
    Effect ((Task.deleteAccount userID).call env o w) w (deleteAccount o w userID).1 {} {} [] := by
  unfold deleteAccount
  cases hsql : o.sqlFails with
  | true => exact .idle _ rfl
  | false =>
    refine ⟨⟨le_refl _, fun _ hx => hx, ?_, ?_⟩, .remove _ (fun L => ?_) rfl rfl⟩
    · intro l hl
      exact .inl (DB.continues_delete l hl)
    · intro r hr
      exact .inl (Table.mem_delete.mp hr).1
    · simp only [Bool.false_eq_true, if_false, DB.standing, DB.scrapeLog, DB.deleteUser]
      rw [standing_delete]
      apply standing_filter
      intro l hl
      left
      simpa [Task.call, hsql, ScrapeLog.core] using (beq_iff_eq.mp hl).symm

theorem updateTimezone_unrelated {userID : Uuid} {body : Except String String} :
    Unrelated w (updateTimezone env o w userID body).1 := by
  cases body with
  | error msg => exact .refl w
  | ok tz =>
    simp only [updateTimezone]
    split_ifs
    · exact .refl w
    · exact .refl w
    · exact ⟨rfl, fun _ hx => hx, rfl, rfl, rfl, rfl, rfl⟩

theorem logout_unrelated {token : String} : Unrelated w (logout env o w token) := by
  unfold logout World.execDropped
  split_ifs
  · exact .refl w
  · exact .refl w
  · exact ⟨rfl, fun _ hx => hx, rfl, rfl, rfl, rfl, rfl⟩

theorem runTask_effect {t t' : Task} {jobs : List ScrapeJob}
    (h : runTask env o w t = some (w', t', jobs)) :
    Effect (t.call env o w) w w' t.worker t'.worker (jobs.map Worker.ofJob) := by
  have hauthed : ∀ token req, t = .authed token req → w' = w → t'.worker = {} →
      Effect (t.call env o w) w w' t.worker t'.worker (jobs.map Worker.ofJob) := by
    intro token req ht hw hworker
    subst ht hw
    have hl : ((Task.authed token req).call env o w').launches = jobs := by
      simp only [Task.call, h]
    rw [hworker, ← hl]
    exact ⟨.of_eq rfl rfl rfl, .quiet _ (.of_eq rfl rfl rfl)⟩
  cases runTask_cases h with
  | getCredentials hr => exact scrapeGetCredentials_effect hr rfl
  | submitShifts hr => exact scrapeSubmitShifts_effect hr
  | submitFailure hr => exact scrapeSubmitFailure_effect hr
  | scrape hr => exact scrapeForUser_effect hr
  | requestPin hr => exact (requestPin_unrelated hr).effect _ rfl
  | verifyPin hr => exact (verifyPin_unrelated hr).effect _ rfl
  | logout => exact logout_unrelated.effect _ rfl
  | refused err => exact hauthed _ _ rfl rfl rfl
  | begun hb =>
    refine hauthed _ _ rfl rfl ?_
    cases AuthedRequest.begin_cases hb <;> rfl
  | writeCredentials hr => exact writeCredentials_effect hr
  | deleteAccount => exact deleteAccount_effect
  | updateTimezone => exact updateTimezone_unrelated.effect _ rfl

end Others

end ScheduleSync
