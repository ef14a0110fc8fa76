import ScheduleSync.CredentialStore
import ScheduleSync.Custody
import ScheduleSync.Ingestion

/-! Whose data a callback deals with. A key stands for the user of the log that it was drawn
with. A request that comes with it gets credentials this user saved, and the shifts that it
stores are this user's and were uploaded with it. -/
namespace ScheduleSync

def GetCredentialsPc.Belongs (owns : Uuid → Prop) (saved : List (Uuid × CredentialsInput)) :
    GetCredentialsPc → Prop
  | .lookup => True
  | .loadDEK userID => owns userID
  | .loadRow userID _ => owns userID
  | .markFetched creds => ∃ userID, owns userID ∧ (userID, creds) ∈ saved
  | .answered (.ok creds) => ∃ userID, owns userID ∧ (userID, creds) ∈ saved
  | .answered (.error _) => True

def SubmitShiftsPc.Belongs (owns : Uuid → Prop) (uploaded : CallbackShift → Prop) : SubmitShiftsPc → Prop
  | .lookup (.ok shifts) => ∀ e ∈ shifts, uploaded e
  | .lookup (.error _) => True
  | .readTimezone _ userID shifts => owns userID ∧ ∀ e ∈ shifts, uploaded e
  | .count i => owns i.userID ∧ ∀ e ∈ i.rest, uploaded e
  | .insert i sh start stop _ => owns i.userID ∧ (∀ e ∈ i.rest, uploaded e) ∧ uploaded sh ∧
      parseShiftTime sh.start i.loc = some start ∧ parseShiftTime sh.stop i.loc = some stop
  | .scheduleNext _ _ _ => True
  | .answered _ => True

def Task.Belongs (owns : String → Uuid → Prop) (saved : List (Uuid × CredentialsInput))
    (uploaded : String → CallbackShift → Prop) : Task → Prop
  | .getCredentials key pc => pc.Belongs (owns key) saved
  | .submitShifts key pc => pc.Belongs (owns key) (uploaded key)
  | _ => True

/-- The row was uploaded with a key of its user. -/
def Shift.Uploaded (owns : String → Uuid → Prop) (uploaded : String → CallbackShift → Prop) (r : Shift) : Prop :=
  ∃ key sh loc, owns key r.userID ∧ uploaded key sh ∧ r.Carries loc sh

section Later
variable {owns owns' : String → Uuid → Prop} {saved saved' : List (Uuid × CredentialsInput)}
  {uploaded uploaded' : String → CallbackShift → Prop}

theorem Task.Belongs.mono (howns : ∀ key userID, owns key userID → owns' key userID)
    (hsaved : ∀ x ∈ saved, x ∈ saved') (huploaded : ∀ key sh, uploaded key sh → uploaded' key sh) {t : Task}
    (h : t.Belongs owns saved uploaded) : t.Belongs owns' saved' uploaded' := by
  have hfound : ∀ {key creds}, (∃ userID, owns key userID ∧ (userID, creds) ∈ saved) →
      ∃ userID, owns' key userID ∧ (userID, creds) ∈ saved' := by
    rintro key creds ⟨userID, hkey, hmem⟩
    exact ⟨userID, howns _ _ hkey, hsaved _ hmem⟩
  cases t with
  | getCredentials key pc =>
    cases pc with
    | lookup => trivial
    | loadDEK | loadRow => exact howns _ _ h
    | markFetched => exact hfound h
    | answered r =>
      cases r with
      | ok creds => exact hfound h
      | error => trivial
  | submitShifts key pc =>
    have hall : ∀ {es : List CallbackShift}, (∀ e ∈ es, uploaded key e) → ∀ e ∈ es, uploaded' key e :=
      fun hes e he => huploaded key e (hes e he)
    cases pc with
    | lookup body =>
      cases body with
      | ok shifts => exact hall h
      | error => trivial
    | readTimezone | count => exact ⟨howns _ _ h.1, hall h.2⟩
    | insert => exact ⟨howns _ _ h.1, hall h.2.1, huploaded _ _ h.2.2.1, h.2.2.2⟩
    | scheduleNext | answered => trivial
  | _ => trivial

theorem Shift.Uploaded.mono (howns : ∀ key userID, owns key userID → owns' key userID)
    (huploaded : ∀ key sh, uploaded key sh → uploaded' key sh) {r : Shift}
    (h : r.Uploaded owns uploaded) : r.Uploaded owns' uploaded' := by
  obtain ⟨key, sh, loc, hkey, hsh, hcarries⟩ := h
  exact ⟨key, sh, loc, howns _ _ hkey, huploaded _ _ hsh, hcarries⟩

end Later

section Handlers
variable {env : Env} {o : Outcome} {w w' : World} {key : String} {owns : String → Uuid → Prop}
  {earlier : List (Uuid × CredentialsInput)} {uploaded : String → CallbackShift → Prop}

theorem saved_of_loadRow (hw : w.Coherent env earlier) {userID : Uuid} {plainDEK : Bytes}
    {row : StarbucksCredentials} {creds : CredentialsInput}
    (hknows : (Task.getCredentials key (.loadRow userID plainDEK)).Knows env w)
    (hrow : w.db.credentials userID = some row)
    (hopen : openCredentials env.crypto env.json plainDEK row = .ok creds) :
    (userID, creds) ∈ w.trace.saved ++ earlier := by
  obtain ⟨hmem, rfl⟩ := DB.mem_of_credentials hrow
  obtain ⟨k, input, hk, hsaved, hopened⟩ := hw.db.rows row hmem
  have hknown : w.db.HoldsKey env row.userID plainDEK := hknows.2 (hw.db.hasUser hk)
  rw [hk.unique hknown, hopen] at hopened
  cases hopened
  obtain ⟨⟨uid, input⟩, hfind, rfl⟩ := Option.map_eq_some_iff.mp hsaved
  have huid : uid = row.userID := by simpa using List.find?_some hfind
  rw [← huid]
  exact List.mem_of_find?_eq_some hfind

theorem scrapeGetCredentials_belongs {pc pc' : GetCredentialsPc}
    (h : scrapeGetCredentials env o w key pc = some (w', pc')) (hw : w.Coherent env earlier)
    (hknows : (Task.getCredentials key pc).Knows env w)
    (hrows : ∀ l ∈ w.db.scrapeLogs, l.scrapeKey = some key → owns key l.userID)
    (hpc : pc.Belongs (owns key) (w.trace.saved ++ earlier)) :
    pc'.Belongs (owns key) (w.trace.saved ++ earlier) := by
  cases scrapeGetCredentials_cases h with
  | found hsel =>
    obtain ⟨hmem, hkey, _⟩ := DB.mem_of_runningLog (select_eq_some hsel)
    exact hrows _ hmem hkey
  | loadDEK | markFetched => exact hpc
  | loadRow hsel hopen => exact ⟨_, hpc, saved_of_loadRow hw hknows (select_eq_some hsel) hopen⟩
  | _ => trivial

theorem scrapeSubmitShifts_belongs {pc pc' : SubmitShiftsPc}
    (h : scrapeSubmitShifts env o w key pc = some (w', pc'))
    (hrows : ∀ l ∈ w.db.scrapeLogs, l.scrapeKey = some key → owns key l.userID)
    (hpc : pc.Belongs (owns key) (uploaded key)) : pc'.Belongs (owns key) (uploaded key) := by
  cases scrapeSubmitShifts_cases h with
  | found hsel =>
    obtain ⟨hmem, hkey, _⟩ := DB.mem_of_runningLog (select_eq_some hsel)
    exact ⟨hrows _ hmem hkey, hpc⟩
  | readTimezone => exact hpc
  | skipped hrest =>
    obtain ⟨howner, hes⟩ := hpc
    rw [hrest] at hes
    exact ⟨howner, fun e he => hes e (List.mem_cons_of_mem _ he)⟩
  | counted hrest hstart hstop =>
    obtain ⟨howner, hes⟩ := hpc
    rw [hrest] at hes
    exact ⟨howner, fun e he => hes e (List.mem_cons_of_mem _ he), hes _ List.mem_cons_self, hstart, hstop⟩
  | insertFailed | inserted => exact ⟨hpc.1, hpc.2.1⟩
  | _ => trivial

theorem runTask_belongs {t t' : Task} {jobs : List ScrapeJob}
    (h : runTask env o w t = some (w', t', jobs)) (hw : w.Coherent env earlier) (hknows : t.Knows env w)
    (hrows : ∀ l ∈ w.db.scrapeLogs, ∀ key, l.scrapeKey = some key → owns key l.userID)
    (ht : t.Belongs owns (w.trace.saved ++ earlier) uploaded) :
    t'.Belongs owns (w.trace.saved ++ earlier) uploaded := by
  cases runTask_cases h with
  | getCredentials hr => exact scrapeGetCredentials_belongs hr hw hknows (fun l hl => hrows l hl _) ht
  | submitShifts hr => exact scrapeSubmitShifts_belongs hr (fun l hl => hrows l hl _) ht
  | begun hb => cases AuthedRequest.begin_cases hb <;> trivial
  | _ => trivial

theorem runTask_saved {t t' : Task} {jobs : List ScrapeJob}
    (h : runTask env o w t = some (w', t', jobs)) : ∀ x ∈ w.trace.saved, x ∈ w'.trace.saved := by
  have hsame : w'.trace.saved = w.trace.saved → ∀ x ∈ w.trace.saved, x ∈ w'.trace.saved := by
    intro heq x hx
    rwa [heq]
  cases runTask_cases h with
  | getCredentials hr => exact hsame (scrapeGetCredentials_apart hr).saved
  | submitShifts hr => exact hsame (scrapeSubmitShifts_apart hr).saved
  | submitFailure hr => exact hsame (scrapeSubmitFailure_apart hr).saved
  | scrape hr => exact hsame (scrapeForUser_apart hr).saved
  | requestPin hr => exact hsame (requestPin_sameKeys hr).saved
  | verifyPin hr => exact hsame (verifyPin_sameKeys hr).saved
  | logout => exact hsame logout_apart.saved
  | refused | begun => exact fun x hx => hx
  | updateTimezone => exact hsame updateTimezone_sameKeys.saved
  | deleteAccount =>
    refine hsame ?_
    unfold deleteAccount
    split <;> rfl
  | writeCredentials hr =>
    cases writeCredentials_cases hr with
    | upsert => exact fun x hx => List.mem_cons_of_mem _ hx
    | _ => exact fun x hx => hx

end Handlers

namespace Server
variable {env : Env} {s s' : Server} {a : Action} {db₀ : DB} {start : Int}
  {earlier : List (Uuid × CredentialsInput)} {uploaded uploaded' : String → CallbackShift → Prop}

/-- A log of the user was inserted with the key. -/
def KeyOf (db₀ : DB) (s : Server) (key : String) (userID : Uuid) : Prop :=
  ∃ k ∈ s.known db₀, k.scrapeKey = some key ∧ k.userID = userID

theorem KeyOf.unique (hs : Custody db₀ s) {key : String} {u u' : Uuid} (h : s.KeyOf db₀ key u)
    (h' : s.KeyOf db₀ key u') : u = u' := by
  obtain ⟨k, hk, hkey, rfl⟩ := h
  obtain ⟨k', hk', hkey', rfl⟩ := h'
  rw [hs.own k hk k' hk' (by simp [hkey]) (hkey.trans hkey'.symm)]

theorem keyOf_step (h : s.step env a = some s') {key : String} {u : Uuid} (hkey : s.KeyOf db₀ key u) :
    s'.KeyOf db₀ key u := by
  obtain ⟨k, hk, hrest⟩ := hkey
  exact ⟨k, known_mono (hands_step h).attempts hk, hrest⟩

theorem saved_step (h : s.step env a = some s') : ∀ x ∈ s.trace.saved, x ∈ s'.trace.saved := by
  cases a with
  | run i o =>
    obtain ⟨_, _, _, _, _, hrun, rfl⟩ := step_run h
    exact runTask_saved hrun
  | schedule o =>
    obtain ⟨_, _, _, hrun, rfl⟩ := step_schedule h
    intro x hx
    show x ∈ (World.trace _).saved
    rwa [(runScheduler_apart hrun).saved]
  | _ =>
    cases h
    exact fun x hx => hx

/-- Every request with a key deals with the user of the key, and every shift row is one of the
start or was uploaded with a key of its user. -/
structure Provenance (db₀ : DB) (earlier : List (Uuid × CredentialsInput))
    (uploaded : String → CallbackShift → Prop) (s : Server) : Prop where
  tasks : ∀ t ∈ s.tasks, t.Belongs (s.KeyOf db₀) (s.trace.saved ++ earlier) uploaded
  shifts : ∀ r ∈ s.db.shifts, r ∈ db₀.shifts ∨ r.Uploaded (s.KeyOf db₀) uploaded

theorem provenance_boot : Provenance db₀ earlier uploaded (boot db₀ start) :=
  ⟨fun _ ht => (List.not_mem_nil ht).elim, fun _ hr => .inl hr⟩

theorem Provenance.mono (h : Provenance db₀ earlier uploaded s)
    (huploaded : ∀ key sh, uploaded key sh → uploaded' key sh) : Provenance db₀ earlier uploaded' s where
  tasks t ht := (h.tasks t ht).mono (fun _ _ hk => hk) (fun _ hx => hx) huploaded
  shifts r hr := (h.shifts r hr).imp id (Shift.Uploaded.mono (fun _ _ hk => hk) huploaded)

theorem provenance_step (hcustody : Custody db₀ s) (hstore : s.StoreCoherent env earlier)
    (hs : Provenance db₀ earlier uploaded s)
    (harrive : ∀ key shifts, a = .arrive (.submitShifts key (.ok shifts)) → ∀ e ∈ shifts, uploaded key e)
    (h : s.step env a = some s') : Provenance db₀ earlier uploaded s' := by
  have howns : ∀ key u, s.KeyOf db₀ key u → s'.KeyOf db₀ key u := fun _ _ => keyOf_step h
  have hsaved : ∀ x ∈ s.trace.saved ++ earlier, x ∈ s'.trace.saved ++ earlier := fun x hx =>
    (List.mem_append.mp hx).elim (fun hx => List.mem_append_left _ (saved_step h x hx)) (List.mem_append_right _)
  have hlater : ∀ t : Task, t.Belongs (s.KeyOf db₀) (s.trace.saved ++ earlier) uploaded →
      t.Belongs (s'.KeyOf db₀) (s'.trace.saved ++ earlier) uploaded :=
    fun t ht => ht.mono howns hsaved fun _ _ hsh => hsh
  have hold : ∀ t ∈ s.tasks, t.Belongs (s'.KeyOf db₀) (s'.trace.saved ++ earlier) uploaded :=
    fun t ht => hlater t (hs.tasks t ht)
  have hjobs : ∀ (jobs : List ScrapeJob), ∀ t ∈ jobs.map ScrapeJob.task,
      t.Belongs (s'.KeyOf db₀) (s'.trace.saved ++ earlier) uploaded :=
    fun jobs => List.forall_mem_map.mpr fun _ _ => trivial
  refine ⟨?_, ?_⟩
  · cases a with
    | run i o =>
      obtain ⟨t, w, t', jobs, ht, hrun, rfl⟩ := step_run h
      have hmem := mem_of_getElem?_pool ht
      have hrows : ∀ l ∈ s.db.scrapeLogs, ∀ key, l.scrapeKey = some key → s.KeyOf db₀ key l.userID := by
        intro l hl key hkey
        obtain ⟨k, hk, _, hkkey, hkuser⟩ := hcustody.rows l hl
        exact ⟨k, hk, hkkey.trans hkey, hkuser⟩
      exact forall_pooled hold
        (hlater t' (runTask_belongs hrun hstore.world (hstore.knows t hmem) hrows (hs.tasks t hmem))) (hjobs jobs)
    | schedule o =>
      obtain ⟨w, sch, jobs, hrun, rfl⟩ := step_schedule h
      exact List.forall_mem_append.mpr ⟨hold, hjobs jobs⟩
    | arrive r =>
      cases h
      refine List.forall_mem_append.mpr ⟨hold, List.forall_mem_singleton.mpr ?_⟩
      cases r with
      | submitShifts key body =>
        cases body with
        | ok shifts => exact harrive key shifts rfl
        | error => trivial
      | _ => trivial
    | _ =>
      cases h
      exact hold
  · refine db_step h (P := fun db => ∀ r ∈ db.shifts, r ∈ db₀.shifts ∨ r.Uploaded (s'.KeyOf db₀) uploaded)
      (fun r hr => (hs.shifts r hr).imp id (Shift.Uploaded.mono howns fun _ _ hsh => hsh)) ?_
    intro x hwr hdone _ r hr
    cases hdone.shifts hr with
    | inl hkept => exact (hs.shifts r hkept).imp id (Shift.Uploaded.mono howns fun _ _ hsh => hsh)
    | inr heq =>
      subst heq
      rcases write_cases hwr with ⟨i, o, t, rfl, ht, hwrites⟩ | ⟨o, rfl, hwrites⟩
      · cases hwrites with
        | insertShift =>
          obtain ⟨howner, _, hsh, hstart, hstop⟩ := hs.tasks _ (mem_of_getElem?_pool ht)
          exact .inr ⟨_, _, _, howns _ _ howner, hsh, ⟨hstart, hstop, rfl, rfl, rfl⟩⟩
      · generalize s.scheduler = sch at hwrites
        cases hwrites

theorem provenance_of_reaches (hdb : db₀.Coherent env earlier)
    (h : Reaches (step env) anyStep (boot db₀ start) s) :
    Provenance db₀ earlier (fun _ _ => True) s := by
  induction h with
  | refl => exact provenance_boot
  | tail hbefore hmove ih =>
    obtain ⟨a, _, ha⟩ := hmove
    exact provenance_step (custody_of_reaches hbefore) (storeCoherent_of_reaches hdb hbefore) ih
      (fun _ _ _ _ _ => trivial) ha

end Server
end ScheduleSync
