import ScheduleSync.Effects
import ScheduleSync.Separation

/-! What scrapeSubmitShifts leaves in the shifts table. Its INSERT does nothing for a
shift_id_ext the user already has, so the table follows the upload exactly when the
stored rows with an uploaded id already say the same. -/
namespace ScheduleSync

/-- The row says what was submitted, in UTC seconds. -/
structure Shift.Carries (loc : Location) (sh : CallbackShift) (r : Shift) : Prop where
  start : parseShiftTime sh.start loc = some r.startTime
  stop : parseShiftTime sh.stop loc = some r.endTime
  jobName : r.jobName = sh.jobName
  location : r.location = sh.location
  netHours : r.netHours = sh.netHours

def DB.shiftsOf (db : DB) (userID : Uuid) : List Shift :=
  db.shifts.rows.filter fun r => r.userID == userID

theorem DB.mem_shiftsOf {db : DB} {userID : Uuid} {r : Shift} :
    r ∈ db.shiftsOf userID ↔ r ∈ db.shifts ∧ r.userID = userID := by
  simp [DB.shiftsOf, Table.mem_def]

/-- The location the timestamps of a user are read in. -/
def Env.locationOf (env : Env) (u : Option User) : Location :=
  let tzName := match u with
    | some u => u.timezone
    | none => "UTC"
  (env.loadLocation tzName).getD .utc

/-- The rows of a user after the entries `processed` of an upload, from the rows `base`. -/
structure Ingested (loc : Location) (base : List Shift) (processed : List CallbackShift)
    (rows : List Shift) : Prop where
  kept : ∀ r ∈ base, r ∈ rows
  stored : ∀ sh ∈ processed, ∃ r ∈ rows, r.shiftIDExt = sh.shiftIDExt ∧
    (r ∈ base ∨ r.Carries loc sh)
  origin : ∀ r ∈ rows, r ∈ base ∨ ∃ sh ∈ processed, r.shiftIDExt = sh.shiftIDExt

section Rows
variable {loc : Location} {base rows : List Shift} {processed : List CallbackShift}
  {sh : CallbackShift}

theorem ingested_nil : Ingested loc base [] base := by
  refine ⟨fun _ hr => hr, ?_, fun _ hr => .inl hr⟩
  intro sh hsh
  cases hsh

theorem Ingested.conflict (h : Ingested loc base processed rows)
    (hnew : ∀ x ∈ processed, x.shiftIDExt ≠ sh.shiftIDExt) {r : Shift} (hr : r ∈ rows)
    (hid : r.shiftIDExt = sh.shiftIDExt) : Ingested loc base (processed ++ [sh]) rows := by
  refine ⟨h.kept, ?_, ?_⟩
  · intro x hx
    cases List.mem_append.mp hx with
    | inl hold => exact h.stored x hold
    | inr heq =>
      rw [List.mem_singleton.mp heq]
      refine ⟨r, hr, hid, ?_⟩
      cases h.origin r hr with
      | inl hbase => exact .inl hbase
      | inr hdone =>
        obtain ⟨y, hy, hy'⟩ := hdone
        exact absurd (hy'.symm.trans hid) (hnew y hy)
  · intro x hx
    cases h.origin x hx with
    | inl hbase => exact .inl hbase
    | inr hdone =>
      obtain ⟨y, hy, hy'⟩ := hdone
      exact .inr ⟨y, List.mem_append_left _ hy, hy'⟩

theorem Ingested.append (h : Ingested loc base processed rows) {r : Shift}
    (hid : r.shiftIDExt = sh.shiftIDExt) (hr : r.Carries loc sh) :
    Ingested loc base (processed ++ [sh]) (rows ++ [r]) := by
  refine ⟨fun x hx => List.mem_append_left _ (h.kept x hx), ?_, ?_⟩
  · intro x hx
    cases List.mem_append.mp hx with
    | inl hold =>
      obtain ⟨y, hy, hy'⟩ := h.stored x hold
      exact ⟨y, List.mem_append_left _ hy, hy'⟩
    | inr heq =>
      rw [List.mem_singleton.mp heq]
      exact ⟨r, by simp, hid, .inr hr⟩
  · intro x hx
    cases List.mem_append.mp hx with
    | inl hold =>
      cases h.origin x hold with
      | inl hbase => exact .inl hbase
      | inr hdone =>
        obtain ⟨y, hy, hy'⟩ := hdone
        exact .inr ⟨y, List.mem_append_left _ hy, hy'⟩
    | inr heq =>
      rw [List.mem_singleton.mp heq]
      exact .inr ⟨sh, by simp, hid⟩

end Rows

theorem DB.insertShift_rows {db db' : DB} {r : Shift} (h : db.insertShift r = some db') :
    db'.users = db.users ∧
      ((∃ x ∈ db.shiftsOf r.userID, x.shiftIDExt = r.shiftIDExt) ∧
          db'.shiftsOf r.userID = db.shiftsOf r.userID ∨
        db'.shiftsOf r.userID = db.shiftsOf r.userID ++ [r]) := by
  unfold DB.insertShift at h
  split_ifs at h with _ hcount
  · obtain ⟨t, ht, rfl⟩ := Option.map_eq_some_iff.mp h
    refine ⟨rfl, .inr ?_⟩
    simp [DB.shiftsOf, Table.insert_rows ht, List.filter_append]
  · cases h
    refine ⟨rfl, .inl ⟨?_, rfl⟩⟩
    obtain ⟨x, hx, hmatch⟩ := List.countP_pos_iff.mp (Nat.pos_of_ne_zero hcount)
    have hboth : x.userID = r.userID ∧ x.shiftIDExt = r.shiftIDExt := by simpa using hmatch
    exact ⟨x, DB.mem_shiftsOf.mpr ⟨hx, hboth.1⟩, hboth.2⟩

def SubmitShiftsPc.succeeds (o : Outcome) (w : World) : SubmitShiftsPc → Bool
  | .insert g sh start stop _ =>
    (World.exec o (w.db.insertShift (sh.row o.uuid g.userID start stop (unix w.now)))).isSome
  | _ => !o.sqlFails

def SubmitShiftsPc.Ingesting (userID : Uuid) (loc : Location) (base : List Shift)
    (shifts : List CallbackShift) (rows : List Shift) : SubmitShiftsPc → Prop
  | .lookup _ => False
  | .readTimezone _ uid rest => uid = userID ∧ rest = shifts ∧ rows = base
  | .count g => g.userID = userID ∧ g.loc = loc ∧
    ∃ processed, processed ++ g.rest = shifts ∧ Ingested loc base processed rows
  | .insert g sh start stop _ => g.userID = userID ∧ g.loc = loc ∧
    parseShiftTime sh.start loc = some start ∧ parseShiftTime sh.stop loc = some stop ∧
    ∃ processed, processed ++ sh :: g.rest = shifts ∧ Ingested loc base processed rows
  | .scheduleNext _ _ _ => Ingested loc base shifts rows
  | .answered (.ok _) => Ingested loc base shifts rows
  | .answered (.error _) => True

section Request
variable {env : Env} {o : Outcome} {w w' : World} {key : String} {userID : Uuid} {loc : Location}
  {base : List Shift} {shifts : List CallbackShift}

theorem execDropped_shifts {db : DB} (h : db.shifts = w.db.shifts) :
    (w.execDropped o db).db.shifts = w.db.shifts := by
  unfold World.execDropped
  split
  · rfl
  · exact h

theorem execDropped_shiftsOf {db : DB} (h : db.shifts = w.db.shifts) :
    (w.execDropped o db).db.shiftsOf userID = w.db.shiftsOf userID := by
  rw [DB.shiftsOf, execDropped_shifts h, DB.shiftsOf]

theorem scheduleNext_shiftsOf {logID uid : Uuid} :
    (w.scheduleNext o logID uid).db.shiftsOf userID = w.db.shiftsOf userID :=
  execDropped_shiftsOf rfl

theorem execDropped_user {db : DB} (h : db.users = w.db.users) :
    (w.execDropped o db).db.user userID = w.db.user userID := by
  unfold World.execDropped
  split
  · rfl
  · rw [DB.user, h, DB.user]

theorem scrapeSubmitShifts_ingesting {pc pc' : SubmitShiftsPc}
    (h : scrapeSubmitShifts env o w key pc = some (w', pc')) (hok : pc.succeeds o w = true)
    (hloc : loc = env.locationOf (w.db.user userID))
    (hparse : ∀ sh ∈ shifts, (parseShiftTime sh.start loc).isSome = true ∧
      (parseShiftTime sh.stop loc).isSome = true)
    (hdistinct : (shifts.map CallbackShift.shiftIDExt).Nodup)
    (hpc : pc.Ingesting userID loc base shifts (w.db.shiftsOf userID)) :
    w'.db.user userID = w.db.user userID ∧
      pc'.Ingesting userID loc base shifts (w'.db.shiftsOf userID) := by
  cases scrapeSubmitShifts_cases h with
  | found => exact hpc.elim
  | readTimezone =>
    obtain ⟨rfl, rfl, hrows⟩ := hpc
    have hsql : o.sqlFails = false := by simpa [SubmitShiftsPc.succeeds] using hok
    rw [select_executed hsql]
    refine ⟨rfl, rfl, hloc.symm, [], rfl, ?_⟩
    rw [hrows]
    exact ingested_nil
  | @finished g hrest =>
    obtain ⟨_, _, processed, hsplit, hdone⟩ := hpc
    refine ⟨execDropped_user rfl, ?_⟩
    rw [hrest, List.append_nil] at hsplit
    rw [← hsplit, execDropped_shiftsOf]
    · exact hdone
    · rfl
  | @skipped g sh rest hrest hskip =>
    obtain ⟨_, hgloc, processed, hsplit, _⟩ := hpc
    rw [hrest] at hsplit
    obtain ⟨hstart, hstop⟩ := hparse sh (hsplit ▸ by simp)
    rw [hgloc] at hskip
    cases hskip with
    | inl hnone => simp [hnone] at hstart
    | inr hnone => simp [hnone] at hstop
  | @counted g sh rest start stop hrest hstart hstop =>
    obtain ⟨huser, hgloc, processed, hsplit, hdone⟩ := hpc
    rw [hrest] at hsplit
    rw [hgloc] at hstart hstop
    exact ⟨rfl, huser, hgloc, hstart, hstop, processed, hsplit, hdone⟩
  | insertFailed _ hexec => simp [SubmitShiftsPc.succeeds, hexec] at hok
  | @inserted g sh start stop already db _ hexec =>
    obtain ⟨huser, hgloc, hstart, hstop, processed, hsplit, hdone⟩ := hpc
    obtain ⟨husers, hrows⟩ := DB.insertShift_rows (exec_eq_some hexec)
    refine ⟨by rw [DB.user, husers, DB.user], huser, hgloc, processed ++ [sh], ?_, ?_⟩
    · rw [List.append_assoc]
      exact hsplit
    have huid : (sh.row o.uuid g.userID start stop (unix w.now)).userID = userID := huser
    rw [huid] at hrows
    rcases hrows with ⟨⟨x, hx, hid⟩, hsame⟩ | hadded
    · have hnew : ∀ y ∈ processed, y.shiftIDExt ≠ sh.shiftIDExt := by
        intro y hy heq
        rw [← hsplit, List.map_append, List.map_cons] at hdistinct
        have hdisjoint := (List.nodup_append.mp hdistinct).2.2
        exact hdisjoint _ (List.mem_map_of_mem hy) _ List.mem_cons_self heq
      rw [hsame]
      exact hdone.conflict hnew hx hid
    · rw [hadded]
      exact hdone.append rfl ⟨hstart, hstop, rfl, rfl, rfl⟩
  | scheduleNext =>
    refine ⟨execDropped_user rfl, ?_⟩
    rw [scheduleNext_shiftsOf]
    exact hpc
  | _ => exact ⟨rfl, trivial⟩

end Request

namespace Server
variable {env : Env} {s s' s₁ s₂ : Server} {a : Action} {i : Nat} {key : String} {logID userID : Uuid}
  {shifts : List CallbackShift}

/-- The account of a user and the user's shifts are as before. -/
def keepsShifts (env : Env) (userID : Uuid) (s : Server) (a : Action) : Bool :=
  match s.step env a with
  | none => true
  | some s' =>
    decide (s'.db.user userID = s.db.user userID ∧ s'.db.shiftsOf userID = s.db.shiftsOf userID)

/-- No statement of the request of task `i` fails, and nothing else changes the user's
account or shifts meanwhile. -/
def undisturbed (env : Env) (i : Nat) (userID : Uuid) (s : Server) (a : Action) : Bool :=
  match a with
  | .run j o =>
    if j = i then
      match s.tasks[i]? with
      | some (.submitShifts _ pc) => pc.succeeds o s.toWorld
      | _ => true
    else keepsShifts env userID s a
  | _ => keepsShifts env userID s a

theorem keepsShifts_of_undisturbed (hok : s.undisturbed env i userID a = true)
    (hne : ∀ o, a ≠ .run i o) : s.keepsShifts env userID a = true := by
  cases a with
  | run j o =>
    have hj : j ≠ i := by
      intro heq
      subst heq
      exact hne o rfl
    simpa [undisturbed, hj] using hok
  | _ => exact hok

/-- For every submitted shift the one row of the user with its id says what was submitted. -/
def FollowsSync (userID : Uuid) (loc : Location) (shifts : List CallbackShift) (s : Server) : Prop :=
  ∀ sh ∈ shifts, ∃ r ∈ s.db.shifts, r.userID = userID ∧ r.shiftIDExt = sh.shiftIDExt ∧
    r.Carries loc sh ∧
    ∀ x ∈ s.db.shifts, x.userID = userID → x.shiftIDExt = sh.shiftIDExt → x = r

/-- Whatever is stored of the user under a submitted id already says what is submitted. -/
def AgreesWith (userID : Uuid) (loc : Location) (shifts : List CallbackShift) (s : Server) : Prop :=
  ∀ sh ∈ shifts, ∀ r ∈ s.db.shifts, r.userID = userID → r.shiftIDExt = sh.shiftIDExt →
    r.Carries loc sh

structure Ingesting (i : Nat) (key : String) (userID : Uuid) (loc : Location) (base : List Shift)
    (shifts : List CallbackShift) (u : Option User) (s : Server) : Prop where
  user : s.db.user userID = u
  task : ∃ pc, s.tasks[i]? = some (.submitShifts key pc) ∧
    pc.Ingesting userID loc base shifts (s.db.shiftsOf userID)

theorem undisturbed_cases {t : Task} (hok : s.undisturbed env i userID a = true)
    (ht : s.tasks[i]? = some t) (h : s.step env a = some s') :
    (∃ o, a = .run i o) ∨ s'.tasks[i]? = some t ∧ s'.db.user userID = s.db.user userID ∧
      s'.db.shiftsOf userID = s.db.shiftsOf userID := by
  by_cases hself : ∃ o, a = .run i o
  · exact .inl hself
  · have hne : ∀ o, a ≠ .run i o := fun o heq => hself ⟨o, heq⟩
    have hkept := keepsShifts_of_undisturbed hok hne
    exact .inr ⟨(task_kept ht h).resolve_left hself, by simpa [keepsShifts, h] using hkept⟩

theorem submitShifts_step {pc : SubmitShiftsPc} {o : Outcome}
    (ht : s.tasks[i]? = some (.submitShifts key pc)) (h : s.step env (.run i o) = some s') :
    ∃ pc', scrapeSubmitShifts env o s.toWorld key pc = some (s'.toWorld, pc') ∧
      s'.tasks[i]? = some (.submitShifts key pc') := by
  obtain ⟨w, t', jobs, hrun, rfl⟩ := step_task ht h
  obtain ⟨⟨w₁, pc'⟩, hr, heq⟩ := Option.map_eq_some_iff.mp hrun
  cases heq
  exact ⟨pc', hr, getElem?_pooled_self ht _ _⟩

theorem ingesting_step {loc : Location} {base : List Shift} {u : Option User}
    (hloc : loc = env.locationOf u)
    (hparse : ∀ sh ∈ shifts, (parseShiftTime sh.start loc).isSome = true ∧
      (parseShiftTime sh.stop loc).isSome = true)
    (hdistinct : (shifts.map CallbackShift.shiftIDExt).Nodup)
    (hok : s.undisturbed env i userID a = true)
    (hs : s.Ingesting i key userID loc base shifts u) (h : s.step env a = some s') :
    s'.Ingesting i key userID loc base shifts u := by
  obtain ⟨pc, ht, hpc⟩ := hs.task
  cases undisturbed_cases hok ht h with
  | inl hself =>
    obtain ⟨o, rfl⟩ := hself
    obtain ⟨pc', hr, ht'⟩ := submitShifts_step ht h
    have hsucceeds : pc.succeeds o s.toWorld = true := by
      simpa [undisturbed, ht] using hok
    have hloc' : loc = env.locationOf (s.db.user userID) := by
      rw [hs.user]
      exact hloc
    obtain ⟨husame, hpc'⟩ :=
      scrapeSubmitShifts_ingesting hr hsucceeds hloc' hparse hdistinct hpc
    exact ⟨husame.trans hs.user, pc', ht', hpc'⟩
  | inr hsame =>
    obtain ⟨ht', husame, hrows⟩ := hsame
    refine ⟨husame.trans hs.user, pc, ht', ?_⟩
    rw [hrows]
    exact hpc

/-- The request of task `i`, admitted for a user and answered 200: the table follows the
upload exactly when what it held of it before agreed. -/
theorem follows_sync_iff {answer : ShiftsAnswer}
    (hadmitted : s₁.tasks[i]? = some (.submitShifts key (.readTimezone logID userID shifts)))
    (hparse : ∀ sh ∈ shifts,
      (parseShiftTime sh.start (env.locationOf (s₁.db.user userID))).isSome = true ∧
      (parseShiftTime sh.stop (env.locationOf (s₁.db.user userID))).isSome = true)
    (hdistinct : (shifts.map CallbackShift.shiftIDExt).Nodup)
    (hrun : Reaches (step env) (undisturbed env i userID) s₁ s₂)
    (hanswered : s₂.tasks[i]? = some (.submitShifts key (.answered (.ok answer)))) :
    s₂.FollowsSync userID (env.locationOf (s₁.db.user userID)) shifts ↔
      s₁.AgreesWith userID (env.locationOf (s₁.db.user userID)) shifts := by
  have hstart : s₁.Ingesting i key userID (env.locationOf (s₁.db.user userID))
      (s₁.db.shiftsOf userID) shifts (s₁.db.user userID) :=
    ⟨rfl, _, hadmitted, rfl, rfl, rfl⟩
  have hend := hrun.invariant hstart fun _ _ _ hok hs ha =>
    ingesting_step rfl hparse hdistinct hok hs ha
  obtain ⟨pc, ht, hpc⟩ := hend.task
  rw [hanswered] at ht
  cases ht
  have hdone : Ingested (env.locationOf (s₁.db.user userID)) (s₁.db.shiftsOf userID) shifts
      (s₂.db.shiftsOf userID) := hpc
  constructor
  · intro hfollows sh hsh r hr huser hid
    obtain ⟨x, _, _, _, hcarries, hunique⟩ := hfollows sh hsh
    obtain ⟨hr₂, _⟩ := DB.mem_shiftsOf.mp (hdone.kept r (DB.mem_shiftsOf.mpr ⟨hr, huser⟩))
    rw [hunique r hr₂ huser hid]
    exact hcarries
  · intro hagrees sh hsh
    obtain ⟨r, hr, hid, horigin⟩ := hdone.stored sh hsh
    obtain ⟨hmem, huser⟩ := DB.mem_shiftsOf.mp hr
    refine ⟨r, hmem, huser, hid, ?_, ?_⟩
    · cases horigin with
      | inl hbase =>
        obtain ⟨hold, _⟩ := DB.mem_shiftsOf.mp hbase
        exact hagrees sh hsh r hold huser hid
      | inr hcarries => exact hcarries
    · intro x hx hxuser hxid
      exact Table.eq_of_clash hx hmem (.inr ⟨hxuser.trans huser.symm, hxid.trans hid.symm⟩)

def admitted (s : Server) (i : Nat) : Option (String × Uuid × Uuid × List CallbackShift) :=
  match s.tasks[i]? with
  | some (.submitShifts key (.readTimezone logID userID shifts)) => some (key, logID, userID, shifts)
  | _ => none

def accepted (s : Server) (i : Nat) : Option (String × ShiftsAnswer) :=
  match s.tasks[i]? with
  | some (.submitShifts key (.answered (.ok answer))) => some (key, answer)
  | _ => none

theorem task_of_admitted (h : s.admitted i = some (key, logID, userID, shifts)) :
    s.tasks[i]? = some (.submitShifts key (.readTimezone logID userID shifts)) := by
  unfold admitted at h
  split at h
  · rename_i ht
    cases h
    exact ht
  · cases h

theorem task_of_accepted {answer : ShiftsAnswer} (h : s.accepted i = some (key, answer)) :
    s.tasks[i]? = some (.submitShifts key (.answered (.ok answer))) := by
  unfold accepted at h
  split at h
  · rename_i ht
    cases h
    exact ht
  · cases h

/-- The attempt of task `i` and the upload of one shift, up to the check of its key. -/
def upload (i : Nat) (logID key containerID : String) (sh : CallbackShift) : List Action :=
  launch i logID key containerID ++ [.arrive (.submitShifts key (.ok [sh])), .run (i + 1) {}]

def uploadOf (shifts : List CallbackShift) : List Action :=
  firstPoll ++ launch 0 "log1" "key1" "c1" ++ .arrive (.submitShifts "key1" (.ok shifts)) :: statements 1 1

def received (shifts : List CallbackShift) : Server :=
  after (step sampleEnv) anyStep (boot sampleDB 0) (uploadOf shifts)

def sampleShift (start stop : String) : CallbackShift := ⟨start, stop, "barista", 4, "shift1", "store 1"⟩

def morning : CallbackShift := sampleShift "2026-03-08T09:00:00" "2026-03-08T13:00:00"
def moved : CallbackShift := sampleShift "2026-03-08T10:00:00" "2026-03-08T14:00:00"

def ingest (i : Nat) (shiftID : Uuid) : List Action :=
  [.run i {}, .run i {}, .run i { uuid := shiftID }, .run i {}, .run i {}]

def uploadAgain (first second : CallbackShift) : List Action :=
  firstPoll ++ upload 0 "log1" "key1" "c1" first ++ ingest 1 "sh1" ++
    List.replicate 3 (.schedule {}) ++ [.advance (25 * (60 * 60 * 1000000000)), .schedule {},
      .schedule {}] ++ upload 2 "log2" "key2" "c2" second

def secondUpload (sh : CallbackShift) : Server :=
  after (step sampleEnv) anyStep (boot sampleDB 0) (uploadAgain morning sh)

def secondAnswer (sh : CallbackShift) : Server :=
  after (step sampleEnv) (undisturbed sampleEnv 3 "u1") (secondUpload sh) (ingest 3 "sh2")

theorem follows_sync_iff_unchanged :
    (secondAnswer morning).FollowsSync "u1"
        (sampleEnv.locationOf ((secondUpload morning).db.user "u1")) [morning] ↔
      (secondUpload morning).AgreesWith "u1"
        (sampleEnv.locationOf ((secondUpload morning).db.user "u1")) [morning] := by
  have hadmitted : (secondUpload morning).admitted 3 = some ("key2", "log2", "u1", [morning]) := by
    decide +kernel
  have hanswered : (secondAnswer morning).accepted 3 = some ("key2", ⟨1, 0⟩) := by decide +kernel
  exact follows_sync_iff (task_of_admitted hadmitted) (by decide +kernel) (by decide)
    (reaches_after (by decide +kernel)) (task_of_accepted hanswered)

/-- The shift has moved by an hour: its upload is answered 200 and the table keeps the
old times. -/
theorem schedule_left_stale :
    ∃ s₁ s₂, Reaches (step sampleEnv) anyStep (boot sampleDB 0) s₁ ∧
      s₁.admitted 3 = some ("key2", "log2", "u1", [moved]) ∧
      (parseShiftTime moved.start .utc).isSome = true ∧
      (parseShiftTime moved.stop .utc).isSome = true ∧
      Reaches (step sampleEnv) (undisturbed sampleEnv 3 "u1") s₁ s₂ ∧
      s₂.accepted 3 = some ("key2", ⟨1, 0⟩) ∧ ¬ s₂.FollowsSync "u1" .utc [moved] := by
  refine ⟨secondUpload moved, secondAnswer moved, reaches_after (by decide +kernel),
    by decide +kernel, by decide, by decide, reaches_after (by decide +kernel),
    by decide +kernel, ?_⟩
  intro hfollows
  obtain ⟨r, hr, _, _, hcarries, _⟩ := hfollows moved (by simp)
  have hold : ∀ x ∈ (secondAnswer moved).db.shifts.rows, x.startTime = 1772960400 := by
    decide +kernel
  have hnew : parseShiftTime moved.start .utc = some 1772964000 := by decide
  have hstart := hcarries.start
  rw [hnew, hold r hr] at hstart
  cases hstart

end Server
end ScheduleSync
