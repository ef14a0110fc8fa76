import ScheduleSync.Ingestion
import ScheduleSync.KeepFirst

/-! Ingestion after an interruption. The loop of scrapeSubmitShifts takes the entries it can
parse into the shifts table like a list that keeps the first entry of every id, so a run over
the whole upload ends the same way whether or not an earlier run got through a part of it. -/
namespace ScheduleSync

def Shift.content (r : Shift) : Shift := { r with id := "", createdAt := 0 }

def Shift.place (r : Shift) : Uuid × String := (r.userID, r.shiftIDExt)

def DB.contents (db : DB) : List Shift := db.shifts.rows.map Shift.content

def CallbackShift.entry (sh : CallbackShift) (loc : Location) (userID : Uuid) : Option Shift :=
  match parseShiftTime sh.start loc, parseShiftTime sh.stop loc with
  | some start, some stop => some (sh.row "" userID start stop 0)
  | _, _ => none

def entries (loc : Location) (userID : Uuid) (shifts : List CallbackShift) : List Shift :=
  shifts.filterMap fun sh => sh.entry loc userID

section Rows
variable {db db' : DB} {r : Shift} {loc : Location} {userID : Uuid} {sh : CallbackShift}

theorem DB.countShifts_eq_zero :
    db.countShifts r.userID r.shiftIDExt = 0 ↔ r.place ∉ db.contents.map Shift.place := by
  simp [DB.countShifts, DB.contents, Shift.place, Shift.content]

theorem DB.insertShift_contents (h : db.insertShift r = some db') :
    ∃ new : List Shift, db'.shifts.rows = db.shifts.rows ++ new ∧ (∀ x ∈ new, x.userID = r.userID) ∧
      db'.contents = absorb Shift.place db.contents r.content ∧
      new.length = if db.countShifts r.userID r.shiftIDExt = 0 then 1 else 0 := by
  unfold DB.insertShift at h
  split_ifs at h with _ hcount
  · obtain ⟨t, ht, rfl⟩ := Option.map_eq_some_iff.mp h
    have hrows := Table.insert_rows ht
    refine ⟨[r], hrows, by simp, ?_, by simp [hcount]⟩
    have hnew : r.content.place ∉ db.contents.map Shift.place := DB.countShifts_eq_zero.mp hcount
    rw [absorb_new hnew, DB.contents, hrows, List.map_append]
    rfl
  · cases h
    refine ⟨[], (List.append_nil _).symm, by simp, ?_, by simp [hcount]⟩
    have hknown : r.content.place ∈ db.contents.map Shift.place := by
      by_contra hnew
      exact hcount (DB.countShifts_eq_zero.mpr hnew)
    exact (absorb_known hknown).symm

/-- The rows `new` are what the entries `processed` of an upload have added to `base`. -/
structure Taken (loc : Location) (userID : Uuid) (base : DB) (processed : List CallbackShift)
    (newCount : Nat) (db : DB) : Prop where
  rows : ∃ new : List Shift, db.shifts.rows = base.shifts.rows ++ new ∧
    (∀ x ∈ new, x.userID = userID) ∧ new.length = newCount
  contents : db.contents = absorbAll Shift.place base.contents (entries loc userID processed)

theorem Taken.refl (base : DB) : Taken loc userID base [] 0 base :=
  ⟨⟨[], (List.append_nil _).symm, by simp, rfl⟩, rfl⟩

variable {base : DB} {processed : List CallbackShift} {n : Nat}

theorem Taken.length (h : Taken loc userID base processed n db) :
    db.contents.length = base.contents.length + n := by
  obtain ⟨new, hrows, _, hlength⟩ := h.rows
  simp [DB.contents, hrows, hlength]

theorem Taken.others (h : Taken loc userID base processed n db) :
    (db.shifts.rows.filter fun r => r.userID != userID) =
      base.shifts.rows.filter fun r => r.userID != userID := by
  obtain ⟨new, hrows, huser, _⟩ := h.rows
  have hnone : (new.filter fun r => r.userID != userID) = [] := by
    refine List.filter_eq_nil_iff.mpr fun x hx => ?_
    simp [huser x hx]
  rw [hrows, List.filter_append, hnone, List.append_nil]

theorem Taken.rows_of_zero (h : Taken loc userID base processed 0 db) :
    db.shifts.rows = base.shifts.rows := by
  obtain ⟨new, hrows, _, hlength⟩ := h.rows
  rw [hrows, List.eq_nil_of_length_eq_zero hlength, List.append_nil]

theorem Taken.row_of_entry (h : Taken loc userID base processed n db) (hsh : sh ∈ processed)
    (hstart : (parseShiftTime sh.start loc).isSome = true)
    (hstop : (parseShiftTime sh.stop loc).isSome = true) :
    ∃ r ∈ db.shifts, r.userID = userID ∧ r.shiftIDExt = sh.shiftIDExt := by
  obtain ⟨start, hstart⟩ := Option.isSome_iff_exists.mp hstart
  obtain ⟨stop, hstop⟩ := Option.isSome_iff_exists.mp hstop
  have hentry : sh.entry loc userID = some (sh.row "" userID start stop 0) := by
    simp [CallbackShift.entry, hstart, hstop]
  have hmem : sh.row "" userID start stop 0 ∈ entries loc userID processed :=
    List.mem_filterMap.mpr ⟨sh, hsh, hentry⟩
  have hplace : (userID, sh.shiftIDExt) ∈ db.contents.map Shift.place := by
    rw [h.contents]
    exact mem_keys_absorbAll.mpr (.inr (List.mem_map_of_mem hmem))
  rw [DB.contents, List.map_map] at hplace
  obtain ⟨r, hr, heq⟩ := List.mem_map.mp hplace
  exact ⟨r, hr, congrArg Prod.fst heq, congrArg Prod.snd heq⟩

theorem Taken.entry_of_row (h : Taken loc userID base processed n db) (hr : r ∈ db.shifts)
    (huser : r.userID = userID) (hempty : base.shiftsOf userID = []) :
    ∃ sh ∈ processed, r.shiftIDExt = sh.shiftIDExt ∧ r.Carries loc sh := by
  have hcontent : r.content ∈ absorbAll Shift.place base.contents (entries loc userID processed) := by
    rw [← h.contents]
    exact List.mem_map_of_mem hr
  cases mem_absorbAll hcontent with
  | inl hold =>
    obtain ⟨r₀, hr₀, heq⟩ := List.mem_map.mp hold
    have huser₀ : r₀.userID = userID := (congrArg Shift.userID heq).trans huser
    have hmem : r₀ ∈ base.shiftsOf userID := DB.mem_shiftsOf.mpr ⟨hr₀, huser₀⟩
    rw [hempty] at hmem
    cases hmem
  | inr hnew =>
    obtain ⟨sh, hsh, hentry⟩ := List.mem_filterMap.mp hnew
    unfold CallbackShift.entry at hentry
    split at hentry
    · rename_i start stop hstart hstop
      have heq := Option.some.inj hentry
      have hstartTime : start = r.startTime := congrArg Shift.startTime heq
      have hendTime : stop = r.endTime := congrArg Shift.endTime heq
      exact ⟨sh, hsh, (congrArg Shift.shiftIDExt heq).symm, hstart.trans (by rw [hstartTime]),
        hstop.trans (by rw [hendTime]), (congrArg Shift.jobName heq).symm,
        (congrArg Shift.location heq).symm, (congrArg Shift.netHours heq).symm⟩
    · cases hentry

theorem entries_initial {P B : List CallbackShift} (h : P <+: B) :
    entries loc userID P <+: entries loc userID B := h.filterMap _

theorem Taken.skip (h : Taken loc userID base processed n db)
    (hskip : parseShiftTime sh.start loc = none ∨ parseShiftTime sh.stop loc = none) :
    Taken loc userID base (processed ++ [sh]) n db := by
  have hnone : sh.entry loc userID = none := by
    unfold CallbackShift.entry
    split
    · rename_i hstart hstop
      simp [hstart, hstop] at hskip
    · rfl
  refine ⟨h.rows, ?_⟩
  simp [entries, List.filterMap_append, hnone, h.contents]

theorem Taken.insert {start stop now : Int} {id : Uuid} (h : Taken loc userID base processed n db)
    (hstart : parseShiftTime sh.start loc = some start) (hstop : parseShiftTime sh.stop loc = some stop)
    (hinsert : db.insertShift (sh.row id userID start stop now) = some db') :
    Taken loc userID base (processed ++ [sh])
      (if db.countShifts userID sh.shiftIDExt = 0 then n + 1 else n) db' := by
  obtain ⟨new, hrows, huser, hlength⟩ := h.rows
  obtain ⟨added, hadded, hadded', hcontents, hcount⟩ := DB.insertShift_contents hinsert
  refine ⟨⟨new ++ added, ?_, ?_, ?_⟩, ?_⟩
  · rw [hadded, hrows, List.append_assoc]
  · intro x hx
    cases List.mem_append.mp hx with
    | inl hx => exact huser x hx
    | inr hx => exact hadded' x hx
  · have hcount' : added.length = if db.countShifts userID sh.shiftIDExt = 0 then 1 else 0 := hcount
    rw [List.length_append, hlength, hcount']
    split <;> rfl
  · have hentry : sh.entry loc userID = some (sh.row "" userID start stop 0) := by
      simp [CallbackShift.entry, hstart, hstop]
    rw [hcontents, h.contents, entries, entries, List.filterMap_append, absorbAll_append]
    simp only [List.filterMap_cons, hentry, List.filterMap_nil]
    rfl

end Rows

def SubmitShiftsPc.Taking (env : Env) (userID : Uuid) (loc : Location) (base : DB)
    (shifts : List CallbackShift) (db : DB) : SubmitShiftsPc → Prop
  | .readTimezone _ uid rest => uid = userID ∧ rest = shifts ∧ loc = env.locationOf (db.user userID) ∧
    Taken loc userID base [] 0 db
  | .count g => g.userID = userID ∧ g.loc = loc ∧
    ∃ processed, processed ++ g.rest = shifts ∧ Taken loc userID base processed g.newCount db
  | .insert g sh start stop already => g.userID = userID ∧ g.loc = loc ∧
    parseShiftTime sh.start loc = some start ∧ parseShiftTime sh.stop loc = some stop ∧
    already = db.countShifts userID sh.shiftIDExt ∧
    ∃ processed, processed ++ sh :: g.rest = shifts ∧ Taken loc userID base processed g.newCount db
  | .scheduleNext _ _ answer => Taken loc userID base shifts answer.new db
  | .answered (.ok answer) => Taken loc userID base shifts answer.new db
  | _ => False

theorem Taken.congr {loc : Location} {userID : Uuid} {base db db' : DB} {processed : List CallbackShift}
    {n : Nat} (h : Taken loc userID base processed n db) (hshifts : db'.shifts = db.shifts) :
    Taken loc userID base processed n db' := by
  refine ⟨hshifts ▸ h.rows, ?_⟩
  rw [DB.contents, hshifts]
  exact h.contents

theorem scrapeSubmitShifts_taking {env : Env} {o : Outcome} {w w' : World} {key : String}
    {pc pc' : SubmitShiftsPc} {userID : Uuid} {loc : Location} {base : DB} {shifts : List CallbackShift}
    (h : scrapeSubmitShifts env o w key pc = some (w', pc')) (hok : pc.succeeds o w = true)
    (hpc : pc.Taking env userID loc base shifts w.db) : pc'.Taking env userID loc base shifts w'.db := by
  cases scrapeSubmitShifts_cases h with
  | noKey | notFound | badBody | found => exact hpc.elim
  | readTimezone =>
    obtain ⟨rfl, rfl, hloc, htaken⟩ := hpc
    have hsql : o.sqlFails = false := by simpa [SubmitShiftsPc.succeeds] using hok
    rw [select_executed hsql]
    exact ⟨rfl, hloc.symm, [], rfl, htaken⟩
  | @finished g hrest =>
    obtain ⟨_, _, processed, hsplit, htaken⟩ := hpc
    rw [hrest, List.append_nil] at hsplit
    exact (hsplit ▸ htaken).congr (execDropped_shifts rfl)
  | scheduleNext => exact hpc.congr (execDropped_shifts rfl)
  | @skipped g sh rest hrest hskip =>
    obtain ⟨huser, hloc, processed, hsplit, htaken⟩ := hpc
    rw [hrest] at hsplit
    rw [hloc] at hskip
    exact ⟨huser, hloc, processed ++ [sh], by simpa using hsplit, htaken.skip hskip⟩
  | @counted g sh rest start stop hrest hstart hstop =>
    obtain ⟨huser, hloc, processed, hsplit, htaken⟩ := hpc
    rw [hrest] at hsplit
    rw [hloc] at hstart hstop
    have hsql : o.sqlFails = false := by simpa [SubmitShiftsPc.succeeds] using hok
    refine ⟨huser, hloc, hstart, hstop, ?_, processed, hsplit, htaken⟩
    rw [select_executed hsql, huser]
    rfl
  | insertFailed _ hexec => simp [SubmitShiftsPc.succeeds, hexec] at hok
  | @inserted g sh start stop already db _ hexec =>
    obtain ⟨huser, hloc, hstart, hstop, halready, processed, hsplit, htaken⟩ := hpc
    have hinsert := exec_eq_some hexec
    rw [huser] at hinsert
    refine ⟨huser, hloc, processed ++ [sh], by simpa using hsplit, ?_⟩
    rw [halready]
    exact htaken.insert hstart hstop hinsert

namespace Server
variable {env : Env} {s s' : Server} {a : Action} {i : Nat} {key : String} {userID : Uuid}
  {loc : Location} {shifts : List CallbackShift} {n : Nat}

/-- Only task `i` runs, and its statements succeed. -/
def uninterrupted (i : Nat) (s : Server) (a : Action) : Bool :=
  solo i s a &&
    match a with
    | .run _ o =>
      match s.tasks[i]? with
      | some (.submitShifts _ pc) => pc.succeeds o s.toWorld
      | _ => true
    | _ => true

/-- The ingestion loop of task `i`, from its first iteration to its end. -/
structure IngestRun (env : Env) (i : Nat) (userID : Uuid) (loc : Location)
    (shifts : List CallbackShift) (s s' : Server) (newCount : Nat) : Prop where
  first : ∃ key g, s.tasks[i]? = some (.submitShifts key (.count g)) ∧ g.userID = userID ∧
    g.loc = loc ∧ g.rest = shifts ∧ g.newCount = 0
  run : Reaches (step env) (uninterrupted i) s s'
  last : ∃ key g, s'.tasks[i]? = some (.submitShifts key (.count g)) ∧ g.rest = [] ∧
    g.newCount = newCount

theorem taking_step {base : DB} (hok : s.uninterrupted i a = true)
    (hs : ∃ key pc, s.tasks[i]? = some (.submitShifts key pc) ∧ pc.Taking env userID loc base shifts s.db)
    (h : s.step env a = some s') :
    ∃ key pc, s'.tasks[i]? = some (.submitShifts key pc) ∧ pc.Taking env userID loc base shifts s'.db := by
  obtain ⟨key, pc, ht, hpc⟩ := hs
  obtain ⟨hsolo, hsucceeds⟩ := Bool.and_eq_true_iff.mp hok
  cases a with
  | run j o =>
    obtain rfl : j = i := beq_iff_eq.mp hsolo
    obtain ⟨pc', hr, ht'⟩ := submitShifts_step ht h
    simp only [ht] at hsucceeds
    exact ⟨key, pc', ht', scrapeSubmitShifts_taking hr hsucceeds hpc⟩
  | advance d =>
    cases h
    exact ⟨key, pc, ht, hpc⟩
  | _ => cases hsolo

theorem taken_of_upload {logID : Uuid} {answer : ShiftsAnswer}
    (ht : s.tasks[i]? = some (.submitShifts key (.readTimezone logID userID shifts)))
    (h : Reaches (step env) (uninterrupted i) s s')
    (hanswer : s'.tasks[i]? = some (.submitShifts key (.answered (.ok answer)))) :
    Taken (env.locationOf (s.db.user userID)) userID s.db shifts answer.new s'.db := by
  obtain ⟨_, pc, ht', hpc⟩ := h.invariant (I := fun t => ∃ key pc,
    t.tasks[i]? = some (.submitShifts key pc) ∧
      pc.Taking env userID (env.locationOf (s.db.user userID)) s.db shifts t.db)
    ⟨key, _, ht, rfl, rfl, rfl, .refl _⟩ fun _ _ _ hok hs ha => taking_step hok hs ha
  cases hanswer.symm.trans ht'
  exact hpc

theorem IngestRun.taken (h : IngestRun env i userID loc shifts s s' n) :
    Taken loc userID s.db shifts n s'.db := by
  obtain ⟨key, g, ht, huser, hloc, hrest, hnone⟩ := h.first
  have hfirst : (SubmitShiftsPc.count g).Taking env userID loc s.db shifts s.db := by
    refine ⟨huser, hloc, [], hrest, ?_⟩
    rw [hnone]
    exact .refl _
  have hend := h.run.invariant (I := fun t => ∃ key pc, t.tasks[i]? = some (.submitShifts key pc) ∧
    pc.Taking env userID loc s.db shifts t.db) ⟨key, _, ht, hfirst⟩
      fun _ _ _ hok hs ha => taking_step hok hs ha
  obtain ⟨key', g', ht', hrest', rfl⟩ := h.last
  obtain ⟨_, pc, ht₁, hpc⟩ := hend
  cases ht'.symm.trans ht₁
  obtain ⟨_, _, processed, hsplit, htaken⟩ := hpc
  rw [hrest', List.append_nil] at hsplit
  exact hsplit ▸ htaken

theorem step_submitShifts {o : Outcome} {pc pc' : SubmitShiftsPc} {w : World}
    (ht : s.tasks[i]? = some (.submitShifts key pc))
    (h : scrapeSubmitShifts env o s.toWorld key pc = some (w, pc')) :
    ∃ s', s.step env (.run i o) = some s' ∧ s'.toWorld = w ∧
      s'.tasks[i]? = some (.submitShifts key pc') := by
  have hrun : runTask env o s.toWorld (.submitShifts key pc) = some (w, .submitShifts key pc', []) := by
    simp [runTask, h]
  refine ⟨{ s with toWorld := w, tasks := pooled s.tasks i (.submitShifts key pc') [] }, ?_, rfl,
    getElem?_pooled_self ht _ _⟩
  simp [step, ht, hrun]

theorem exists_unused (w : World) : ∃ id : Uuid, id ∉ w.drawn ∧ ∀ r ∈ w.db.shifts, r.id ≠ id := by
  obtain ⟨id, hid⟩ := exists_unused_string (w.drawn ++ w.db.shifts.rows.map Shift.id)
  rw [List.mem_append, not_or] at hid
  refine ⟨id, hid.1, ?_⟩
  rintro r hr rfl
  exact hid.2 (List.mem_map_of_mem hr)

theorem insertShift_isSome {db : DB} {r : Shift} (huser : db.hasUser r.userID = true)
    (hid : ∀ x ∈ db.shifts, x.id ≠ r.id) : (db.insertShift r).isSome = true := by
  unfold DB.insertShift
  rw [if_pos huser]
  split
  · rename_i hcount
    have hnew : ∀ x ∈ db.shifts.rows, ¬ Keyed.Clash x r := by
      rintro x hx (heq | ⟨heq, hext⟩)
      · exact hid x hx heq
      · have hnone := List.countP_eq_zero.mp hcount x hx
        simp [heq, hext] at hnone
    rw [Option.isSome_map, Table.insert, dif_pos hnew]
    rfl
  · rfl

theorem uninterrupted_run {o : Outcome} {pc : SubmitShiftsPc}
    (ht : s.tasks[i]? = some (.submitShifts key pc)) (hok : pc.succeeds o s.toWorld = true) :
    s.uninterrupted i (.run i o) = true := by
  simp [uninterrupted, solo, ht, hok]

theorem exists_insert {g : Ingest} {sh : CallbackShift} {start stop : Int} {already : Nat}
    (ht : s.tasks[i]? = some (.submitShifts key (.insert g sh start stop already)))
    (huser : s.db.hasUser g.userID = true) :
    ∃ s' g', Move (step env) (uninterrupted i) s s' ∧
      s'.tasks[i]? = some (.submitShifts key (.count g')) ∧ g'.rest = g.rest ∧
      s'.db.hasUser g'.userID = true := by
  obtain ⟨id, hid, hunused⟩ := exists_unused s.toWorld
  have hinsert : (s.db.insertShift (sh.row id g.userID start stop (unix s.now))).isSome = true :=
    insertShift_isSome huser hunused
  obtain ⟨db, hdb⟩ := Option.isSome_iff_exists.mp hinsert
  have hexec : World.exec { uuid := id }
      (s.db.insertShift (sh.row id g.userID start stop (unix s.now))) = some db := hdb
  obtain ⟨g', hrun, hrest, huser'⟩ : ∃ g', scrapeSubmitShifts env { uuid := id } s.toWorld key
      (.insert g sh start stop already) =
        some ({ s.toWorld with drawn := id :: s.drawn, db := db }, .count g') ∧
      g'.rest = g.rest ∧ g'.userID = g.userID := by
    simp only [scrapeSubmitShifts, if_neg hid, hexec]
    exact ⟨_, rfl, rfl, rfl⟩
  obtain ⟨s', hs', hw, ht'⟩ := step_submitShifts ht hrun
  have hok : s.uninterrupted i (.run i { uuid := id }) = true :=
    uninterrupted_run ht (Option.isSome_iff_exists.mpr ⟨db, hexec⟩)
  refine ⟨s', g', ⟨_, hok, hs'⟩, ht', hrest, ?_⟩
  rw [hw, huser', DB.hasUser, (DB.insertShift_rows hdb).1]
  exact huser

theorem exists_iteration {g : Ingest} {sh : CallbackShift} {rest : List CallbackShift}
    (ht : s.tasks[i]? = some (.submitShifts key (.count g))) (huser : s.db.hasUser g.userID = true)
    (hrest : g.rest = sh :: rest) :
    ∃ s' g', Reaches (step env) (uninterrupted i) s s' ∧
      s'.tasks[i]? = some (.submitShifts key (.count g')) ∧ g'.rest = rest ∧
      s'.db.hasUser g'.userID = true := by
  have hcount : s.uninterrupted i (.run i {}) = true := uninterrupted_run ht rfl
  by_cases hparse : parseShiftTime sh.start g.loc = none ∨ parseShiftTime sh.stop g.loc = none
  · have hrun : scrapeSubmitShifts env {} s.toWorld key (.count g) =
        some (s.toWorld, .count { g with rest := rest }) := by
      simp only [scrapeSubmitShifts, hrest]
      split
      · rename_i hstart hstop
        simp [hstart, hstop] at hparse
      · rfl
    obtain ⟨s', hs', hw, ht'⟩ := step_submitShifts ht hrun
    exact ⟨s', _, .single ⟨_, hcount, hs'⟩, ht', rfl, by rw [hw]; exact huser⟩
  · obtain ⟨hstart, hstop⟩ := not_or.mp hparse
    obtain ⟨start, hstart⟩ := Option.ne_none_iff_exists'.mp hstart
    obtain ⟨stop, hstop⟩ := Option.ne_none_iff_exists'.mp hstop
    have hrun : scrapeSubmitShifts env {} s.toWorld key (.count g) =
        some (s.toWorld, .insert { g with rest := rest } sh start stop
          (s.db.countShifts g.userID sh.shiftIDExt)) := by
      simp [scrapeSubmitShifts, hrest, hstart, hstop, World.select]
    obtain ⟨s₁, hs₁, hw₁, ht₁⟩ := step_submitShifts ht hrun
    obtain ⟨s', g', hmove, ht', hrest', huser'⟩ := exists_insert ht₁ (by rw [hw₁]; exact huser)
    exact ⟨s', g', .tail (.single ⟨_, hcount, hs₁⟩) hmove, ht', hrest', huser'⟩

theorem exists_ingestRun {g : Ingest} (ht : s.tasks[i]? = some (.submitShifts key (.count g)))
    (huser : s.db.hasUser g.userID = true) (hnone : g.newCount = 0) :
    ∃ s' n, IngestRun env i g.userID g.loc g.rest s s' n := by
  have hloop : ∀ rest (t : Server) (g' : Ingest), t.tasks[i]? = some (.submitShifts key (.count g')) →
      t.db.hasUser g'.userID = true → g'.rest = rest → Reaches (step env) (uninterrupted i) s t →
      ∃ s' n, IngestRun env i g.userID g.loc g.rest s s' n := by
    intro rest
    induction rest with
    | nil =>
      intro t g' ht' _ hrest hrun
      exact ⟨t, g'.newCount, ⟨key, g, ht, rfl, rfl, rfl, hnone⟩, hrun, key, g', ht', hrest, rfl⟩
    | cons sh rest ih =>
      intro t g' ht' huser' hrest hrun
      obtain ⟨t₁, g₁, hrun₁, ht₁, hrest₁, huser₁⟩ := exists_iteration ht' huser' hrest
      exact ih t₁ g₁ ht₁ huser₁ hrest₁ (hrun.trans hrun₁)
  exact hloop g.rest s g ht huser rfl .refl

/-- However far an earlier run of the loop got, the next one ends with the same table and the
same total of new shifts as a single run; one more run finds nothing new. Every such run
comes to its end, and leaves the rows of other users alone. -/
theorem ingestion_resumes {P B : List CallbackShift} {j k l m total again : Nat}
    {s₁ s₂ s₃ s₄ t₁ t₂ t₃ t₄ : Server} (hinitial : P <+: B)
    (hP : IngestRun env i userID loc P s₁ s₂ m)
    (hB : IngestRun env j userID loc B s₃ s₄ n) (h₃ : s₃.db.shifts = s₂.db.shifts)
    (hsingle : IngestRun env k userID loc B t₁ t₂ total) (h₁ : t₁.db.shifts = s₁.db.shifts)
    (hagain : IngestRun env l userID loc B t₃ t₄ again) (ht₃ : t₃.db.shifts = t₂.db.shifts) :
    s₄.db.contents = t₂.db.contents ∧ m + n = total ∧
    t₄.db.shifts.rows = t₃.db.shifts.rows ∧ again = 0 ∧
    (∀ s s' i shifts n, IngestRun env i userID loc shifts s s' n →
      (s'.db.shifts.rows.filter fun r => r.userID != userID) =
        s.db.shifts.rows.filter fun r => r.userID != userID) ∧
    ∀ s i key g, s.tasks[i]? = some (.submitShifts key (.count g)) → g.newCount = 0 →
      s.db.hasUser g.userID = true → ∃ s' n, IngestRun env i g.userID g.loc g.rest s s' n := by
  have hcontents₃ : s₃.db.contents = s₂.db.contents := by rw [DB.contents, h₃, DB.contents]
  have hcontents₁ : t₁.db.contents = s₁.db.contents := by rw [DB.contents, h₁, DB.contents]
  have hcontents₅ : t₃.db.contents = t₂.db.contents := by rw [DB.contents, ht₃, DB.contents]
  have hsame : s₄.db.contents = t₂.db.contents := by
    rw [hB.taken.contents, hcontents₃, hP.taken.contents, absorbAll_resume (entries_initial hinitial),
      hsingle.taken.contents, hcontents₁]
  have hrepeat : t₄.db.contents = t₂.db.contents := by
    rw [hagain.taken.contents, hcontents₅, hsingle.taken.contents, absorbAll_twice]
  have hzero : again = 0 := by
    have hlength := hagain.taken.length
    rw [hrepeat, hcontents₅] at hlength
    omega
  refine ⟨hsame, ?_, ?_, hzero, fun s s' i shifts n h => h.taken.others, ?_⟩
  · have hlength := hB.taken.length
    rw [hcontents₃, hP.taken.length, hsame, hsingle.taken.length, hcontents₁] at hlength
    omega
  · rw [hzero] at hagain
    exact hagain.taken.rows_of_zero
  · exact fun s i key g ht hnone huser => exists_ingestRun ht huser hnone

def readUpload (db : DB) (shifts : List CallbackShift) : Server :=
  { boot db 0 with tasks := [.submitShifts "key1" (.count ⟨"log1", "u1", .utc, shifts.length, shifts, 0⟩)] }

def iterations (i : Nat) (shiftIDs : List Uuid) : List Action :=
  shiftIDs.flatMap fun id => [.run i {}, .run i { uuid := id }]

def loopEnd (db : DB) (shifts : List CallbackShift) (ids : List Uuid) : Server :=
  after (step sampleEnv) (uninterrupted 0) (readUpload db shifts) (iterations 0 ids)

def threeEntries : List CallbackShift := [morning, moved, { moved with shiftIDExt := "shift2" }]

theorem ingestRun_loopEnd {db : DB} {shifts : List CallbackShift} {ids : List Uuid} {g : Ingest}
    (hrun : (runWithin (step sampleEnv) (uninterrupted 0) (readUpload db shifts)
      (iterations 0 ids)).isSome = true)
    (hlast : (loopEnd db shifts ids).tasks[0]? = some (.submitShifts "key1" (.count g)))
    (hrest : g.rest = []) :
    IngestRun sampleEnv 0 "u1" .utc shifts (readUpload db shifts) (loopEnd db shifts ids) g.newCount where
  first := ⟨"key1", _, rfl, rfl, rfl, rfl, rfl⟩
  run := reaches_after hrun
  last := ⟨"key1", g, hlast, hrest, rfl⟩

def interrupted : Server := loopEnd sampleDB [morning] ["sh1"]
def resumed : Server := loopEnd interrupted.db threeEntries ["sh2", "sh3", "sh4"]
def single : Server := loopEnd sampleDB threeEntries ["sh1", "sh2", "sh3"]
def repeated : Server := loopEnd single.db threeEntries ["sh4", "sh5", "sh6"]

theorem ingestion_resumes_after_one : resumed.db.contents = single.db.contents ∧
    repeated.db.shifts.rows = single.db.shifts.rows := by
  have hP : IngestRun sampleEnv 0 "u1" .utc [morning] (readUpload sampleDB [morning]) interrupted 1 :=
    ingestRun_loopEnd (g := ⟨"log1", "u1", .utc, 1, [], 1⟩) (by decide +kernel) rfl rfl
  have hB : IngestRun sampleEnv 0 "u1" .utc threeEntries (readUpload interrupted.db threeEntries)
      resumed 1 :=
    ingestRun_loopEnd (g := ⟨"log1", "u1", .utc, 3, [], 1⟩) (by decide +kernel) rfl rfl
  have hsingle : IngestRun sampleEnv 0 "u1" .utc threeEntries (readUpload sampleDB threeEntries) single 2 :=
    ingestRun_loopEnd (g := ⟨"log1", "u1", .utc, 3, [], 2⟩) (by decide +kernel) rfl rfl
  have hagain : IngestRun sampleEnv 0 "u1" .utc threeEntries (readUpload single.db threeEntries)
      repeated 0 :=
    ingestRun_loopEnd (g := ⟨"log1", "u1", .utc, 3, [], 0⟩) (by decide +kernel) rfl rfl
  obtain ⟨hsame, _, hrows, _⟩ :=
    ingestion_resumes (List.prefix_append [morning] _) hP hB rfl hsingle rfl hagain rfl
  exact ⟨hsame, hrows⟩

end Server
end ScheduleSync
