import ScheduleSync.Resume
import ScheduleSync.Writes

/-! What a success report leaves out. The count it gives is that of the submitted entries. An
entry with a timestamp that does not parse is passed over by the loop and only logged, so the
report stands for a row of every entry that does parse, as far as its INSERT was executed. -/
namespace ScheduleSync

/-- Each of the entries has a row of the user, unless one of its timestamps does not parse or
its INSERT, at the place given by `failed`, was not executed. -/
def DB.Represents (db : DB) (userID : Uuid) (loc : Location) (failed : List Nat)
    (shifts : List CallbackShift) : Prop :=
  ∀ k sh, shifts[k]? = some sh → (parseShiftTime sh.start loc).isSome = true →
    (parseShiftTime sh.stop loc).isSome = true → k ∉ failed →
    ∃ r ∈ db.shiftsOf userID, r.shiftIDExt = sh.shiftIDExt

section Entries
variable {db db' : DB} {userID : Uuid} {loc : Location} {failed : List Nat}
  {shifts : List CallbackShift} {sh : CallbackShift}

theorem DB.represents_nil : db.Represents userID loc failed [] := by
  intro k sh hsh
  simp at hsh

theorem DB.Represents.mono (h : db.Represents userID loc failed shifts)
    (hrows : ∀ r ∈ db.shiftsOf userID, r ∈ db'.shiftsOf userID) (more : List Nat) :
    db'.Represents userID loc (more ++ failed) shifts := by
  intro k sh hsh hstart hstop hk
  obtain ⟨r, hr, hid⟩ := h k sh hsh hstart hstop fun hmem => hk (List.mem_append_right _ hmem)
  exact ⟨r, hrows r hr, hid⟩

theorem DB.Represents.append (h : db.Represents userID loc failed shifts)
    (hnext : (parseShiftTime sh.start loc).isSome = true → (parseShiftTime sh.stop loc).isSome = true →
      shifts.length ∉ failed → ∃ r ∈ db.shiftsOf userID, r.shiftIDExt = sh.shiftIDExt) :
    db.Represents userID loc failed (shifts ++ [sh]) := by
  intro k x hx hstart hstop hk
  rw [List.getElem?_append] at hx
  split at hx
  · exact h k x hx hstart hstop hk
  · rename_i hge
    rw [List.getElem?_singleton] at hx
    split_ifs at hx with hlast
    cases hx
    obtain rfl : k = shifts.length := by omega
    exact hnext hstart hstop hk

end Entries

def SubmitShiftsPc.lost (o : Outcome) (w : World) : SubmitShiftsPc → Option Nat
  | .insert g sh start stop _ =>
    if (World.exec o (w.db.insertShift (sh.row o.uuid g.userID start stop (unix w.now)))).isNone then
      some (g.found - g.rest.length - 1)
    else none
  | _ => none

def SubmitShiftsPc.Reporting (userID : Uuid) (loc : Location) (shifts : List CallbackShift)
    (failed : List Nat) (db : DB) : SubmitShiftsPc → Prop
  | .count g => g.userID = userID ∧ g.loc = loc ∧ g.found = shifts.length ∧
    ∃ processed, processed ++ g.rest = shifts ∧ db.Represents userID loc failed processed
  | .insert g sh _ _ _ => g.userID = userID ∧ g.loc = loc ∧ g.found = shifts.length ∧
    ∃ processed, processed ++ sh :: g.rest = shifts ∧ db.Represents userID loc failed processed
  | .scheduleNext _ _ answer => answer.accepted = shifts.length ∧ db.Represents userID loc failed shifts
  | .answered (.ok answer) => answer.accepted = shifts.length ∧ db.Represents userID loc failed shifts
  | _ => False

section Request
variable {env : Env} {o : Outcome} {w w' : World} {key : String} {userID : Uuid} {loc : Location}
  {shifts : List CallbackShift} {failed : List Nat} {pc pc' : SubmitShiftsPc}

theorem SubmitShiftsPc.Reporting.mono {db db' : DB} (h : pc.Reporting userID loc shifts failed db)
    (hrows : ∀ r ∈ db.shiftsOf userID, r ∈ db'.shiftsOf userID) :
    pc.Reporting userID loc shifts failed db' := by
  cases pc with
  | count g | insert g sh start stop already =>
    obtain ⟨huser, hloc, hfound, processed, hsplit, hdone⟩ := h
    exact ⟨huser, hloc, hfound, processed, hsplit, hdone.mono hrows []⟩
  | scheduleNext logID uid answer => exact ⟨h.1, h.2.mono hrows []⟩
  | answered r =>
    cases r with
    | ok answer => exact ⟨h.1, h.2.mono hrows []⟩
    | error err => exact h.elim
  | lookup body | readTimezone logID uid rest => exact h.elim

theorem scrapeSubmitShifts_reporting (h : scrapeSubmitShifts env o w key pc = some (w', pc'))
    (hpc : pc.Reporting userID loc shifts failed w.db) :
    pc'.Reporting userID loc shifts ((pc.lost o w).toList ++ failed) w'.db := by
  cases scrapeSubmitShifts_cases h with
  | noKey | notFound | badBody | found | readTimezone => exact hpc.elim
  | @finished g hrest =>
    obtain ⟨_, _, hfound, processed, hsplit, hdone⟩ := hpc
    rw [hrest, List.append_nil] at hsplit
    refine ⟨hfound, hsplit ▸ hdone.mono (fun r hr => ?_) []⟩
    rw [execDropped_shiftsOf]
    · exact hr
    · rfl
  | @skipped g sh rest hrest hskip =>
    obtain ⟨huser, hloc, hfound, processed, hsplit, hdone⟩ := hpc
    rw [hrest] at hsplit
    rw [hloc] at hskip
    refine ⟨huser, hloc, hfound, processed ++ [sh], by simpa using hsplit, hdone.append ?_⟩
    intro hstart hstop
    cases hskip with
    | inl hnone => simp [hnone] at hstart
    | inr hnone => simp [hnone] at hstop
  | @counted g sh rest start stop hrest hstart hstop =>
    obtain ⟨huser, hloc, hfound, processed, hsplit, hdone⟩ := hpc
    rw [hrest] at hsplit
    exact ⟨huser, hloc, hfound, processed, hsplit, hdone⟩
  | @insertFailed g sh start stop already hid hexec =>
    obtain ⟨huser, hloc, hfound, processed, hsplit, hdone⟩ := hpc
    have hplace : g.found - g.rest.length - 1 = processed.length := by
      rw [hfound, ← hsplit, List.length_append, List.length_cons]
      omega
    have hlost : (SubmitShiftsPc.insert g sh start stop already).lost o w = some processed.length := by
      simp only [SubmitShiftsPc.lost, hexec, Option.isNone_none, if_true, hplace]
    rw [hlost]
    refine ⟨huser, hloc, hfound, processed ++ [sh], by simpa using hsplit, ?_⟩
    refine (hdone.mono (fun r hr => hr) [processed.length]).append ?_
    intro _ _ hnot
    exact absurd (List.mem_append_left _ List.mem_cons_self) hnot
  | @inserted g sh start stop already db hid hexec =>
    obtain ⟨huser, hloc, hfound, processed, hsplit, hdone⟩ := hpc
    have hlost : (SubmitShiftsPc.insert g sh start stop already).lost o w = none := by
      simp [SubmitShiftsPc.lost, hexec]
    have hadded := (DB.insertShift_rows (exec_eq_some hexec)).2
    have huid : (sh.row o.uuid g.userID start stop (unix w.now)).userID = userID := huser
    rw [huid] at hadded
    rw [hlost]
    refine ⟨huser, hloc, hfound, processed ++ [sh], by simpa using hsplit, ?_⟩
    show db.Represents userID loc failed (processed ++ [sh])
    cases hadded with
    | inl hconflict =>
      obtain ⟨⟨r, hr, hid⟩, hsame⟩ := hconflict
      rw [← hsame] at hr
      exact (hdone.mono (fun x hx => hsame ▸ hx) []).append fun _ _ _ => ⟨r, hr, hid⟩
    | inr hnew =>
      refine (hdone.mono (fun x hx => ?_) []).append fun _ _ _ => ?_
      · rw [hnew]
        exact List.mem_append_left _ hx
      · rw [hnew]
        exact ⟨_, List.mem_append_right _ List.mem_cons_self, rfl⟩
  | scheduleNext =>
    obtain ⟨hfound, hdone⟩ := hpc
    refine ⟨hfound, hdone.mono (fun r hr => ?_) []⟩
    rw [scheduleNext_shiftsOf]
    exact hr

end Request

namespace Server
variable {env : Env} {s s' s₀ s₁ s₂ : Server} {a : Action} {i : Nat} {key : String}
  {logID userID : Uuid} {loc : Location} {shifts : List CallbackShift} {failed : List Nat}

def lostEntry (i : Nat) (s : Server) : Action → Option Nat
  | .run j o =>
    if j = i then
      match s.tasks[i]? with
      | some (.submitShifts _ pc) => pc.lost o s.toWorld
      | _ => none
    else none
  | _ => none

/-- A step of task `i`, or one that leaves every row of the user in the table. -/
def keepsRows (env : Env) (i : Nat) (userID : Uuid) (s : Server) (a : Action) : Bool :=
  isStepOf i a || (s.step env a).all fun s' =>
    (s.db.shiftsOf userID).all fun r => decide (r ∈ s'.db.shiftsOf userID)

theorem reporting_step (hok : s.keepsRows env i userID a = true)
    (hs : ∃ pc, s.tasks[i]? = some (.submitShifts key pc) ∧ pc.Reporting userID loc shifts failed s.db)
    (h : s.step env a = some s') :
    ∃ pc, s'.tasks[i]? = some (.submitShifts key pc) ∧
      pc.Reporting userID loc shifts ((s.lostEntry i a).toList ++ failed) s'.db := by
  obtain ⟨pc, ht, hpc⟩ := hs
  by_cases hself : ∃ o, a = .run i o
  · obtain ⟨o, rfl⟩ := hself
    obtain ⟨pc', hr, ht'⟩ := submitShifts_step ht h
    have hevent : s.lostEntry i (.run i o) = pc.lost o s.toWorld := by simp [lostEntry, ht]
    rw [hevent]
    exact ⟨pc', ht', scrapeSubmitShifts_reporting hr hpc⟩
  · have hother : isStepOf i a = false ∧ s.lostEntry i a = none := by
      cases a with
      | run j o =>
        have hne : j ≠ i := fun heq => hself ⟨o, by rw [heq]⟩
        simp [isStepOf, lostEntry, hne]
      | _ => exact ⟨rfl, rfl⟩
    have hrows : ∀ r ∈ s.db.shiftsOf userID, r ∈ s'.db.shiftsOf userID := by
      simpa [keepsRows, hother.1, h] using hok
    rw [hother.2]
    exact ⟨pc, (task_kept ht h).resolve_left hself, hpc.mono hrows⟩

/-- The UPDATE and the answer of a success report count the submitted entries, and each entry
that parses is represented unless its INSERT has failed. -/
theorem success_represents {o : Outcome}
    (ht : s₀.tasks[i]? = some (.submitShifts key (.readTimezone logID userID shifts)))
    (hread : s₀.step env (.run i o) = some s₁)
    (hloc : env.locationOf (World.select o (s₀.db.user userID)) = loc)
    (hrun : Reaches (recorded (step env) (lostEntry i)) (fun p => keepsRows env i userID p.1)
      (s₁, []) (s₂, failed)) :
    (∀ o id n m now,
      s₂.write env (.run i o) = some (.finishScrapeLog id (.reportedShifts n m) now) →
      n = shifts.length ∧ s₂.db.Represents userID loc failed shifts) ∧
    ∀ key answer, s₂.tasks[i]? = some (.submitShifts key (.answered (.ok answer))) →
      answer.accepted = shifts.length ∧ s₂.db.Represents userID loc failed shifts := by
  have hbegun : ∃ pc, s₁.tasks[i]? = some (.submitShifts key pc) ∧
      pc.Reporting userID loc shifts [] s₁.db := by
    obtain ⟨pc, hr, ht₁⟩ := submitShifts_step ht hread
    refine ⟨pc, ht₁, ?_⟩
    generalize s₁.toWorld = w at hr
    cases scrapeSubmitShifts_cases hr with
    | readTimezone => exact ⟨rfl, hloc, rfl, [], rfl, DB.represents_nil⟩
  obtain ⟨pc, ht₂, hpc⟩ := hrun.invariant_recorded (I := fun s failed => ∃ pc,
    s.tasks[i]? = some (.submitShifts key pc) ∧ pc.Reporting userID loc shifts failed s.db) hbegun
      fun _ _ _ _ hok hs hstep => reporting_step hok hs hstep
  constructor
  · intro o id n m now hwrite
    have hwrite' : pc.write o s₂.toWorld = some (.finishScrapeLog id (.reportedShifts n m) now) := by
      simpa [write, ht₂, Task.write] using hwrite
    cases pc with
    | count g =>
      obtain ⟨_, _, hfound, processed, hsplit, hdone⟩ := hpc
      simp only [SubmitShiftsPc.write] at hwrite'
      split at hwrite'
      · rename_i hrest
        cases hwrite'
        rw [List.isEmpty_iff.mp hrest, List.append_nil] at hsplit
        exact ⟨hfound, hsplit ▸ hdone⟩
      · cases hwrite'
    | _ => cases hwrite'
  · intro key' answer hanswer
    cases hanswer.symm.trans ht₂
    exact hpc

def entering (shifts : List CallbackShift) : Server :=
  after (step sampleEnv) anyStep (received shifts) (statements 1 1)

def unparsed : CallbackShift := sampleShift "Sun 9am" "Sun 1pm"

def partlyParsed : List CallbackShift := [unparsed, morning, unparsed]

def partlyStored : Server × List Nat :=
  after (recorded (step sampleEnv) (lostEntry 1)) (fun p => keepsRows sampleEnv 1 "u1" p.1)
    (entering partlyParsed, []) (statements 1 1 ++ iterations 1 ["sh1"] ++ statements 1 3)

theorem success_represents_partly : partlyStored.1.accepted 1 = some ("key1", ⟨3, 1⟩) ∧
    partlyStored.1.db.Represents "u1" .utc partlyStored.2 partlyParsed := by
  have hadmitted : (received partlyParsed).admitted 1 = some ("key1", "log1", "u1", partlyParsed) := by
    decide +kernel
  have hread : (received partlyParsed).step sampleEnv (.run 1 {}) = some (entering partlyParsed) := rfl
  have hrun : Reaches (recorded (step sampleEnv) (lostEntry 1)) (fun p => keepsRows sampleEnv 1 "u1" p.1)
      (entering partlyParsed, []) (partlyStored.1, partlyStored.2) :=
    reaches_recorded_after (by decide +kernel)
  have hanswered : partlyStored.1.accepted 1 = some ("key1", ⟨3, 1⟩) := by decide +kernel
  have hresult := success_represents (task_of_admitted hadmitted) hread rfl hrun
  exact ⟨hanswered, (hresult.2 _ _ (task_of_accepted hanswered)).2⟩

def emptySuccess : Server := after (step sampleEnv) (solo 1) (received [unparsed]) (statements 1 4)

/-- The log is a success with one shift found, the answer accepts one, and there is none. -/
theorem success_without_shift : ∃ s₁ s₂, Reaches (step sampleEnv) anyStep (boot sampleDB 0) s₁ ∧
    s₁.admitted 1 = some ("key1", "log1", "u1", [unparsed]) ∧
    Reaches (step sampleEnv) (solo 1) s₁ s₂ ∧ s₂.accepted 1 = some ("key1", ⟨1, 0⟩) ∧
    (s₂.db.scrapeLogs.rows.map fun l => (l.id, l.status, l.shiftsFound)) = [("log1", .success, some 1)] ∧
    ¬ ∃ r ∈ s₂.db.shiftsOf "u1", r.shiftIDExt = unparsed.shiftIDExt := by
  refine ⟨received [unparsed], emptySuccess, reaches_after (by decide +kernel), by decide +kernel,
    reaches_after (by decide +kernel), by decide +kernel, by decide +kernel, ?_⟩
  have hnone : emptySuccess.db.shifts.rows = [] := by decide +kernel
  rintro ⟨r, hr, _⟩
  simp [DB.shiftsOf, hnone] at hr

end Server
end ScheduleSync
