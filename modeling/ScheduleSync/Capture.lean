import ScheduleSync.Calendar
import ScheduleSync.Resume

/-! The captured schedule. extractShifts of the scraper flattens what the schedule API has
returned into the entries of an upload. It turns scheduledShiftId into text with String, which
makes a word of a missing id, and that word is an id like any other for the server: shifts
are kept apart as far as the texts of their ids are. -/
namespace ScheduleSync

inductive ScheduledShiftId (ι : Type*) where
  | undefined
  | null
  | value (x : ι)

/-- `String(id)`; `toText` is String on values. -/
def ScheduledShiftId.text {ι : Type*} (toText : ι → String) : ScheduledShiftId ι → String
  | .undefined => "undefined"
  | .null => "null"
  | .value x => toText x

/-- A shift as it is captured; none is what is absent or null. -/
structure PayScheduledShift (ι : Type*) where
  start : Option String
  stop : Option String
  jobName : Option String
  netHours : Option Rat
  scheduledShiftId : ScheduledShiftId ι

structure ScheduleDay (ι : Type*) where
  businessDate : String
  payScheduledShifts : Option (List (PayScheduledShift ι))

structure ScheduleData (ι : Type*) where
  days : Option (List (ScheduleDay ι))
  homeSiteName : Option String

def nameOr (name : Option String) (fallback : String) : String :=
  match name with
  | some n => if n = "" then fallback else n
  | none => fallback

section Extract
variable {ι : Type*} (toText : ι → String)

/-- One entry of the request body, after JSON.stringify and ShouldBindJSON. -/
def PayScheduledShift.submitted (location : String) (shift : PayScheduledShift ι) : CallbackShift where
  start := shift.start.getD ""
  stop := shift.stop.getD ""
  jobName := nameOr shift.jobName "Shift"
  netHours := shift.netHours.getD 0
  shiftIDExt := shift.scheduledShiftId.text toText
  location := location

def extractShifts (data : ScheduleData ι) : List CallbackShift :=
  match data.days with
  | none => []
  | some days =>
    let location := nameOr data.homeSiteName "Work"
    days.flatMap fun day =>
      (day.payScheduledShifts.getD []).map (PayScheduledShift.submitted toText location)

def ScheduleData.captured (data : ScheduleData ι) : List (PayScheduledShift ι) :=
  (data.days.getD []).flatMap fun day => day.payScheduledShifts.getD []

theorem extractShifts_eq (data : ScheduleData ι) : extractShifts toText data =
    data.captured.map (PayScheduledShift.submitted toText (nameOr data.homeSiteName "Work")) := by
  unfold extractShifts ScheduleData.captured
  cases data.days with
  | none => rfl
  | some days => simp [List.map_flatMap]

variable {toText} {data : ScheduleData ι} {userID : Uuid} {loc : Location} {db : DB}

def PayScheduledShift.SameId (a b : PayScheduledShift ι) : Prop :=
  ∃ x, a.scheduledShiftId = .value x ∧ b.scheduledShiftId = .value x

def PayScheduledShift.Differ (a b : PayScheduledShift ι) : Prop :=
  (a.start ≠ b.start ∨ a.stop ≠ b.stop) ∧ ¬ a.SameId b

/-- The row of the captured shift: it has the text of its id, and says what this shift says
or another one of the same id. -/
def Stores (toText : ι → String) (data : ScheduleData ι) (userID : Uuid) (loc : Location) (r : Shift)
    (a : PayScheduledShift ι) : Prop :=
  r.userID = userID ∧ r.shiftIDExt = a.scheduledShiftId.text toText ∧
    ∃ c ∈ data.captured, r.Carries loc (c.submitted toText (nameOr data.homeSiteName "Work")) ∧ ¬ c.Differ a

def DB.StoresApart (toText : ι → String) (data : ScheduleData ι) (userID : Uuid) (loc : Location)
    (db : DB) : Prop :=
  ∀ a ∈ data.captured, ∀ b ∈ data.captured, a.Differ b →
    ∃ r ∈ db.shifts, ∃ r' ∈ db.shifts, r ≠ r' ∧
      Stores toText data userID loc r a ∧ Stores toText data userID loc r' b

def ScheduleData.TellsApart (toText : ι → String) (data : ScheduleData ι) : Prop :=
  ∀ a ∈ data.captured, ∀ b ∈ data.captured, a.Differ b →
    a.scheduledShiftId.text toText ≠ b.scheduledShiftId.text toText

variable {base : DB} {n : Nat}

theorem stores_of_taken (h : Taken loc userID base (extractShifts toText data) n db)
    (hempty : base.shiftsOf userID = []) (htells : data.TellsApart toText)
    {a : PayScheduledShift ι} (ha : a ∈ data.captured)
    (hparse : ∀ sh ∈ extractShifts toText data, (parseShiftTime sh.start loc).isSome = true ∧
      (parseShiftTime sh.stop loc).isSome = true) :
    ∃ r ∈ db.shifts, Stores toText data userID loc r a := by
  have hentry : a.submitted toText (nameOr data.homeSiteName "Work") ∈ extractShifts toText data := by
    rw [extractShifts_eq]
    exact List.mem_map_of_mem ha
  obtain ⟨hstart, hstop⟩ := hparse _ hentry
  obtain ⟨r, hr, huser, hid⟩ := h.row_of_entry hentry hstart hstop
  obtain ⟨sh, hsh, hid', hcarries⟩ := h.entry_of_row hr huser hempty
  rw [extractShifts_eq] at hsh
  obtain ⟨c, hc, rfl⟩ := List.mem_map.mp hsh
  refine ⟨r, hr, huser, hid, c, hc, hcarries, fun hdiffer => ?_⟩
  exact htells c hc a ha hdiffer (hid'.symm.trans hid)

theorem storesApart_iff (h : Taken loc userID base (extractShifts toText data) n db)
    (hempty : base.shiftsOf userID = [])
    (hparse : ∀ sh ∈ extractShifts toText data, (parseShiftTime sh.start loc).isSome = true ∧
      (parseShiftTime sh.stop loc).isSome = true) :
    db.StoresApart toText data userID loc ↔ data.TellsApart toText := by
  constructor
  · intro hapart a ha b hb hdiffer htext
    obtain ⟨r, hr, r', hr', hne, ⟨huser, hid, _⟩, huser', hid', _⟩ := hapart a ha b hb hdiffer
    exact hne (Table.eq_of_clash hr hr'
      (.inr ⟨huser.trans huser'.symm, hid.trans (htext.trans hid'.symm)⟩))
  · intro htells a ha b hb hdiffer
    obtain ⟨r, hr, hstores⟩ := stores_of_taken h hempty htells ha hparse
    obtain ⟨r', hr', hstores'⟩ := stores_of_taken h hempty htells hb hparse
    refine ⟨r, hr, r', hr', ?_, hstores, hstores'⟩
    rintro rfl
    exact htells a ha b hb hdiffer (hstores.2.1.symm.trans hstores'.2.1)

theorem uid_of_missing {r : Shift} {a : PayScheduledShift ι} (h : Stores toText data userID loc r a)
    (hmissing : ∀ x, a.scheduledShiftId ≠ .value x) :
    r.uid = a.scheduledShiftId.text toText ++ "@sbuxsync" := by
  have hid := h.2.1
  cases hsched : a.scheduledShiftId with
  | value x => exact absurd hsched (hmissing x)
  | undefined | null =>
    rw [hsched] at hid
    simp [Shift.uid, hid, ScheduledShiftId.text]

end Extract

namespace Server
variable {env : Env} {s s' : Server} {i : Nat} {key : String} {logID userID : Uuid}
  {ι : Type*} {toText : ι → String} {data : ScheduleData ι}

/-- A captured schedule, uploaded for a user who has no shifts: what differs is in different
rows exactly when the texts of the ids tell it apart. -/
theorem captured_stored_apart {answer : ShiftsAnswer}
    (ht : s.tasks[i]? = some (.submitShifts key (.readTimezone logID userID (extractShifts toText data))))
    (hempty : s.db.shiftsOf userID = [])
    (hparse : ∀ sh ∈ extractShifts toText data,
      (parseShiftTime sh.start (env.locationOf (s.db.user userID))).isSome = true ∧
      (parseShiftTime sh.stop (env.locationOf (s.db.user userID))).isSome = true)
    (h : Reaches (step env) (uninterrupted i) s s')
    (hanswer : s'.tasks[i]? = some (.submitShifts key (.answered (.ok answer)))) :
    (s'.db.StoresApart toText data userID (env.locationOf (s.db.user userID)) ↔ data.TellsApart toText) ∧
    ∀ a ∈ data.captured, (∀ x, a.scheduledShiftId ≠ .value x) → ∀ r ∈ s'.db.shifts,
      Stores toText data userID (env.locationOf (s.db.user userID)) r a →
      r.uid = a.scheduledShiftId.text toText ++ "@sbuxsync" :=
  ⟨storesApart_iff (taken_of_upload ht h hanswer) hempty hparse, fun _ _ hmissing _ _ hstores =>
    uid_of_missing hstores hmissing⟩

def capturedShift (sh : CallbackShift) (id : ScheduledShiftId String) : PayScheduledShift String :=
  ⟨some sh.start, some sh.stop, none, none, id⟩

def twoShifts (first second : ScheduledShiftId String) : ScheduleData String where
  days := some [⟨"2026-03-08", some [capturedShift morning first, capturedShift moved second]⟩]
  homeSiteName := none

def identified : ScheduleData String := twoShifts (.value "17") (.value "18")
def unidentified : ScheduleData String := twoShifts .undefined .undefined

def capturedAnswer (data : ScheduleData String) : Server :=
  after (step sampleEnv) (uninterrupted 1) (received (extractShifts id data))
    (statements 1 1 ++ iterations 1 ["sh1", "sh2"] ++ statements 1 2)

theorem captured_stored_apart_two : (capturedAnswer identified).db.StoresApart id identified "u1"
      (sampleEnv.locationOf ((received (extractShifts id identified)).db.user "u1")) ↔
    identified.TellsApart id := by
  have hadmitted : (received (extractShifts id identified)).admitted 1 =
      some ("key1", "log1", "u1", extractShifts id identified) := by decide +kernel
  have hanswered : (capturedAnswer identified).accepted 1 = some ("key1", ⟨2, 2⟩) := by decide +kernel
  exact (captured_stored_apart (task_of_admitted hadmitted) (by decide +kernel) (by decide +kernel)
    (reaches_after (by decide +kernel)) (task_of_accepted hanswered)).1

/-- Two shifts without an id share one row, which has the times of the first. -/
theorem shift_lost_for_want_of_id : ∃ s s', Reaches (step sampleEnv) anyStep (boot sampleDB 0) s ∧
    s.admitted 1 = some ("key1", "log1", "u1", extractShifts id unidentified) ∧
    s.db.shiftsOf "u1" = [] ∧
    (∀ sh ∈ extractShifts id unidentified,
      (parseShiftTime sh.start .utc).isSome = true ∧ (parseShiftTime sh.stop .utc).isSome = true) ∧
    Reaches (step sampleEnv) (uninterrupted 1) s s' ∧ s'.accepted 1 = some ("key1", ⟨2, 1⟩) ∧
    ¬ s'.db.StoresApart id unidentified "u1" .utc := by
  refine ⟨received (extractShifts id unidentified), capturedAnswer unidentified,
    reaches_after (by decide +kernel), by decide +kernel, by decide +kernel, by decide +kernel,
    reaches_after (by decide +kernel), by decide +kernel, fun hapart => ?_⟩
  have hdiffer : (capturedShift morning .undefined).Differ (capturedShift moved .undefined) :=
    ⟨.inl (by decide), by rintro ⟨x, hx, _⟩; cases hx⟩
  have hfirst : capturedShift morning .undefined ∈ unidentified.captured := by
    simp [ScheduleData.captured, unidentified, twoShifts]
  have hsecond : capturedShift moved .undefined ∈ unidentified.captured := by
    simp [ScheduleData.captured, unidentified, twoShifts]
  obtain ⟨r, hr, r', hr', hne, _⟩ := hapart _ hfirst _ hsecond hdiffer
  have hone : (capturedAnswer unidentified).db.shifts.rows.length = 1 := by decide +kernel
  obtain ⟨x, hx⟩ := List.length_eq_one_iff.mp hone
  rw [Table.mem_def, hx, List.mem_singleton] at hr hr'
  exact hne (hr.trans hr'.symm)

end Server
end ScheduleSync
