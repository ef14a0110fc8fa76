import ScheduleSync.ContentLines
import ScheduleSync.IcsTime

/-! What a feed decodes to. A reader splits it into lines, takes the components of it that
are events and undoes the escapes of their text values. GenerateICS escapes SUMMARY and
LOCATION but for carriage returns, and writes UID as it is. -/
namespace ScheduleSync

structure DecodedEvent where
  uid : String
  start : Int
  stop : Int
  summary : String
  location : Option String
deriving DecidableEq

def decodeText (value : List Char) : String := String.ofList (unescapeText value)

def decodeEvent (lines : List (List Char)) : Option DecodedEvent :=
  match property "UID".toList lines, property "DTSTART".toList lines, property "DTEND".toList lines,
    property "SUMMARY".toList lines, property "LOCATION".toList lines with
  | [uid], [dtstart], [dtend], [summary], [] => do
    let start ← decodeTime dtstart
    let stop ← decodeTime dtend
    some ⟨decodeText uid, start, stop, decodeText summary, none⟩
  | [uid], [dtstart], [dtend], [summary], [location] => do
    let start ← decodeTime dtstart
    let stop ← decodeTime dtend
    some ⟨decodeText uid, start, stop, decodeText summary, some (decodeText location)⟩
  | _, _, _, _, _ => none

def decodeICS (text : String) : Option (List DecodedEvent) :=
  let lines := splitLines [] text.toList
  (components "BEGIN:VEVENT".toList "END:VEVENT".toList none lines).mapM decodeEvent

def calendarLines (clock : Nat → Int) (shifts : List Shift) : List (List Char) :=
  (icsHeader ++ (vevents clock shifts).flatMap VEvent.lines ++ ["END:VCALENDAR"]).map String.toList

def VEvent.properties (e : VEvent) : List (String × String) :=
  [("UID", e.uid), ("DTSTART", e.dtstart), ("DTEND", e.dtend), ("SUMMARY", e.summary)] ++
    (e.location.map fun v => ("LOCATION", v)).toList ++
    (e.description.map fun v => ("DESCRIPTION", v)).toList ++ [("DTSTAMP", e.dtstamp)]

def propertyLines (properties : List (String × String)) : List (List Char) :=
  properties.map fun p => p.1.toList ++ ':' :: p.2.toList

section Written
variable {clock : Nat → Int} {shifts : List Shift}

theorem generateICS_toList :
    (generateICS clock shifts).toList = terminated (calendarLines clock shifts) := by
  simp [generateICS, calendarLines, terminated, crlf, String.toList_join, List.flatMap_map]

theorem escapeICS_toList (s : String) : (escapeICS s).toList = escapeText s.toList := by
  simp only [escapeICS, replaceAll, String.toList_ofList, List.flatMap_assoc, escapeText]
  congr 1
  funext c
  unfold escapeChar
  split_ifs with hbackslash hsemicolon hcomma hfeed
  · rfl
  · simp [hsemicolon]
  · simp [hcomma]
  · simp [hfeed]
  · simp [hsemicolon, hcomma, hfeed]

theorem VEvent.lines_eq (e : VEvent) : e.lines.map String.toList =
    "BEGIN:VEVENT".toList :: propertyLines e.properties ++ ["END:VEVENT".toList] := by
  cases hloc : e.location <;> cases hdesc : e.description <;>
    simp [VEvent.lines, VEvent.properties, propertyLines, hloc, hdesc]

theorem calendarLines_eq : calendarLines clock shifts =
    icsHeader.map String.toList ++
      (((vevents clock shifts).map fun e => propertyLines e.properties).flatMap fun b =>
        "BEGIN:VEVENT".toList :: b ++ ["END:VEVENT".toList]) ++ ["END:VCALENDAR".toList] := by
  simp only [calendarLines, List.map_append, List.map_flatMap, VEvent.lines_eq, List.flatMap_map]
  rfl

def propertyNames : List String :=
  ["UID", "DTSTART", "DTEND", "SUMMARY", "LOCATION", "DESCRIPTION", "DTSTAMP"]

theorem VEvent.name_mem (e : VEvent) : ∀ p ∈ e.properties, p.1 ∈ propertyNames := by
  cases hloc : e.location <;> cases hdesc : e.description <;>
    simp [VEvent.properties, propertyNames, hloc, hdesc]

theorem colon_not_mem_name : ∀ name ∈ propertyNames, ':' ∉ name.toList := by decide

theorem values_of_properties (e : VEvent) {name : String} (hname : name ∈ propertyNames) :
    property name.toList (propertyLines e.properties) =
      (e.properties.filter fun p => decide (p.1 = name)).map fun p => p.2.toList := by
  have hlines : propertyLines e.properties =
      (e.properties.map fun p => (p.1.toList, p.2.toList)).map fun f => f.1 ++ ':' :: f.2 := by
    rw [propertyLines, List.map_map]
    rfl
  rw [hlines, property_fields (colon_not_mem_name name hname), List.filter_map, List.map_map]
  · simp only [Function.comp_def, String.toList_inj]
  · intro f hf
    obtain ⟨p, hp, rfl⟩ := List.mem_map.mp hf
    exact colon_not_mem_name p.1 (e.name_mem p hp)

theorem ends_not_mem_properties (e : VEvent) : "END:VEVENT".toList ∉ propertyLines e.properties := by
  intro h
  cases hloc : e.location <;> cases hdesc : e.description <;>
    simp [VEvent.properties, propertyLines, hloc, hdesc] at h

theorem decodeText_escapeICS (s : String) : decodeText (escapeICS s).toList = s := by
  rw [decodeText, escapeICS_toList, unescapeText_escapeText, String.ofList_toList]

/-- Escaping loses nothing, and what it writes holds no line feed and no bare separator. -/
theorem escapeICS_faithful :
    (∀ s, (escapeICS s).toList = s.toList.flatMap escapeChar) ∧
    (∀ s, decodeText (escapeICS s).toList = s) ∧
    Function.Injective escapeICS ∧
    ∀ s, '\n' ∉ (escapeICS s).toList ∧
      ∀ before c after, c = ';' ∨ c = ',' → (escapeICS s).toList = before ++ c :: after →
        Odd (backslashRun before).length := by
  refine ⟨escapeICS_toList, decodeText_escapeICS, ?_, fun s => ⟨?_, ?_⟩⟩
  · intro s s' heq
    rw [← decodeText_escapeICS s, heq, decodeText_escapeICS]
  · rw [escapeICS_toList]
    exact newline_not_mem_escapeText s.toList
  · intro before c after hc heq
    rw [escapeICS_toList] at heq
    exact odd_backslashRun hc heq

def Shift.event (sh : Shift) : DecodedEvent :=
  ⟨sh.uid, sh.startTime, sh.endTime, sh.jobName, if sh.location = "" then none else some sh.location⟩

theorem decodeEvent_vevent (sh : Shift) (now : Int) :
    decodeEvent (propertyLines (sh.vevent now).properties) =
      some { sh.event with uid := decodeText sh.uid.toList } := by
  rw [decodeEvent, values_of_properties _ (by decide), values_of_properties _ (by decide),
    values_of_properties _ (by decide), values_of_properties _ (by decide),
    values_of_properties _ (by decide)]
  by_cases hloc : sh.location = "" <;> by_cases hdesc : 0 < sh.netHours <;>
    simp [VEvent.properties, Shift.vevent, hloc, hdesc, decodeTime_icsTime, decodeText_escapeICS,
      Shift.event]

theorem decode_events (clock : Nat → Int) (events : List (Shift × Nat)) :
    (events.map fun e => propertyLines (e.1.vevent (clock e.2)).properties).mapM decodeEvent =
      some (events.map fun e => { e.1.event with uid := decodeText e.1.uid.toList }) := by
  induction events with
  | nil => rfl
  | cons e es ih =>
    rw [List.map_cons, List.mapM_cons, decodeEvent_vevent, ih]
    rfl

theorem begins_not_mem_header : "BEGIN:VEVENT".toList ∉ icsHeader.map String.toList := by decide

theorem decodeICS_generateICS (h : ∀ l ∈ calendarLines clock shifts, OneLine l) :
    decodeICS (generateICS clock shifts) =
      some (shifts.map fun sh => { sh.event with uid := decodeText sh.uid.toList }) := by
  have hbodies : ∀ b ∈ (vevents clock shifts).map fun e => propertyLines e.properties,
      "END:VEVENT".toList ∉ b := by
    intro b hb
    obtain ⟨e, _, rfl⟩ := List.mem_map.mp hb
    exact ends_not_mem_properties e
  have hend : components "BEGIN:VEVENT".toList "END:VEVENT".toList none ["END:VCALENDAR".toList] = [] := by
    decide
  rw [decodeICS, generateICS_toList, splitLines_terminated h, calendarLines_eq, List.append_assoc,
    components_skip begins_not_mem_header, components_flatMap hbodies, hend, List.append_nil, vevents,
    List.map_map]
  have hshifts : (shifts.zipIdx.map Prod.fst).map
      (fun sh => { sh.event with uid := decodeText sh.uid.toList }) =
      shifts.zipIdx.map fun e => { e.1.event with uid := decodeText e.1.uid.toList } := List.map_map
  rw [List.zipIdx_map_fst] at hshifts
  rw [hshifts]
  exact decode_events clock shifts.zipIdx

/-! Which shifts are written without a line break. -/

theorem oneLine_digits {cs : List Char} (h : ∀ c ∈ cs, c.isDigit = true) : OneLine cs := by
  refine OneLine.of_forall fun c hc => ?_
  have hdigit := h c hc
  simp only [Char.isDigit, Bool.and_eq_true, decide_eq_true_eq] at hdigit
  have hspace : ' '.val ≤ '0'.val := by decide
  exact UInt32.le_trans hspace hdigit.1

theorem oneLine_zeroPadded (width n : Nat) : OneLine (zeroPadded width n).toList :=
  oneLine_digits (isDigit_zeroPadded width n)

theorem oneLine_icsTime (t : Int) : OneLine (icsTime t).toList := by
  have hsign : ∀ year : Int, OneLine (if year < 0 then "-" else "").toList := by
    intro year
    split_ifs <;> decide
  simp only [icsTime, String.toList_append, OneLine.append_iff, oneLine_zeroPadded, hsign, true_and,
    and_true]
  decide

theorem oneLine_twoDecimals (q : Rat) : OneLine (twoDecimals q).toList := by
  have hdigits : ∀ n : Nat, OneLine (toString n).toList := by
    intro n
    refine oneLine_digits fun c hc => ?_
    have hmem : c ∈ Nat.toDigits 10 n := by simpa using hc
    exact Nat.isDigit_of_mem_toDigits (by decide) (by decide) hmem
  simp only [twoDecimals, String.toList_append, OneLine.append_iff, oneLine_zeroPadded, hdigits, true_and,
    and_true]
  decide

theorem oneLine_propertyLines {properties : List (String × String)}
    (hnames : ∀ p ∈ properties, p.1 ∈ propertyNames) :
    (∀ l ∈ propertyLines properties, OneLine l) ↔ ∀ p ∈ properties, OneLine p.2.toList := by
  have hname : ∀ name ∈ propertyNames, OneLine name.toList := by decide
  rw [propertyLines, List.forall_mem_map]
  refine forall₂_congr fun p hp => ?_
  rw [OneLine.append_iff, and_iff_right (hname p.1 (hnames p hp)), OneLine.cons_iff,
    and_iff_right (by decide)]

/-- The text from outside, or else the id, in the UID. -/
def Shift.identifier (sh : Shift) : String := if sh.shiftIDExt = "" then sh.id else sh.shiftIDExt

theorem Shift.uid_toList (sh : Shift) : sh.uid.toList = sh.identifier.toList ++ "@sbuxsync".toList :=
  String.toList_append ..

def Shift.Unbroken (sh : Shift) : Prop :=
  OneLine sh.identifier.toList ∧ '\r' ∉ sh.jobName.toList ∧ '\r' ∉ sh.location.toList

theorem lines_oneLine_iff (sh : Shift) (now : Int) :
    (∀ l ∈ (sh.vevent now).lines.map String.toList, OneLine l) ↔ sh.Unbroken := by
  have hends : OneLine "BEGIN:VEVENT".toList ∧ OneLine "END:VEVENT".toList := by decide
  have huid : OneLine sh.uid.toList ↔ OneLine sh.identifier.toList := by
    rw [Shift.uid_toList, OneLine.append_iff, and_iff_left (by decide)]
  have hdescription : OneLine ("Net hours: " ++ twoDecimals sh.netHours).toList := by
    rw [String.toList_append, OneLine.append_iff, and_iff_left (oneLine_twoDecimals _)]
    decide
  rw [VEvent.lines_eq, List.cons_append, List.forall_mem_cons, List.forall_mem_append,
    List.forall_mem_singleton, and_iff_right hends.1, and_iff_left hends.2,
    oneLine_propertyLines (sh.vevent now).name_mem, Shift.Unbroken]
  simp only [VEvent.properties, Shift.vevent]
  generalize "Net hours: " ++ twoDecimals sh.netHours = description at hdescription
  by_cases hloc : sh.location = "" <;> by_cases hdesc : 0 < sh.netHours <;>
    simp [hloc, hdesc, huid, oneLine_icsTime, escapeICS_toList, oneLine_escapeText, hdescription]

theorem mem_calendarLines {l : List Char} : l ∈ calendarLines clock shifts ↔
    l ∈ icsHeader.map String.toList ∨
      (∃ e ∈ vevents clock shifts, l ∈ e.lines.map String.toList) ∨ l = "END:VCALENDAR".toList := by
  simp only [calendarLines, List.map_append, List.map_flatMap, List.mem_append, List.mem_flatMap,
    List.map_cons, List.map_nil, List.mem_singleton, or_assoc]

theorem mem_vevents {e : VEvent} (h : e ∈ vevents clock shifts) :
    ∃ sh ∈ shifts, ∃ now, e = sh.vevent now := by
  obtain ⟨⟨sh, i⟩, hmem, rfl⟩ := List.mem_map.mp h
  exact ⟨sh, List.fst_mem_of_mem_zipIdx hmem, clock i, rfl⟩

theorem vevent_mem (clock : Nat → Int) {sh : Shift} (h : sh ∈ shifts) :
    ∃ now, sh.vevent now ∈ vevents clock shifts := by
  obtain ⟨i, hi, rfl⟩ := List.mem_iff_getElem.mp h
  have hmem : (shifts[i], i) ∈ shifts.zipIdx :=
    List.mk_mem_zipIdx_iff_getElem?.mpr (List.getElem?_eq_getElem hi)
  exact ⟨clock i, List.mem_map.mpr ⟨(shifts[i], i), hmem, rfl⟩⟩

theorem calendarLines_oneLine_iff :
    (∀ l ∈ calendarLines clock shifts, OneLine l) ↔ ∀ sh ∈ shifts, sh.Unbroken := by
  constructor
  · intro h sh hsh
    obtain ⟨now, hmem⟩ := vevent_mem clock hsh
    exact (lines_oneLine_iff sh now).mp fun l hl => h l (mem_calendarLines.mpr (.inr (.inl ⟨_, hmem, hl⟩)))
  · have hheaders : ∀ l ∈ icsHeader.map String.toList, OneLine l := by decide
    intro h l hl
    rcases mem_calendarLines.mp hl with hheader | ⟨e, he, hline⟩ | rfl
    · exact hheaders l hheader
    · obtain ⟨sh, hsh, now, rfl⟩ := mem_vevents he
      exact (lines_oneLine_iff sh now).mpr (h sh hsh) l hline
    · decide

theorem decodeText_uid_iff (sh : Shift) :
    decodeText sh.uid.toList = sh.uid ↔ EscapeFree sh.identifier.toList := by
  have hrest : EscapeFree "@sbuxsync".toList := unescapeText_eq_self_iff.mp (by decide)
  rw [decodeText, ← String.toList_inj, String.toList_ofList, unescapeText_eq_self_iff, Shift.uid_toList]
  exact escapeFree_append rfl hrest

theorem events_eq_iff : (shifts.map fun sh => { sh.event with uid := decodeText sh.uid.toList }) =
    shifts.map Shift.event ↔ ∀ sh ∈ shifts, EscapeFree sh.identifier.toList := by
  rw [List.map_inj_left]
  refine forall₂_congr fun sh _ => ?_
  rw [← decodeText_uid_iff]
  simp [Shift.event]

/-- The line breaks of the feed are those that end its lines. -/
def OnlyTerminators (clock : Nat → Int) (shifts : List Shift) : Prop :=
  (generateICS clock shifts).toList.count '\r' = (calendarLines clock shifts).length ∧
    (generateICS clock shifts).toList.count '\n' = (calendarLines clock shifts).length

theorem onlyTerminators_iff : OnlyTerminators clock shifts ↔ ∀ sh ∈ shifts, sh.Unbroken := by
  rw [OnlyTerminators, generateICS_toList, count_terminated_iff, calendarLines_oneLine_iff]

/-- A feed decodes to its shifts exactly when their UIDs need no escape and their texts hold
no carriage return. -/
theorem calendar_decodes (clock : Nat → Int) (shifts : List Shift) :
    (OnlyTerminators clock shifts ∧
      decodeICS (generateICS clock shifts) = some (shifts.map Shift.event)) ↔
    ∀ sh ∈ shifts, (OneLine sh.identifier.toList ∧ EscapeFree sh.identifier.toList) ∧
      '\r' ∉ sh.jobName.toList ∧ '\r' ∉ sh.location.toList := by
  constructor
  · rintro ⟨honly, hdecode⟩ sh hsh
    have hunbroken := onlyTerminators_iff.mp honly
    rw [decodeICS_generateICS (calendarLines_oneLine_iff.mpr hunbroken)] at hdecode
    have hfree := events_eq_iff.mp (Option.some.inj hdecode) sh hsh
    obtain ⟨huid, htexts⟩ := hunbroken sh hsh
    exact ⟨⟨huid, hfree⟩, htexts⟩
  · intro h
    have hunbroken : ∀ sh ∈ shifts, sh.Unbroken := fun sh hsh => ⟨(h sh hsh).1.1, (h sh hsh).2⟩
    refine ⟨onlyTerminators_iff.mpr hunbroken, ?_⟩
    rw [decodeICS_generateICS (calendarLines_oneLine_iff.mpr hunbroken),
      events_eq_iff.mpr fun sh hsh => (h sh hsh).1.2]

end Written

def closingShift : Shift where
  id := "s1"
  userID := "u1"
  shiftIDExt := "1\r\nDTSTART:19700101T000000Z\r\nDTEND:19700101T000000Z\r\nSUMMARY:Closed\r\n" ++
    "END:VEVENT\r\nBEGIN:VEVENT\r\nUID:2"
  jobName := "Barista"
  location := ""
  startTime := 3600
  endTime := 7200
  netHours := 0
  createdAt := 0

theorem shift_read_as_two :
    decodeICS (generateICS (fun _ => 0) [closingShift]) =
      some [⟨"1", 0, 0, "Closed", none⟩, ⟨"2@sbuxsync", 3600, 7200, "Barista", none⟩] ∧
    decodeICS (generateICS (fun _ => 0) [closingShift]) ≠ some ([closingShift].map Shift.event) ∧
    ¬ OnlyTerminators (fun _ => 0) [closingShift] := by
  have hdecode : decodeICS (generateICS (fun _ => 0) [closingShift]) =
      some [⟨"1", 0, 0, "Closed", none⟩, ⟨"2@sbuxsync", 3600, 7200, "Barista", none⟩] := by
    rw [decodeICS, generateICS_toList]
    decide +kernel
  refine ⟨hdecode, fun heq => ?_, fun honly => ?_⟩
  · rw [hdecode] at heq
    exact absurd (congrArg (Option.map List.length) heq) (by decide)
  · have hunbroken := onlyTerminators_iff.mp honly closingShift List.mem_cons_self
    exact hunbroken.1.1 (by decide)

end ScheduleSync
