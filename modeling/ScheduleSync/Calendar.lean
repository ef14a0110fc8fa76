import Mathlib.Data.List.Sort
import Mathlib.Data.Rat.Defs
import ScheduleSync.Statements

/-! The calendar feed: queryUserShifts with its scan loop, GenerateICS and serveICS.
A rendered text is a String, the escapes work on its characters. -/
namespace ScheduleSync

/-! Go's time formatting. -/

/-- A decimal of at least `width` digits. -/
def zeroPadded (width n : Nat) : String :=
  let digits := Nat.toDigits 10 n
  String.ofList (List.replicate (width - digits.length) '0' ++ digits)

structure CivilDate where
  year : Int
  month : Int
  day : Int

/-- The date of a day counted from 1970-01-01, in the proleptic Gregorian calendar:
by eras of 400 years that begin on March 1. -/
def civilDate (days : Int) : CivilDate :=
  let z := days + 719468
  let era := z / 146097
  let dayOfEra := z % 146097
  let yearOfEra := (dayOfEra - dayOfEra / 1460 + dayOfEra / 36524 - dayOfEra / 146096) / 365
  let dayOfYear := dayOfEra - (365 * yearOfEra + yearOfEra / 4 - yearOfEra / 100)
  let fromMarch := (5 * dayOfYear + 2) / 153
  let month := if fromMarch < 10 then fromMarch + 3 else fromMarch - 9
  { year := yearOfEra + era * 400 + if month ≤ 2 then 1 else 0
    month := month
    day := dayOfYear - (153 * fromMarch + 2) / 5 + 1 }

/-- `Format("20060102T150405Z")` of a Unix second in UTC. -/
def icsTime (t : Int) : String :=
  let date := civilDate (t / 86400)
  let clock := t % 86400
  let sign := if date.year < 0 then "-" else ""
  sign ++ zeroPadded 4 date.year.natAbs ++ zeroPadded 2 date.month.toNat ++
    zeroPadded 2 date.day.toNat ++ "T" ++ zeroPadded 2 (clock / 3600).toNat ++
    zeroPadded 2 (clock / 60 % 60).toNat ++ zeroPadded 2 (clock % 60).toNat ++ "Z"

/-- `fmt.Sprintf("%.2f", q)` of a positive number, ties to even. -/
def twoDecimals (q : Rat) : String :=
  let scaled := q.num.natAbs * 100
  let down := scaled / q.den
  let left := scaled % q.den
  let n := if q.den < 2 * left ∨ (2 * left = q.den ∧ down % 2 = 1) then down + 1 else down
  toString (n / 100) ++ "." ++ zeroPadded 2 (n % 100)

/-! internal/calendar. -/

def replaceAll (old : Char) (new : List Char) (s : List Char) : List Char :=
  s.flatMap fun c => if c = old then new else [c]

def escapeICS (s : String) : String :=
  let s := replaceAll '\\' ['\\', '\\'] s.toList
  let s := replaceAll ';' ['\\', ';'] s
  let s := replaceAll ',' ['\\', ','] s
  String.ofList (replaceAll '\n' ['\\', 'n'] s)

/-- The values one iteration of the loop over the shifts writes. -/
structure VEvent where
  uid : String
  dtstart : String
  dtend : String
  summary : String
  location : Option String
  description : Option String
  dtstamp : String
deriving DecidableEq

def Shift.uid (sh : Shift) : String :=
  (if sh.shiftIDExt = "" then sh.id else sh.shiftIDExt) ++ "@sbuxsync"

def Shift.vevent (sh : Shift) (now : Int) : VEvent where
  uid := sh.uid
  dtstart := icsTime sh.startTime
  dtend := icsTime sh.endTime
  summary := escapeICS sh.jobName
  location := if sh.location = "" then none else some (escapeICS sh.location)
  description := if 0 < sh.netHours then some ("Net hours: " ++ twoDecimals sh.netHours) else none
  dtstamp := icsTime now

def crlf : String := "\r\n"

def VEvent.lines (e : VEvent) : List String :=
  ["BEGIN:VEVENT", "UID:" ++ e.uid, "DTSTART:" ++ e.dtstart, "DTEND:" ++ e.dtend,
    "SUMMARY:" ++ e.summary] ++ (e.location.map fun v => "LOCATION:" ++ v).toList ++
    (e.description.map fun v => "DESCRIPTION:" ++ v).toList ++
    ["DTSTAMP:" ++ e.dtstamp, "END:VEVENT"]

/-- The events of a feed; `clock` gives the reading in each iteration. -/
def vevents (clock : Nat → Int) (shifts : List Shift) : List VEvent :=
  shifts.zipIdx.map fun (sh, i) => sh.vevent (clock i)

def icsHeader : List String :=
  ["BEGIN:VCALENDAR", "VERSION:2.0", "PRODID:-//sbuxsync//Partner Schedule//EN",
    "CALSCALE:GREGORIAN", "METHOD:PUBLISH", "X-WR-CALNAME:Starbucks Schedule", "X-WR-TIMEZONE:UTC"]

def generateICS (clock : Nat → Int) (shifts : List Shift) : String :=
  let body := icsHeader ++ (vevents clock shifts).flatMap VEvent.lines ++ ["END:VCALENDAR"]
  String.join (body.map fun line => line ++ crlf)

/-! cmd/app: the query, the scan and the handler. -/

structure ShiftColumns where
  id : Option Uuid
  shiftIDExt : Option String
  jobName : Option String
  location : Option String
  startTime : Option Int
  endTime : Option Int
  netHours : Option Rat
  createdAt : Option Int

/-- What the one INSERT of the program writes: it binds a value for every column. -/
def Shift.columns (sh : Shift) : ShiftColumns :=
  ⟨some sh.id, some sh.shiftIDExt, some sh.jobName, some sh.location, some sh.startTime,
    some sh.endTime, some sh.netHours, some sh.createdAt⟩

/-- scanShift: a NULL cannot be scanned into any of its destinations. -/
def scanShift (c : ShiftColumns) : Option Shift := do
  let id ← c.id
  let shiftIDExt ← c.shiftIDExt
  let jobName ← c.jobName
  let location ← c.location
  let startTime ← c.startTime
  let endTime ← c.endTime
  let netHours ← c.netHours
  let createdAt ← c.createdAt
  return ⟨id, "", shiftIDExt, jobName, location, startTime, endTime, netHours, createdAt⟩

def earlierStart (a b : Shift) : Prop := a.startTime ≤ b.startTime

instance : DecidableRel earlierStart := fun a b => inferInstanceAs (Decidable (a.startTime ≤ b.startTime))

namespace DB
variable (db : DB)

/-- `... WHERE user_id = ? AND end_time > unixepoch('now', '-7 days') ORDER BY start_time`. -/
def shiftWindow (userID : Uuid) (now : Int) : List Shift :=
  (db.shifts.rows.filter fun sh => sh.userID == userID && decide (now - 7 * day < sh.endTime)).insertionSort
    earlierStart

/-- queryUserShifts: a row that does not scan is skipped. -/
def queryUserShifts (userID : Uuid) (now : Int) : List Shift :=
  (db.shiftWindow userID now).filterMap fun row =>
    (scanShift row.columns).map fun sh => { sh with userID := userID }

/-- `SELECT id, email, timezone FROM users WHERE ics_token = ?`. -/
def userByICSToken (token : String) : Option User := db.users.queryRow fun u => u.icsToken == token

end DB

def trimSuffix (s suffix : String) : String :=
  if suffix.toList <:+ s.toList then
    String.ofList (s.toList.take (s.toList.length - suffix.toList.length))
  else s

/-- serveICS, from the database at each of its two SELECTs; none stands for one that
fails. The answer is a status or the calendar. -/
def serveICS (icsfile : String) (userAt shiftsAt : Option DB) (now : Int) (clock : Nat → Int) :
    Except Nat String :=
  let token := trimSuffix icsfile ".ics"
  if token = "" then .error 404
  else
    match userAt.bind fun db => db.userByICSToken token with
    | none => .error 404
    | some user =>
      match shiftsAt with
      | none => .error 500
      | some db => .ok (generateICS clock (db.queryUserShifts user.id now))

end ScheduleSync
