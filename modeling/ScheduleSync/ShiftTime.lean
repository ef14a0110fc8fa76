import Mathlib.Algebra.GroupWithZero.Nat
import Mathlib.Data.Int.Notation

/-! parseShiftTime and the part of Go's time package it calls: ParseInLocation
for the four layouts and Date. Only the Unix second of a parsed time is used by
the program, so fractional seconds are checked and then dropped. -/
namespace ScheduleSync

/-- The zone in effect at an instant and the span [start, stop) it covers;
none is the beginning or the end of time. -/
structure ZoneSpan where
  offset : Int
  start : Option Int
  stop : Option Int

/-- time.Location, through its lookup of a UTC second. The zone database is data
outside the program. -/
structure Location where
  lookup : Int → ZoneSpan

def Location.utc : Location := ⟨fun _ => ⟨0, none, none⟩⟩

/-- The Unix second of a wall clock reading: the offset in effect at the reading
taken as UTC, looked up again when it leaves the span. -/
def Location.unixOf (loc : Location) (wall : Int) : Int :=
  let z := loc.lookup wall
  if z.offset ≠ 0 then
    let utc := wall - z.offset
    if z.start.any (fun t => decide (utc < t)) || z.stop.any (fun t => decide (t ≤ utc)) then
      wall - (loc.lookup utc).offset
    else utc
  else wall

def isLeap (year : Int) : Bool :=
  decide (year % 4 = 0) && (decide (year % 100 ≠ 0) || decide (year % 400 = 0))

def daysIn (year : Int) : Nat → Nat
  | 2 => if isLeap year then 29 else 28
  | 4 | 6 | 9 | 11 => 30
  | _ => 31

def daysBeforeMonth (year : Int) (month : Nat) : Nat :=
  ((List.range (month - 1)).map fun m => daysIn year (m + 1)).sum

/-- Leap days in the years before `year` of the proleptic Gregorian calendar. -/
def leapDaysBefore (year : Int) : Int :=
  (year - 1) / 4 - (year - 1) / 100 + (year - 1) / 400

/-- The fields a layout fills in; `zone` is an explicit offset in seconds. -/
structure Civil where
  year : Nat := 0
  month : Nat := 1
  day : Nat := 1
  hour : Nat := 0
  minute : Nat := 0
  second : Nat := 0
  zone : Option Int := none

def Civil.wall (c : Civil) : Int :=
  let days := 365 * ((c.year : Int) - 1970) + leapDaysBefore c.year - leapDaysBefore 1970 +
    daysBeforeMonth c.year c.month + c.day - 1
  days * 86400 + c.hour * 3600 + c.minute * 60 + c.second

inductive LayoutChunk where
  | lit (c : Char)
  | longYear | zeroMonth | zeroDay | hour | zeroMinute | zeroSecond | fracSecond3 | colonTZ
deriving DecidableEq

def digit? (c : Char) : Option Nat := if c.isDigit then some (c.toNat - '0'.toNat) else none

/-- getnum: one or two digits, exactly two when `fixed`. -/
def getnum (fixed : Bool) : List Char → Option (Nat × List Char)
  | [] => none
  | a :: rest => do
    let x ← digit? a
    match rest with
    | [] => if fixed then none else some (x, [])
    | b :: rest' =>
      match digit? b with
      | some y => some (10 * x + y, rest')
      | none => if fixed then none else some (x, rest)

def getnumIn (fixed : Bool) (lo hi : Nat) (value : List Char) : Option (Nat × List Char) := do
  let (n, rest) ← getnum fixed value
  if lo ≤ n ∧ n < hi then some (n, rest) else none

def commaOrPeriod (c : Char) : Bool := c == '.' || c == ','

/-- After the seconds, a fraction is read even where the layout has none. -/
def skipFraction (layout : List LayoutChunk) (value : List Char) : List Char :=
  match value with
  | c :: d :: rest =>
    if commaOrPeriod c && d.isDigit && layout.head? != some .fracSecond3 then
      rest.dropWhile Char.isDigit
    else value
  | _ => value

/-- The three characters atoi takes for milliseconds: it also takes a sign. -/
def milliseconds (a b c : Char) : Bool :=
  b.isDigit && c.isDigit && (a.isDigit || a == '+' || (a == '-' && b == '0' && c == '0'))

def parseZone : List Char → Option (Int × List Char)
  | 'Z' :: rest => some (0, rest)
  | sign :: h₁ :: h₂ :: ':' :: m₁ :: m₂ :: rest => do
    let (hr, _) ← getnum true [h₁, h₂]
    let (mm, _) ← getnum true [m₁, m₂]
    if 24 < hr ∨ 60 < mm then none
    let zoneOffset : Int := (hr * 60 + mm) * 60
    match sign with
    | '+' => some (zoneOffset, rest)
    | '-' => some (-zoneOffset, rest)
    | _ => none
  | _ => none

def parseLayout : List LayoutChunk → List Char → Civil → Option Civil
  | [], [], c => some c
  | [], _ :: _, _ => none
  | .lit ' ' :: layout, value, c =>
    if value.head?.any (· != ' ') then none
    else parseLayout layout (value.dropWhile (· == ' ')) c
  | .lit l :: layout, v :: value, c => if v = l then parseLayout layout value c else none
  | .lit _ :: _, [], _ => none
  | .longYear :: layout, a :: b :: d :: e :: value, c => do
    let y₁ ← digit? a
    let y₂ ← digit? b
    let y₃ ← digit? d
    let y₄ ← digit? e
    parseLayout layout value { c with year := 1000 * y₁ + 100 * y₂ + 10 * y₃ + y₄ }
  | .longYear :: _, _, _ => none
  | .zeroMonth :: layout, value, c => do
    let (n, value) ← getnumIn true 1 13 value
    parseLayout layout value { c with month := n }
  | .zeroDay :: layout, value, c => do
    let (n, value) ← getnum true value
    parseLayout layout value { c with day := n }
  | .hour :: layout, value, c => do
    let (n, value) ← getnumIn false 0 24 value
    parseLayout layout value { c with hour := n }
  | .zeroMinute :: layout, value, c => do
    let (n, value) ← getnumIn true 0 60 value
    parseLayout layout value { c with minute := n }
  | .zeroSecond :: layout, value, c => do
    let (n, value) ← getnumIn true 0 60 value
    parseLayout layout (skipFraction layout value) { c with second := n }
  | .fracSecond3 :: layout, p :: a :: b :: d :: value, c =>
    if commaOrPeriod p && milliseconds a b d then parseLayout layout value c else none
  | .fracSecond3 :: _, _, _ => none
  | .colonTZ :: layout, value, c => do
    let (offset, value) ← parseZone value
    parseLayout layout value { c with zone := some offset }

/-- time.ParseInLocation: the day is checked against the month once all fields
are read, and an explicit offset overrides the location. -/
def parseInLocation (layout : List LayoutChunk) (value : String) (loc : Location) : Option Int := do
  let c ← parseLayout layout value.toList {}
  if c.day < 1 ∨ daysIn c.year c.month < c.day then none
  match c.zone with
  | some offset => some (c.wall - offset)
  | none => some (loc.unixOf c.wall)

def dateThenTime (sep : Char) : List LayoutChunk :=
  [.longYear, .lit '-', .zeroMonth, .lit '-', .zeroDay, .lit sep,
    .hour, .lit ':', .zeroMinute, .lit ':', .zeroSecond]

def shiftFormats : List (List LayoutChunk) :=
  [dateThenTime 'T', dateThenTime ' ', dateThenTime 'T' ++ [.colonTZ],
    dateThenTime 'T' ++ [.fracSecond3]]

/-- parseShiftTime, down to the Unix second. -/
def parseShiftTime (s : String) (loc : Location) : Option Int :=
  shiftFormats.findSome? fun f => parseInLocation f s loc

example : parseShiftTime "2026-03-08T09:30:00" .utc = some 1772962200 := by decide

end ScheduleSync
