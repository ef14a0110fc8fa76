import ScheduleSync.Scraper

/-! handlers_scrape_callback.go: the three requests a scraper container makes,
statement by statement. A request body is what ShouldBindJSON returns. -/
namespace ScheduleSync

def missingKey : HttpError := ⟨400, "missing X-Scrape-Key header"⟩
def invalidKey : HttpError := ⟨404, "invalid or expired scrape key"⟩
def alreadyFetched : HttpError := ⟨410, "credentials already fetched for this scrape"⟩
def couldNotLoad : HttpError := ⟨500, "could not load credentials"⟩

inductive GetCredentialsPc where
  | lookup
  | loadDEK (userID : Uuid)
  | loadRow (userID : Uuid) (plainDEK : Bytes)
  | markFetched (creds : CredentialsInput)
  | answered (r : Except HttpError CredentialsInput)
deriving DecidableEq

/-- scrapeGetCredentials with LoadCredentials inlined. A user id read back from
the table is always a UUID, so uuid.Parse succeeds on it. -/
def scrapeGetCredentials (env : Env) (o : Outcome) (w : World) (key : String) :
    GetCredentialsPc → Option (World × GetCredentialsPc)
  | .lookup =>
    if key = "" then some (w, .answered (.error missingKey))
    else
      match World.select o (w.db.runningLog key) with
      | none => some (w, .answered (.error invalidKey))
      | some l =>
        if l.credentialsFetchedAt.isSome then some (w, .answered (.error alreadyFetched))
        else some (w, .loadDEK l.userID)
  | .loadDEK userID =>
    match (World.select o (w.db.userDEK userID)).bind env.crypto.decryptDEK with
    | none => some (w, .answered (.error couldNotLoad))
    | some plainDEK => some (w, .loadRow userID plainDEK)
  | .loadRow userID plainDEK =>
    match World.select o (w.db.credentials userID) with
    | none => some (w, .answered (.error couldNotLoad))
    | some row =>
      match openCredentials env.crypto env.json plainDEK row with
      | .error _ => some (w, .answered (.error couldNotLoad))
      | .ok creds => some (w, .markFetched creds)
  | .markFetched creds =>
    -- the result of this UPDATE is not looked at
    some (w.execDropped o (w.db.setCredentialsFetchedAt key (unix w.now)), .answered (.ok creds))
  | .answered _ => none

structure CallbackShift where
  start : String
  stop : String
  jobName : String
  netHours : Rat
  shiftIDExt : String
  location : String
deriving DecidableEq

structure ShiftsAnswer where
  accepted : Nat
  new : Nat
deriving DecidableEq

/-- The variables of the ingestion loop: the log, its user, the body's length,
the entries still to do and the count so far. -/
structure Ingest where
  logID : Uuid
  userID : Uuid
  loc : Location
  found : Nat
  rest : List CallbackShift
  newCount : Nat

inductive SubmitShiftsPc where
  | lookup (body : Except String (List CallbackShift))
  | readTimezone (logID userID : Uuid) (shifts : List CallbackShift)
  | count (i : Ingest)
  | insert (i : Ingest) (sh : CallbackShift) (start stop : Int) (already : Nat)
  | scheduleNext (logID userID : Uuid) (answer : ShiftsAnswer)
  | answered (r : Except HttpError ShiftsAnswer)

def CallbackShift.row (sh : CallbackShift) (id userID : Uuid) (start stop now : Int) : Shift where
  id := id
  userID := userID
  shiftIDExt := sh.shiftIDExt
  jobName := sh.jobName
  location := sh.location
  startTime := start
  endTime := stop
  netHours := sh.netHours
  createdAt := now

def scrapeSubmitShifts (env : Env) (o : Outcome) (w : World) (key : String) :
    SubmitShiftsPc → Option (World × SubmitShiftsPc)
  | .lookup body =>
    if key = "" then some (w, .answered (.error missingKey))
    else
      match World.select o (w.db.runningLog key) with
      | none => some (w, .answered (.error invalidKey))
      | some l =>
        match body with
        | .error msg => some (w, .answered (.error ⟨400, msg⟩))
        | .ok shifts => some (w, .readTimezone l.id l.userID shifts)
  | .readTimezone logID userID shifts =>
    let tzName := match World.select o (w.db.user userID) with
      | some u => u.timezone
      | none => "UTC"
    let loc := (env.loadLocation tzName).getD .utc
    some (w, .count ⟨logID, userID, loc, shifts.length, shifts, 0⟩)
  | .count i =>
    match i.rest with
    | [] =>
      some (w.execDropped o
        (w.db.finishScrapeLog i.logID (.reportedShifts i.found i.newCount) (unix w.now)),
        .scheduleNext i.logID i.userID ⟨i.found, i.newCount⟩)
    | sh :: rest =>
      match parseShiftTime sh.start i.loc, parseShiftTime sh.stop i.loc with
      | some start, some stop =>
        let already := (World.select o (some (w.db.countShifts i.userID sh.shiftIDExt))).getD 0
        some (w, .insert { i with rest := rest } sh start stop already)
      | _, _ => some (w, .count { i with rest := rest })
  | .insert i sh start stop already =>
    if o.uuid ∈ w.drawn then none
    else
      let w' := { w with drawn := o.uuid :: w.drawn }
      match World.exec o (w.db.insertShift (sh.row o.uuid i.userID start stop (unix w.now))) with
      | none => some (w', .count i)
      | some db =>
        some ({ w' with db := db }, .count { i with newCount := if already = 0 then i.newCount + 1 else i.newCount })
  | .scheduleNext logID userID answer => some (w.scheduleNext o logID userID, .answered (.ok answer))
  | .answered _ => none

structure FailureReport where
  logs : List String
  screenshots : List String
deriving DecidableEq

inductive SubmitFailurePc where
  | lookup (body : Except String FailureReport)
  | markFailed (logID userID : Uuid) (report : FailureReport)
  | handleFailure (logID userID : Uuid)
  | scheduleNext (logID userID : Uuid)
  | answered (r : Except HttpError Unit)
deriving DecidableEq

def scrapeSubmitFailure (o : Outcome) (w : World) (key : String) :
    SubmitFailurePc → Option (World × SubmitFailurePc × List ScrapeJob)
  | .lookup body =>
    if key = "" then some (w, .answered (.error missingKey), [])
    else
      match World.select o (w.db.runningLog key) with
      | none => some (w, .answered (.error invalidKey), [])
      | some l =>
        match body with
        | .error msg => some (w, .answered (.error ⟨400, msg⟩), [])
        | .ok report => some (w, .markFailed l.id l.userID report, [])
  | .markFailed logID userID report =>
    some (w.execDropped o
      (w.db.finishScrapeLog logID (.reportedFailure report.logs report.screenshots) (unix w.now)),
      .handleFailure logID userID, [])
  | .handleFailure logID userID =>
    match handleScrapeFailure o w logID userID with
    | some job => some (w, .answered (.ok ()), [job])
    | none => some (w, .scheduleNext logID userID, [])
  | .scheduleNext logID userID => some (w.scheduleNext o logID userID, .answered (.ok ()), [])
  | .answered _ => none

end ScheduleSync
