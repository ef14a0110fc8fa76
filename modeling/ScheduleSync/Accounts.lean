import ScheduleSync.Scraper

/-! The requests users make: login by PIN, and behind authMiddleware saving
credentials, deleting the account, changing the timezone and the admin trigger. -/
namespace ScheduleSync

def pinText (n : Nat) : String :=
  let digits := Nat.toDigits 10 (n % 1000000)
  String.ofList (List.replicate (6 - digits.length) '0' ++ digits)

/-- FindOrCreateUser. `reload` is the second SELECT, after the INSERT succeeded or failed. -/
inductive FindUserPc where
  | select
  | insert
  | reload
deriving DecidableEq

inductive FindUserResult where
  | more (pc : FindUserPc)
  | found (u : User)
  | failed

def findOrCreateUser (o : Outcome) (w : World) (email : String) :
    FindUserPc → Option (World × FindUserResult)
  | .select =>
    if o.sqlFails then some (w, .failed)
    else
      match w.db.userByEmail email with
      | some u => some (w, .found u)
      | none => some (w, .more .insert)
  | .insert =>
    if o.randFails then some (w, .failed)
    else if o.uuid ∈ w.drawn then none
    else
      let u : User := ⟨o.uuid, email, false, "America/Chicago", o.token, unix w.now, unix w.now⟩
      let w' := { w with drawn := o.uuid :: w.drawn }
      match World.exec o (w.db.insertUser u) with
      | none => some (w', .more .reload)
      | some db => some ({ w' with db := db }, .more .reload)
  | .reload =>
    match World.select o (w.db.userByEmail email) with
    | some u => some (w, .found u)
    | none => some (w, .failed)

inductive RequestPinPc where
  | store
  | find (pin : String) (pc : FindUserPc)
  | mail (pin : String)
  | answered (r : Except HttpError Unit)

def requestPin (env : Env) (o : Outcome) (w : World) (email : String) :
    RequestPinPc → Option (World × RequestPinPc)
  | .store =>
    if !env.emailValid email then some (w, .answered (.error ⟨400, o.message⟩))
    else if o.randFails then some (w, .answered (.error ⟨500, "could not generate PIN"⟩))
    else
      let pin := pinText o.pin
      some ({ w with
        pins := w.pins.store env.toLower w.now email pin
        trace := { w.trace with pinsStored := (email, pin) :: w.trace.pinsStored } }, .find pin .select)
  | .find pin pc =>
    match findOrCreateUser o w email pc with
    | none => none
    | some (w', .more pc') => some (w', .find pin pc')
    | some (w', .found _) => some (w', .mail pin)
    | some (w', .failed) => some (w', .answered (.error ⟨500, "could not process request"⟩))
  | .mail pin =>
    if o.mailFails then some (w, .answered (.error ⟨500, "could not send PIN email"⟩))
    else
      some ({ w with trace := { w.trace with pinsMailed := (email, pin) :: w.trace.pinsMailed } },
        .answered (.ok ()))
  | .answered _ => none

inductive VerifyPinPc where
  | verify
  | find (pc : FindUserPc)
  | createSession (u : User)
  | answered (r : Except HttpError User)

def verifyPin (env : Env) (o : Outcome) (w : World) (email pin : String) :
    VerifyPinPc → Option (World × VerifyPinPc)
  | .verify =>
    if !env.emailValid email || pin == "" then some (w, .answered (.error ⟨400, o.message⟩))
    else
      match w.pins.verify env.toLower w.now email pin with
      | (pins, some err) => some ({ w with pins := pins }, .answered (.error ⟨401, err.message⟩))
      | (pins, none) => some ({ w with pins := pins }, .find .select)
  | .find pc =>
    match findOrCreateUser o w email pc with
    | none => none
    | some (w', .more pc') => some (w', .find pc')
    | some (w', .found u) => some (w', .createSession u)
    | some (w', .failed) => some (w', .answered (.error ⟨500, "could not create user"⟩))
  | .createSession u =>
    if o.uuid ∈ w.drawn then none
    else
      let session : Session :=
        ⟨o.uuid, u.id, env.hashToken o.token, unix (w.now + sessionDuration), unix w.now⟩
      let w' := { w with drawn := o.uuid :: w.drawn }
      match (if o.randFails then none else World.exec o (w.db.insertSession session)) with
      | none => some (w', .answered (.error ⟨500, "could not create session"⟩))
      | some db =>
        some ({ w' with
          db := db, trace := { w.trace with sessionsOpened := (u, pin) :: w.trace.sessionsOpened } },
          .answered (.ok u))
  | .answered _ => none

def encryptionError : HttpError := ⟨500, "encryption error"⟩

/-- Where writeCredentials is; `body` is what ShouldBindJSON will return. -/
inductive WriteCredentialsPc where
  | credentialLimit (body : Except String CredentialsInput)
  | scrapeLimit (body : Except String CredentialsInput)
  | selectDEK (input : CredentialsInput)
  | insertDEK (input : CredentialsInput)
  | upsert (input : CredentialsInput) (plainDEK : Bytes)
  | schedule (now : Int)
  | answered (r : Except HttpError Unit)

def writeCredentials (env : Env) (o : Outcome) (w : World) (userID : Uuid) :
    WriteCredentialsPc → Option (World × WriteCredentialsPc × List ScrapeJob)
  | .credentialLimit body =>
    match w.credentialRL.allow w.now userID with
    | (rl, true) => some ({ w with credentialRL := rl }, .scrapeLimit body, [])
    | (rl, false) =>
      some ({ w with credentialRL := rl },
        .answered (.error ⟨429, "please wait before updating credentials again"⟩), [])
  | .scrapeLimit body =>
    match w.scrapeRL.allow w.now userID with
    | (rl, false) =>
      some ({ w with scrapeRL := rl },
        .answered (.error ⟨429, "scrape limit reached (10 per 48 hours), try again later"⟩), [])
    | (rl, true) =>
      match body with
      | .error msg => some ({ w with scrapeRL := rl }, .answered (.error ⟨400, msg⟩), [])
      | .ok input => some ({ w with scrapeRL := rl }, .selectDEK input, [])
  | .selectDEK input =>
    if o.sqlFails then some (w, .answered (.error encryptionError), [])
    else
      match w.db.userDEK userID with
      | none => some (w, .insertDEK input, [])
      | some dek =>
        match env.crypto.decryptDEK dek with
        | none => some (w, .answered (.error encryptionError), [])
        | some plainDEK => some (w, .upsert input plainDEK, [])
  | .insertDEK input =>
    match (if o.randFails then none else env.crypto.generateDEK o.dek o.dekNonce) with
    | none => some (w, .answered (.error encryptionError), [])
    | some (plainDEK, encDEK) =>
      match World.exec o (w.db.insertDEK ⟨userID, encDEK, o.dekNonce, unix w.now⟩) with
      | none => some (w, .answered (.error encryptionError), [])
      | some db => some ({ w with db := db }, .upsert input plainDEK, [])
  | .upsert input plainDEK =>
    match (if o.randFails then none
      else sealCredentials env.crypto env.json plainDEK o.nonces userID input (unix w.now)) with
    | none => some (w, .answered (.error encryptionError), [])
    | some row =>
      match World.exec o (w.db.upsertCredentials row) with
      | none => some (w, .answered (.error ⟨500, "could not store credentials"⟩), [])
      | some db =>
        some ({ w with db := db, trace := { w.trace with saved := (userID, input) :: w.trace.saved } },
          .schedule (unix w.now), [])
  | .schedule now =>
    -- TriggerScrape runs whether or not the schedule row was written
    let w' := match World.exec o (w.db.upsertSchedule userID now) with
      | none => w
      | some db => { w with db := db }
    some (w', .answered (.ok ()), [⟨userID, 0, false, false, none⟩])
  | .answered _ => none

inductive AuthedRequest where
  | writeCredentials (body : Except String CredentialsInput)
  | deleteAccount
  | updateTimezone (body : Except String String)
  | triggerScrape (userID : Except String Uuid)

def getSessionUser (env : Env) (o : Outcome) (w : World) (token : String) : Option User :=
  World.select o (w.db.sessionUser (env.hashToken token) (unix w.now))

def deleteAccount (o : Outcome) (w : World) (userID : Uuid) : World × Except HttpError Unit :=
  if o.sqlFails then (w, .error ⟨500, "could not delete account"⟩)
  else ({ w with db := w.db.deleteUser userID }, .ok ())

def updateTimezone (env : Env) (o : Outcome) (w : World) (userID : Uuid)
    (body : Except String String) : World × Except HttpError Unit :=
  match body with
  | .error msg => (w, .error ⟨400, msg⟩)
  | .ok tz =>
    if (env.loadLocation tz).isNone then (w, .error ⟨400, "invalid timezone"⟩)
    else if o.sqlFails then (w, .error ⟨500, "could not update timezone"⟩)
    else ({ w with db := w.db.updateTimezone userID tz (unix w.now) }, .ok ())

/-- logout; the error of DeleteSession is dropped. -/
def logout (env : Env) (o : Outcome) (w : World) (token : String) : World :=
  if token = "" then w else w.execDropped o (w.db.deleteSession (env.hashToken token))

/-- onboardingStatus: has_credentials and has_successful_scrape, from the state at
each of its two SELECTs; none stands for a SELECT that fails and leaves its count at 0. -/
def onboardingStatus (userID : Uuid) (credsAt successAt : Option DB) : Bool × Bool :=
  (credsAt.any fun db => (db.credentials userID).isSome,
    successAt.any fun db => decide (0 < db.successCount userID))

end ScheduleSync
