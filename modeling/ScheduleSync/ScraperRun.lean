import ScheduleSync.Envelope
import ScheduleSync.Merge
import ScheduleSync.Scripts

/-! The scraper, scraper/scrape.js: one run from the fetch of the credentials to the report.
Each await is a call. While it lasts time passes, and responses of the schedule API may come
in, which a handler takes up. -/
namespace ScheduleSync

structure ElementHandle where
  id : Nat
deriving DecidableEq

/-- How a promise settles: after `took` milliseconds, in which the JSON of `responses` has been
read; none stands for a response without JSON. -/
structure Settled (ι X : Type) where
  took : Nat
  responses : List (Option (ScheduleData ι))
  result : Except String X

/-- The answer to a fetch, with what its json() settles with. -/
structure FetchResponse (X : Type) where
  status : Nat
  json : Except String X

/-- What the scraper awaits, by what it settles with. `clickAndNavigate` and `enterAndNavigate`
are the Promise.all of submitForm, `clickAndWait` is the click and the response that
clickAndWaitForAPI waits for. -/
inductive Awaited : Type → Type
  | delay (ms : Nat) : Awaited Unit
  | getCredentials (url key : String) : Awaited (FetchResponse CredentialsInput)
  | postShifts (url key : String) (shifts : List CallbackShift) (homeSite : Option String) :
      Awaited (FetchResponse Unit)
  | postFailure (url key : String) (logs screenshots : List String) : Awaited (FetchResponse Unit)
  | launch : Awaited Unit
  | newPage : Awaited Unit
  | closeBrowser : Awaited Unit
  | goto (url : String) : Awaited Unit
  | screenshot : Awaited String
  | title : Awaited String
  | waitForVisible (selectors : List String) (timeout : Nat) : Awaited Unit
  | query (selector : String) : Awaited (Option ElementHandle)
  | isIntersectingViewport (el : ElementHandle) : Awaited Bool
  | type (el : ElementHandle) (text : String) : Awaited Unit
  | clickAndNavigate (el : ElementHandle) : Awaited Unit
  | enterAndNavigate : Awaited Unit
  | clickAndWait (selector urlPattern : String) (timeout : Nat) : Awaited Unit
  | hasBypass : Awaited Bool
  | clickBypass : Awaited Unit
  | innerText : Awaited String
  | setLocation (url : String) : Awaited Unit

inductive ScraperCall (ι : Type) : Type → Type 1
  | stderr (text : String) : ScraperCall ι Unit
  | pageUrl : ScraperCall ι String
  | await {X : Type} (a : Awaited X) : ScraperCall ι (Settled ι X)

structure Screenshot where
  label : String
  data : String

/-- The variables: the diagnostics, whether the handler of the page is registered, what it
has captured, and the milliseconds since the start. -/
structure ScraperVars (ι : Type) where
  logLines : List String
  screenshots : List Screenshot
  listening : Bool
  capturedWeeks : List (ScheduleData ι)
  now : Nat

def ScraperVars.initial {ι : Type} : ScraperVars ι := ⟨[], [], false, [], 0⟩

/-- The environment variables, and what the program takes from JavaScript: toLowerCase, String
and the instant of a date. -/
structure ScraperEnv (ι : Type) where
  scrapeKey : String
  scrapeApiUrl : String
  toLower : String → String
  toText : ι → String
  dateOf : String → Option Int

abbrev ScraperM (ι : Type) := Prog (ScraperCall ι) (ScraperVars ι) String

def includes (s t : String) : Bool := decide (t.toList <:+: s.toList)

def loginUrl : String := "https://starbucks-wfmr.jdadelivers.com/retail/rp/login"
def homeUrl : String := "https://starbucks-wfmr.jdadelivers.com/retail/portal"
def scheduleUrl : String :=
  "https://starbucks-wfmr.jdadelivers.com/retail/portal/page?libraryContext=84bf32f75f0f0a6c1e719ee3bd358e7fc5a5eb2c8ecbff333a1280869185e4cf&menu=Partner-Self-Service-MeZVjkkVQXSIxAIfoPKGvA#wfmess-myschedule////"
def targetDomain : String := "starbucks-wfmr.jdadelivers.com"
def weeksEachDirection : Nat := 1

def usernameSelectors : List String :=
  ["input[type=\"text\"]", "input[name=\"username\"]", "input#username", "input[name=\"user\"]",
    "input.username",
    "form input:not([type=\"submit\"]):not([type=\"button\"]):not([type=\"hidden\"])"]

def passwordSelectors : List String := ["input[type=\"password\"]"]

section Helpers
variable {ι : Type}

def log (message : String) : ScraperM ι Unit := do
  let line := "[scraper] " ++ message
  Prog.ask (.stderr (line ++ "\n"))
  Prog.modify fun s => { s with logLines := s.logLines ++ [line] }

/-- The handler of a response of the schedule API. -/
def onResponse : Option (ScheduleData ι) → ScraperM ι Unit
  | some ⟨some days, homeSiteName⟩ => do
    Prog.modify fun s => { s with capturedWeeks := s.capturedWeeks ++ [⟨some days, homeSiteName⟩] }
    let total ← Prog.gets fun s => s.capturedWeeks.length
    log ("Captured week (" ++ toString days.length ++ " days), total: " ++ toString total)
  | _ => pure ()

def onResponses : List (Option (ScheduleData ι)) → ScraperM ι Unit
  | [] => pure ()
  | response :: rest => do
    onResponse response
    onResponses rest

/-- Until the handler is registered, a response goes by. -/
def takeUp (responses : List (Option (ScheduleData ι))) : ScraperM ι Unit := do
  let listening ← Prog.gets ScraperVars.listening
  if listening then onResponses responses else pure ()

def awaits {X : Type} (a : Awaited X) : ScraperM ι X := do
  let settled ← Prog.ask (.await a)
  Prog.modify fun s => { s with now := s.now + settled.took }
  takeUp settled.responses
  Prog.ofExcept settled.result

/-- setTimeout fires no earlier than it is asked to. -/
def delay (ms : Nat) : ScraperM ι Unit := do
  Prog.modify fun s => { s with now := s.now + ms }
  awaits (.delay ms)

def screenshot (label : String) : ScraperM ι Unit :=
  Prog.attempt
    (do
      let b64 ← awaits .screenshot
      Prog.modify fun s => { s with screenshots := s.screenshots ++ [⟨label, b64⟩] }
      log ("Screenshot: " ++ label))
    fun e => log ("Screenshot failed (" ++ label ++ "): " ++ e)

/-- The end of postJSON and fetchCredentials. -/
def FetchResponse.body {X : Type} (request : String) (res : FetchResponse X) : ScraperM ι X :=
  if 200 ≤ res.status ∧ res.status ≤ 299 then Prog.ofExcept res.json
  else Prog.throw (request ++ " returned " ++ toString res.status)

def fetchCredentials (env : ScraperEnv ι) : ScraperM ι CredentialsInput := do
  let url := env.scrapeApiUrl ++ "/internal/scrape/credentials"
  let res ← awaits (.getCredentials url env.scrapeKey)
  res.body ("GET " ++ url)

/-- postJSON("/internal/scrape/shifts", ...) -/
def postShifts (env : ScraperEnv ι) (shifts : List CallbackShift) (homeSite : Option String) :
    ScraperM ι Unit := do
  let url := env.scrapeApiUrl ++ "/internal/scrape/shifts"
  let res ← awaits (.postShifts url env.scrapeKey shifts homeSite)
  res.body ("POST " ++ url)

def postFailure (env : ScraperEnv ι) (logs screenshots : List String) : ScraperM ι Unit := do
  let url := env.scrapeApiUrl ++ "/internal/scrape/failure"
  let res ← awaits (.postFailure url env.scrapeKey logs screenshots)
  res.body ("POST " ++ url)

def getTitle : ScraperM ι String :=
  Prog.attempt (awaits .title) fun _ => do
    delay 500
    Prog.attempt (awaits .title) fun _ => pure ""

/-- A call of page.evaluate, made again if it fails. -/
def evaluate {X : Type} (a : Awaited X) : ScraperM ι X :=
  Prog.attempt (awaits a) fun _ => do
    delay 500
    awaits a

/-- The loop of findVisibleInput. -/
def firstVisible : List String → ScraperM ι (Option ElementHandle)
  | [] => pure none
  | sel :: rest => do
    match ← awaits (.query sel) with
    | none => firstVisible rest
    | some el =>
      if ← Prog.attempt (awaits (.isIntersectingViewport el)) fun _ => pure false then pure (some el)
      else firstVisible rest

def findVisibleInput (selectors : List String) (timeout : Nat) (label : String) :
    ScraperM ι ElementHandle := do
  awaits (.waitForVisible selectors timeout)
  delay 500
  match ← firstVisible selectors with
  | some el => pure el
  | none => do
    screenshot (label ++ "-not-found")
    Prog.throw ("No visible " ++ label ++ " found (tried: " ++ ", ".intercalate selectors ++ ")")

def typeInto (selectors : List String) (text label : String) : ScraperM ι ElementHandle := do
  let el ← findVisibleInput selectors 15000 label
  awaits (.type el text)
  pure el

def submitForm : ScraperM ι Unit := do
  match ← awaits (.query "input[type=\"submit\"], button[type=\"submit\"], button") with
  | some btn => awaits (.clickAndNavigate btn)
  | none => awaits .enterAndNavigate

def clickAndWaitForAPI (selector urlPattern : String) (timeout settleMs : Nat) : ScraperM ι Unit := do
  delay settleMs
  awaits (.clickAndWait selector urlPattern timeout)

/-- The loop of pollUntil, for at most `n` iterations. -/
def pollLoop {β : Type} (checkFn : ScraperM ι (Option β)) (start maxMs intervalMs : Nat) :
    Nat → ScraperM ι (Option β)
  | 0 => pure none
  | n + 1 => do
    let now ← Prog.gets ScraperVars.now
    if now - start < maxMs then
      match ← checkFn with
      | some result => pure (some result)
      | none => do
        delay intervalMs
        pollLoop checkFn start maxMs intervalMs n
    else pure none

/-- An iteration takes `intervalMs` or more, so the loop never makes more of them. -/
def pollUntil {β : Type} (checkFn : ScraperM ι (Option β)) (maxMs intervalMs : Nat) :
    ScraperM ι (Option β) := do
  let start ← Prog.gets ScraperVars.now
  pollLoop checkFn start maxMs intervalMs (maxMs / intervalMs + 1)

/-- The loop of findSecurityAnswer over the remaining questions. -/
def matchQuestion (toLower : String → String) (normalized : String) (first : String) :
    List SecurityQuestion → ScraperM ι String
  | [] => do
    log "No security question matched; using first entry"
    pure first
  | entry :: rest =>
    if entry.question ≠ "" ∧ includes normalized (toLower entry.question) then do
      log ("Matched security question: \"" ++ entry.question ++ "\"")
      pure entry.answer
    else matchQuestion toLower normalized first rest

/-- findSecurityAnswer, for a list with a first entry. -/
def findSecurityAnswer (toLower : String → String) (pageText : String) (questions : List SecurityQuestion) :
    ScraperM ι String :=
  matchQuestion toLower (toLower pageText) ((questions.head?.map SecurityQuestion.answer).getD "") questions

end Helpers

inductive Authenticated where
  | domain | bypass
deriving DecidableEq

section Steps
variable {ι : Type} (env : ScraperEnv ι)

/-- Step 1. -/
def loginPage (creds : CredentialsInput) : ScraperM ι Unit := do
  log "Navigating to login page..."
  awaits (.goto loginUrl)
  screenshot "login-page"
  let title ← getTitle
  if includes title "SAS - Level 3" then
    log "SAS login detected, entering username..."
    let _ ← typeInto usernameSelectors creds.username "username"
    submitForm
    screenshot "after-username"

/-- The checkFn of step 2. -/
def checkAuthenticated : ScraperM ι (Option Authenticated) := do
  let url ← Prog.ask .pageUrl
  if includes url targetDomain then pure (some .domain)
  else do
    let hasBypass ← Prog.attempt (evaluate .hasBypass) fun _ => pure false
    pure (if hasBypass then some .bypass else none)

/-- The branch of step 2 around the push notification. -/
def bypassPush (creds : CredentialsInput) : ScraperM ι Unit := do
  log "Bypassing push notification via security question..."
  screenshot "push-notification"
  evaluate .clickBypass
  let _ ← findVisibleInput passwordSelectors 15000 "security-answer"
  let pageText ← Prog.attempt (evaluate .innerText) fun _ => pure ""
  let securityAnswer ← findSecurityAnswer env.toLower pageText creds.securityQuestions
  let _ ← typeInto passwordSelectors securityAnswer "security-answer"
  screenshot "security-question"
  submitForm
  log "Entering password..."
  let _ ← typeInto passwordSelectors creds.password "password"
  screenshot "password-entry"
  submitForm

/-- Step 2. -/
def authenticate (creds : CredentialsInput) : ScraperM ι Unit := do
  log "Waiting for authentication..."
  match ← pollUntil checkAuthenticated 60000 500 with
  | some .bypass => bypassPush env creds
  | some .domain => log "Authenticated (redirected to portal)"
  | none => log "Authentication timeout — continuing anyway"
  screenshot "post-auth"

/-- Step 3. -/
def openSchedule : ScraperM ι Unit := do
  log "Navigating to schedule page..."
  awaits (.goto homeUrl)
  evaluate (.setLocation scheduleUrl)
  let _ ← Prog.attempt (findVisibleInput ["#button-1028"] 15000 "prev-week button") fun err => do
    screenshot "schedule-load-failed"
    Prog.throw err
  let _ ← findVisibleInput ["#button-1029"] 15000 "next-week button"
  log "Schedule page loaded"
  screenshot "schedule-page"

/-- A loop of step 4. -/
def clickWeeks (selector message : String) : List Nat → ScraperM ι Unit
  | [] => pure ()
  | i :: rest => do
    clickAndWaitForAPI selector "/mySchedules/" 8000 1000
    log (message ++ toString (i + 1))
    clickWeeks selector message rest

/-- Step 4. -/
def captureWeeks : ScraperM ι Unit := do
  clickWeeks "#button-1028" "← week -" (List.range weeksEachDirection)
  clickWeeks "#button-1029" "→ week +" (List.range (weeksEachDirection * 2))
  let expected := weeksEachDirection * 2 + 1
  let _ ← pollUntil (Prog.gets fun s => if expected ≤ s.capturedWeeks.length then some () else none) 5000 500
  let captured ← Prog.gets fun s => s.capturedWeeks.length
  if captured < expected then
    log ("Warning: expected " ++ toString expected ++ " weeks but captured " ++ toString captured)
  screenshot "schedule-captured"

/-- Step 5. -/
def submitResults : ScraperM ι Unit := do
  let capturedWeeks ← Prog.gets ScraperVars.capturedWeeks
  let merged := mergeScheduleData env.dateOf capturedWeeks
  let shifts := extractShifts env.toText merged
  log (toString capturedWeeks.length ++ " weeks, " ++ toString shifts.length ++ " shifts")
  postShifts env shifts (merged.homeSiteName.filter fun name => name != "")
  log "Shifts submitted successfully"

/-- What run does between the launch of the browser and its end. -/
def browse (creds : CredentialsInput) : ScraperM ι Unit := do
  awaits .newPage
  Prog.modify fun s => { s with listening := true }
  loginPage creds
  authenticate env creds
  openSchedule
  captureWeeks
  submitResults env

def run : ScraperM ι Unit := do
  log "Fetching credentials..."
  let creds ← fetchCredentials env
  if creds.username = "" ∨ creds.password = "" ∨ creds.securityQuestions = [] then
    Prog.throw "Missing required credential fields"
  else do
    log "Launching browser..."
    awaits .launch
    Prog.ensuring (browse env creds) (awaits .closeBrowser)

/-- The handler of run().catch, which returns the exit code. -/
def reportError (err : String) : ScraperM ι Nat := do
  log ("Error: " ++ err)
  let logs ← Prog.gets ScraperVars.logLines
  let screenshots ← Prog.gets fun s => s.screenshots.map Screenshot.data
  Prog.attempt (postFailure env logs screenshots) fun postErr =>
    Prog.ask (.stderr ("[scraper] Failed to post failure report: " ++ postErr ++ "\n"))
  pure 1

/-- The whole program: it returns the exit code. -/
def scraperMain : ScraperM ι Nat :=
  if env.scrapeKey = "" ∨ env.scrapeApiUrl = "" then do
    Prog.ask (.stderr "[scraper] SCRAPE_KEY and SCRAPE_API_URL env vars are required\n")
    pure 1
  else
    Prog.attempt
      (do
        run env
        pure 0)
      (reportError env)

end Steps

/-! The polls. A loop ends because of the time and not of the number of its iterations. -/

section Polling
variable {ι : Type}

def KeepsTime {α : Type} (p : ScraperM ι α) : Prop :=
  ∀ t, Prog.Keeps (fun _ _ => ()) (fun _ _ _ => True) (fun s (_ : Unit) => t ≤ s.now) p

theorem log_keepsTime (message : String) : KeepsTime (log message : ScraperM ι Unit) := by
  intro t
  refine Prog.Keeps.bind (Prog.meets_ask fun s g h => ⟨trivial, fun _ => h⟩) fun _ => ?_
  exact Prog.meets_modify fun s g h => h

theorem onResponse_keepsTime (response : Option (ScheduleData ι)) : KeepsTime (onResponse response) := by
  intro t
  match response with
  | some ⟨some days, homeSiteName⟩ =>
    rw [onResponse]
    refine Prog.Keeps.bind (Prog.meets_modify fun s g h => h) fun _ => ?_
    exact Prog.Keeps.bind (Prog.meets_gets fun s g h => h) fun _ => log_keepsTime _ t
  | some ⟨none, _⟩ => exact Prog.meets_pure fun _ _ h => h
  | none => exact Prog.meets_pure fun _ _ h => h

theorem onResponses_keepsTime (responses : List (Option (ScheduleData ι))) : KeepsTime (onResponses responses) := by
  intro t
  induction responses with
  | nil => exact Prog.meets_pure fun _ _ h => h
  | cons response rest ih =>
    rw [onResponses]
    exact Prog.Keeps.bind (onResponse_keepsTime response t) fun _ => ih

theorem awaits_keepsTime {X : Type} (a : Awaited X) : KeepsTime (awaits a : ScraperM ι X) := by
  intro t
  refine Prog.Keeps.bind (Prog.meets_ask fun s g h => ⟨trivial, fun _ => h⟩) fun x => ?_
  refine Prog.Keeps.bind (Prog.meets_modify fun s g h => Nat.le_add_right_of_le h) fun _ => ?_
  refine Prog.Keeps.bind ?_ fun _ => Prog.meets_ofExcept fun _ _ h => h
  refine Prog.Keeps.bind (Prog.meets_gets fun s g h => h) fun listening => ?_
  cases listening with
  | true => exact onResponses_keepsTime _ t
  | false => exact Prog.meets_pure fun _ _ h => h

theorem pollLoop_enough {β : Type} {checkFn : ScraperM ι (Option β)} (hcheck : KeepsTime checkFn)
    {start maxMs intervalMs n m : Nat} {s : ScraperVars ι} (hs : start ≤ s.now)
    (hn : maxMs ≤ s.now - start + n * intervalMs) (hm : maxMs ≤ s.now - start + m * intervalMs) :
    pollLoop checkFn start maxMs intervalMs n s = pollLoop checkFn start maxMs intervalMs m s := by
  induction n generalizing m s with
  | zero =>
    cases m with
    | zero => rfl
    | succ m =>
      have hover : ¬ s.now - start < maxMs := by omega
      change _ = (if s.now - start < maxMs then _ else _ : ScraperM ι (Option β)) s
      rw [if_neg hover]
      rfl
  | succ n ih =>
    cases m with
    | zero =>
      have hover : ¬ s.now - start < maxMs := by omega
      change (if s.now - start < maxMs then _ else _ : ScraperM ι (Option β)) s = _
      rw [if_neg hover]
      rfl
    | succ m =>
      change (if s.now - start < maxMs then _ else _ : ScraperM ι (Option β)) s =
        (if s.now - start < maxMs then _ else _ : ScraperM ι (Option β)) s
      by_cases hlt : s.now - start < maxMs
      · rw [if_pos hlt, if_pos hlt]
        refine (hcheck s.now s () (Nat.le_refl _)).bind_congr ?_
        rintro ⟨r, s'⟩ _ hs'
        match r with
        | .error e => rfl
        | .ok (some result) => rfl
        | .ok none =>
          refine (awaits_keepsTime (.delay intervalMs) (s'.now + intervalMs) _ () (Nat.le_refl _)).bind_congr ?_
          rintro ⟨r, s''⟩ _ hs''
          cases r with
          | error e => rfl
          | ok _ =>
            have hsucc : ∀ k, (k + 1) * intervalMs = k * intervalMs + intervalMs := fun k => Nat.succ_mul k intervalMs
            rw [hsucc] at hn hm
            simp only at hs' hs''
            exact ih (by omega) (by omega) (by omega)
      · rw [if_neg hlt, if_neg hlt]

theorem pollUntil_eq {β : Type} {checkFn : ScraperM ι (Option β)} (hcheck : KeepsTime checkFn)
    {maxMs intervalMs n : Nat} (hpos : 0 < intervalMs) (hn : maxMs / intervalMs < n) (s : ScraperVars ι) :
    pollUntil checkFn maxMs intervalMs s = pollLoop checkFn s.now maxMs intervalMs n s := by
  have henough : ∀ k, maxMs / intervalMs < k → maxMs ≤ s.now - s.now + k * intervalMs := by
    intro k hk
    have hlt := (Nat.div_lt_iff_lt_mul hpos).mp hk
    omega
  exact pollLoop_enough hcheck (Nat.le_refl _) (henough _ (Nat.lt_succ_self _)) (henough n hn)

end Polling
end ScheduleSync
