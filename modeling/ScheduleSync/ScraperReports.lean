import ScheduleSync.ScraperRun

/-! What a run of the scraper does, whatever the site, the browser and the service answer. It
asks for the credentials once, uses the browser only between its launch and its end, ends it
before it reports a failure, and what it reports is what it has seen. -/
namespace ScheduleSync

/-- How far the run is: `posted` says whether the shifts have been sent. -/
inductive ScraperStage where
  | started | fetched | launched
  | browsing (posted : Bool)
  | closed (posted : Bool)
  | reported
deriving DecidableEq

/-- The stage after a call that has succeeded or not. -/
def ScraperStage.after {X : Type} (stage : ScraperStage) (ok : Bool) : Awaited X → ScraperStage
  | .getCredentials _ _ => .fetched
  | .launch => if ok then .launched else .closed false
  | .newPage => if ok then .browsing false else .launched
  | .postShifts _ _ _ _ => .browsing true
  | .closeBrowser =>
    match stage with
    | .browsing posted => .closed posted
    | _ => .closed false
  | .postFailure _ _ _ _ => .reported
  | _ => stage

/-- Which calls have their place in a stage. -/
def ScraperStage.Permits {X : Type} (stage : ScraperStage) : Awaited X → Prop
  | .getCredentials _ _ => stage = .started
  | .launch => stage = .fetched
  | .newPage => stage = .launched
  | .postShifts _ _ _ _ => stage = .browsing false
  | .closeBrowser => stage = .launched ∨ ∃ posted, stage = .browsing posted
  | .postFailure _ _ _ _ => stage = .fetched ∨ ∃ posted, stage = .closed posted
  | _ => ∃ posted, stage = .browsing posted

def Awaited.picture {X : Type} (result : Except String X) : Awaited X → List String
  | .screenshot =>
    match result with
    | .ok b64 => [b64]
    | .error _ => []
  | _ => []

def Awaited.opens {X : Type} (ok : Bool) : Awaited X → Bool
  | .newPage => ok
  | _ => false

/-- The JSON of an answer with a good status. -/
def FetchResponse.accepted {X : Type} (res : FetchResponse X) : Option X :=
  if 200 ≤ res.status ∧ res.status ≤ 299 then res.json.toOption else none

/-- The credentials there are after a call. -/
def Awaited.credentials {X : Type} (known : Option CredentialsInput) (result : Except String X) :
    Awaited X → Option CredentialsInput
  | .getCredentials _ _ => result.toOption.bind FetchResponse.accepted
  | _ => known

/-- What may be typed into the page. -/
def CredentialsInput.texts (creds : CredentialsInput) : List String :=
  creds.username :: creds.password :: creds.securityQuestions.map SecurityQuestion.answer

def weekOf {ι : Type} : Option (ScheduleData ι) → Option (ScheduleData ι)
  | some ⟨some days, homeSiteName⟩ => some ⟨some days, homeSiteName⟩
  | _ => none

def succeeded {X : Type} : Except String X → Bool
  | .ok _ => true
  | .error _ => false

/-- What one sees of a run from outside: the stage, the credentials it got, the text on stderr,
the pictures, and once there is a page the weeks that came in. -/
structure Seen (ι : Type) where
  stage : ScraperStage
  credentials : Option CredentialsInput
  page : Bool
  lines : List String
  pictures : List String
  weeks : List (ScheduleData ι)

def Seen.initial {ι : Type} : Seen ι := ⟨.started, none, false, [], [], []⟩

def Seen.see {ι : Type} (g : Seen ι) : Exchange (ScraperCall ι) → Seen ι
  | ⟨.stderr text, _⟩ => { g with lines := g.lines ++ [text] }
  | ⟨.pageUrl, _⟩ => g
  | ⟨.await a, settled⟩ =>
    { g with
      stage := g.stage.after (succeeded settled.result) a
      credentials := a.credentials g.credentials settled.result
      page := g.page || a.opens (succeeded settled.result)
      pictures := g.pictures ++ a.picture settled.result
      weeks := g.weeks ++ if g.page then settled.responses.filterMap weekOf else [] }

theorem see_stage_ne {ι : Type} {g : Seen ι} (h : g.stage ≠ .started) (x : Exchange (ScraperCall ι)) :
    (g.see x).stage ≠ .started := by
  cases x with
  | mk call answer =>
    cases call with
    | stderr | pageUrl => exact h
    | await a =>
      cases a with
      | getCredentials | postShifts | postFailure => simp [Seen.see, ScraperStage.after]
      | launch | newPage =>
        simp only [Seen.see, ScraperStage.after]
        split <;> simp
      | closeBrowser =>
        simp only [Seen.see, ScraperStage.after]
        split <;> simp
      | _ => exact h

section Reports
variable {ι : Type} (env : ScraperEnv ι)

/-- A request carries the key of the scrape and goes to the service. The shifts are those of the
weeks that came in, a report of a failure holds every line and every picture, and what is typed
into the page is from the credentials. -/
def Awaited.Truthful {X : Type} (g : Seen ι) : Awaited X → Prop
  | .getCredentials url key =>
    url = env.scrapeApiUrl ++ "/internal/scrape/credentials" ∧ key = env.scrapeKey
  | .postShifts url key shifts homeSite =>
    url = env.scrapeApiUrl ++ "/internal/scrape/shifts" ∧ key = env.scrapeKey ∧
      shifts = extractShifts env.toText (mergeScheduleData env.dateOf g.weeks) ∧
      homeSite = (mergeScheduleData env.dateOf g.weeks).homeSiteName.filter fun name => name != ""
  | .postFailure url key logs screenshots =>
    url = env.scrapeApiUrl ++ "/internal/scrape/failure" ∧ key = env.scrapeKey ∧
      logs.map (fun line => line ++ "\n") = g.lines ∧ screenshots = g.pictures
  | .type _ text => ∃ creds, g.credentials = some creds ∧ text ∈ creds.texts
  | _ => True

def accepts (g : Seen ι) : (X : Type) → ScraperCall ι X → Prop
  | _, .stderr _ => True
  | _, .pageUrl => ∃ posted, g.stage = .browsing posted
  | _, .await a => g.stage.Permits a ∧ a.Truthful env g

/-- The variables hold what is seen, but for the pictures `extra` and the weeks `lag` which
they do not hold yet. -/
structure Mirrors (stage : ScraperStage) (credentials : Option CredentialsInput) (listening page : Bool)
    (extra : List String) (lag : List (ScheduleData ι)) (s : ScraperVars ι) (g : Seen ι) : Prop where
  stage : g.stage = stage
  credentials : g.credentials = credentials
  listening : s.listening = listening
  page : g.page = page
  lines : s.logLines.map (fun line => line ++ "\n") = g.lines
  pictures : s.screenshots.map Screenshot.data ++ extra = g.pictures
  weeks : s.capturedWeeks ++ lag = g.weeks

abbrev Does {α : Type} (P : ScraperVars ι → Seen ι → Prop) (p : ScraperM ι α)
    (Q : Except String α → ScraperVars ι → Seen ι → Prop) : Prop :=
  Prog.Meets Seen.see (accepts env) P p Q

variable {env} {stage : ScraperStage} {credentials : Option CredentialsInput} {listening page : Bool}
  {extra : List String} {lag : List (ScheduleData ι)}

theorem log_does {P : ScraperVars ι → Seen ι → Prop} {message : String}
    (h : ∀ s g, P s g → P { s with logLines := s.logLines ++ ["[scraper] " ++ message] }
      { g with lines := g.lines ++ ["[scraper] " ++ message ++ "\n"] }) :
    Does env P (log message) (Prog.Gives fun _ => P) := by
  refine Prog.Meets.then (N := fun _ s g => P { s with logLines := s.logLines ++ ["[scraper] " ++ message] } g)
    (Prog.meets_ask fun s g hs => ⟨trivial, fun _ => h s g hs⟩) ?_
  exact fun _ => Prog.meets_modify fun _ _ hs => hs

theorem log_gives (message : String) : Does env (Mirrors stage credentials listening page extra lag) (log message)
    (Prog.Gives fun _ => Mirrors stage credentials listening page extra lag) := by
  refine log_does ?_
  intro s g h
  exact ⟨h.stage, h.credentials, h.listening, h.page, by simp [h.lines], h.pictures, h.weeks⟩

theorem onResponse_gives (response : Option (ScheduleData ι)) :
    Does env (Mirrors stage credentials listening page extra ((weekOf response).toList ++ lag)) (onResponse response)
      (Prog.Gives fun _ => Mirrors stage credentials listening page extra lag) := by
  match response with
  | some ⟨some days, homeSiteName⟩ =>
    rw [onResponse]
    refine Prog.Meets.then (N := fun _ => Mirrors stage credentials listening page extra lag)
      (Prog.meets_modify ?_) fun _ => ?_
    · intro s g h
      exact ⟨h.stage, h.credentials, h.listening, h.page, h.lines, h.pictures, by simpa [weekOf] using h.weeks⟩
    · refine Prog.Meets.then (N := fun _ => Mirrors stage credentials listening page extra lag)
        (Prog.meets_gets fun _ _ h => h) fun _ => ?_
      exact log_gives _
  | some ⟨none, _⟩ => exact Prog.meets_pure fun _ _ h => h
  | none => exact Prog.meets_pure fun _ _ h => h

theorem onResponses_gives (responses : List (Option (ScheduleData ι))) :
    Does env (Mirrors stage credentials listening page extra (responses.filterMap weekOf)) (onResponses responses)
      (Prog.Gives fun _ => Mirrors stage credentials listening page extra []) := by
  induction responses with
  | nil => exact Prog.meets_pure fun _ _ h => h
  | cons response rest ih =>
    rw [onResponses]
    refine Prog.Meets.then ?_ fun _ => ih
    refine (onResponse_gives response).weaken ?_ fun _ _ _ h => h
    intro s g h
    cases hweek : weekOf response with
    | none => simpa [hweek] using h
    | some week => simpa [hweek] using h

theorem takeUp_gives (responses : List (Option (ScheduleData ι))) :
    Does env (Mirrors stage credentials listening page extra (if listening then responses.filterMap weekOf else []))
      (takeUp responses) (Prog.Gives fun _ => Mirrors stage credentials listening page extra []) := by
  refine Prog.Meets.then (N := fun l s g => l = listening ∧ Mirrors stage credentials listening page extra
    (if listening then responses.filterMap weekOf else []) s g) (Prog.meets_gets fun s g h => ⟨h.listening, h⟩) ?_
  intro l
  cases listening with
  | true =>
    cases l with
    | true => exact (onResponses_gives responses).weaken (fun _ _ h => h.2) fun _ _ _ h => h
    | false => exact fun s g h => absurd h.1 Bool.false_ne_true
  | false =>
    cases l with
    | true => exact fun s g h => absurd h.1.symm Bool.false_ne_true
    | false => exact Prog.meets_pure fun _ _ h => h.2

/-- What is awaited brings the stage forward; its picture is not yet held, and the page that it
opens has no handler yet. `F` is what else is known when the call is made. -/
theorem awaits_does {X : Type} {a : Awaited X} {F : Seen ι → Prop}
    (haccept : ∀ g, g.stage = stage → g.credentials = credentials → F g →
      accepts env g _ (.await a : ScraperCall ι _)) :
    Does env (fun s g => Mirrors stage credentials page page [] [] s g ∧ F g) (awaits a) fun r =>
      Mirrors (stage.after (succeeded r) a) (a.credentials credentials r) page (page || a.opens (succeeded r))
        (a.picture r) [] := by
  refine Prog.Meets.then (N := fun x => Mirrors (stage.after (succeeded x.result) a)
    (a.credentials credentials x.result) page (page || a.opens (succeeded x.result)) (a.picture x.result)
    (if page then x.responses.filterMap weekOf else [])) (Prog.meets_ask ?_) fun x => ?_
  · rintro s g ⟨h, hF⟩
    refine ⟨haccept g h.stage h.credentials hF, fun x => ?_⟩
    have hweeks := h.weeks
    have hpictures := h.pictures
    rw [List.append_nil] at hweeks hpictures
    exact ⟨by simp [Seen.see, h.stage], by simp [Seen.see, h.credentials], h.listening,
      by simp [Seen.see, h.page], h.lines, by simp [Seen.see, hpictures], by simp [Seen.see, hweeks, h.page]⟩
  refine Prog.Meets.then (N := fun _ => Mirrors (stage.after (succeeded x.result) a)
    (a.credentials credentials x.result) page (page || a.opens (succeeded x.result)) (a.picture x.result)
    (if page then x.responses.filterMap weekOf else [])) (Prog.meets_modify fun s g h => ?_) fun _ => ?_
  · exact ⟨h.stage, h.credentials, h.listening, h.page, h.lines, h.pictures, h.weeks⟩
  refine Prog.Meets.then (takeUp_gives x.responses) fun _ => ?_
  exact Prog.meets_ofExcept fun _ _ h => h

theorem awaits_mirrors {X : Type} {a : Awaited X}
    (haccept : ∀ g, g.stage = stage → g.credentials = credentials →
      accepts env g _ (.await a : ScraperCall ι _)) :
    Does env (Mirrors stage credentials page page [] []) (awaits a) fun r =>
      Mirrors (stage.after (succeeded r) a) (a.credentials credentials r) page (page || a.opens (succeeded r))
        (a.picture r) [] :=
  (awaits_does (F := fun _ => True) fun g hg hcreds _ => haccept g hg hcreds).weaken (fun _ _ h => ⟨h, trivial⟩)
    fun _ _ _ h => h

/-! The helpers and the steps, while the page is open. -/

abbrev Browsing (credentials : Option CredentialsInput) (posted : Bool) : ScraperVars ι → Seen ι → Prop :=
  Mirrors (.browsing posted) credentials true true [] []

variable {posted : Bool}

def Awaited.isPlain {X : Type} : Awaited X → Bool
  | .getCredentials _ _ | .postShifts _ _ _ _ | .postFailure _ _ _ _ => false
  | .launch | .newPage | .closeBrowser | .screenshot | .type _ _ => false
  | _ => true

theorem awaits_keeps {X : Type} {a : Awaited X} (ha : a.isPlain = true) :
    Does env (Browsing credentials posted) (awaits a) fun _ => Browsing credentials posted := by
  refine (awaits_mirrors (a := a) ?_).weaken (fun _ _ h => h) ?_
  · intro g hg _
    cases a <;> first | exact ⟨⟨posted, hg⟩, trivial⟩ | cases ha
  · intro r s g h
    cases a <;> first | exact h | cases ha

abbrev BrowsesOn {α : Type} (env : ScraperEnv ι) (credentials : Option CredentialsInput) (posted : Bool)
    (p : ScraperM ι α) : Prop :=
  Prog.Keeps Seen.see (accepts env) (Browsing credentials posted) p

theorem log_browsesOn (message : String) : BrowsesOn env credentials posted (log message) := by
  refine (log_gives message).weaken (fun _ _ h => h) ?_
  intro r s g h
  cases r with
  | ok => exact h
  | error e => exact h.elim

theorem modify_browsesOn {change : ScraperVars ι → ScraperVars ι}
    (h : ∀ s g, Browsing credentials posted s g → Browsing credentials posted (change s) g) :
    BrowsesOn env credentials posted (Prog.modify change) :=
  Prog.meets_modify h

theorem delay_browsesOn (ms : Nat) : BrowsesOn env credentials posted (delay ms : ScraperM ι Unit) := by
  refine Prog.Keeps.bind (modify_browsesOn ?_) fun _ => awaits_keeps rfl
  intro s g h
  exact ⟨h.stage, h.credentials, h.listening, h.page, h.lines, h.pictures, h.weeks⟩

theorem screenshot_browsesOn (label : String) :
    BrowsesOn env credentials posted (screenshot label : ScraperM ι Unit) := by
  refine Prog.Meets.attempt (M := fun _ => Browsing credentials posted) ?_ (fun _ _ _ h => h) fun e => log_browsesOn _
  refine Prog.Meets.bind (M := fun r => Mirrors (.browsing posted) credentials true true
    (Awaited.picture r .screenshot) []) ?_ ?_ fun e s g h => h
  · exact awaits_mirrors fun g hg _ => ⟨⟨posted, hg⟩, trivial⟩
  · intro b64
    refine Prog.Meets.bind (M := fun _ => Browsing credentials posted) (Prog.meets_modify ?_) (fun _ => log_browsesOn _)
      fun _ _ _ h => h
    intro s g h
    exact ⟨h.stage, h.credentials, h.listening, h.page, h.lines, by simpa [Awaited.picture] using h.pictures, h.weeks⟩

theorem getTitle_browsesOn : BrowsesOn env credentials posted (getTitle : ScraperM ι String) := by
  refine Prog.Keeps.attempt (awaits_keeps rfl) fun _ => ?_
  refine Prog.Keeps.bind (delay_browsesOn 500) fun _ => ?_
  exact Prog.Keeps.attempt (awaits_keeps rfl) fun _ => Prog.meets_pure fun _ _ h => h

theorem evaluate_browsesOn {X : Type} {a : Awaited X} (ha : a.isPlain = true) :
    BrowsesOn env credentials posted (evaluate a : ScraperM ι X) := by
  refine Prog.Keeps.attempt (awaits_keeps ha) fun _ => ?_
  exact Prog.Keeps.bind (delay_browsesOn 500) fun _ => awaits_keeps ha

theorem firstVisible_browsesOn (selectors : List String) :
    BrowsesOn env credentials posted (firstVisible selectors : ScraperM ι (Option ElementHandle)) := by
  induction selectors with
  | nil => exact Prog.meets_pure fun _ _ h => h
  | cons sel rest ih =>
    rw [firstVisible]
    refine Prog.Keeps.bind (awaits_keeps rfl) fun found => ?_
    cases found with
    | none => exact ih
    | some el =>
      refine Prog.Keeps.bind ?_ fun visible => ?_
      · exact Prog.Keeps.attempt (awaits_keeps rfl) fun _ => Prog.meets_pure fun _ _ h => h
      · cases visible with
        | true => exact Prog.meets_pure fun _ _ h => h
        | false => exact ih

theorem findVisibleInput_browsesOn (selectors : List String) (timeout : Nat) (label : String) :
    BrowsesOn env credentials posted (findVisibleInput selectors timeout label : ScraperM ι ElementHandle) := by
  refine Prog.Keeps.bind (awaits_keeps rfl) fun _ => ?_
  refine Prog.Keeps.bind (delay_browsesOn 500) fun _ => ?_
  refine Prog.Keeps.bind (firstVisible_browsesOn selectors) fun found => ?_
  cases found with
  | some el => exact Prog.meets_pure fun _ _ h => h
  | none =>
    refine Prog.Keeps.bind (screenshot_browsesOn _) fun _ => ?_
    exact Prog.meets_throw fun _ _ h => h

theorem typeInto_browsesOn {creds : CredentialsInput} (selectors : List String) {text : String} (label : String)
    (htext : text ∈ creds.texts) :
    BrowsesOn env (some creds) posted (typeInto selectors text label : ScraperM ι ElementHandle) := by
  refine Prog.Keeps.bind (findVisibleInput_browsesOn selectors 15000 label) fun el => ?_
  refine Prog.Keeps.bind ?_ fun _ => Prog.meets_pure fun _ _ h => h
  refine (awaits_mirrors (a := .type el text) ?_).weaken (fun _ _ h => h) fun _ _ _ h => h
  exact fun g hg hcreds => ⟨⟨posted, hg⟩, creds, hcreds, htext⟩

theorem submitForm_browsesOn : BrowsesOn env credentials posted (submitForm : ScraperM ι Unit) := by
  refine Prog.Keeps.bind (awaits_keeps rfl) fun btn => ?_
  cases btn with
  | some btn => exact awaits_keeps rfl
  | none => exact awaits_keeps rfl

theorem clickAndWaitForAPI_browsesOn (selector urlPattern : String) (timeout settleMs : Nat) :
    BrowsesOn env credentials posted (clickAndWaitForAPI selector urlPattern timeout settleMs : ScraperM ι Unit) :=
  Prog.Keeps.bind (delay_browsesOn settleMs) fun _ => awaits_keeps rfl

theorem gets_browsesOn {α : Type} (read : ScraperVars ι → α) : BrowsesOn env credentials posted (Prog.gets read) :=
  Prog.meets_gets fun _ _ h => h

theorem pollLoop_browsesOn {β : Type} {checkFn : ScraperM ι (Option β)}
    (hcheck : BrowsesOn env credentials posted checkFn) (start maxMs intervalMs n : Nat) :
    BrowsesOn env credentials posted (pollLoop checkFn start maxMs intervalMs n) := by
  induction n with
  | zero => exact Prog.meets_pure fun _ _ h => h
  | succ n ih =>
    rw [pollLoop]
    refine Prog.Keeps.bind (gets_browsesOn _) fun now => ?_
    split
    · refine Prog.Keeps.bind hcheck fun result => ?_
      cases result with
      | some result => exact Prog.meets_pure fun _ _ h => h
      | none => exact Prog.Keeps.bind (delay_browsesOn intervalMs) fun _ => ih
    · exact Prog.meets_pure fun _ _ h => h

theorem pollUntil_browsesOn {β : Type} {checkFn : ScraperM ι (Option β)}
    (hcheck : BrowsesOn env credentials posted checkFn) (maxMs intervalMs : Nat) :
    BrowsesOn env credentials posted (pollUntil checkFn maxMs intervalMs) :=
  Prog.Keeps.bind (gets_browsesOn _) fun start => pollLoop_browsesOn hcheck start maxMs intervalMs _

theorem matchQuestion_does (toLower : String → String) (normalized : String) {first : String}
    {questions : List SecurityQuestion} {answers : List String} (hfirst : first ∈ answers)
    (hquestions : ∀ q ∈ questions, q.answer ∈ answers) :
    Does env (Browsing credentials posted) (matchQuestion toLower normalized first questions)
      (Prog.Gives fun answer s g => Browsing credentials posted s g ∧ answer ∈ answers) := by
  have hlogged : ∀ message answer, answer ∈ answers → Does env (Browsing credentials posted)
      (log message >>= fun _ => Prog.pure answer)
      (Prog.Gives fun answer s g => Browsing credentials posted s g ∧ answer ∈ answers) :=
    fun message answer hanswer =>
      Prog.Meets.then (log_gives message) fun _ => Prog.meets_pure fun _ _ h => ⟨h, hanswer⟩
  induction questions with
  | nil => exact hlogged _ first hfirst
  | cons entry rest ih =>
    rw [matchQuestion]
    split
    · exact hlogged _ entry.answer (hquestions entry List.mem_cons_self)
    · exact ih fun q hq => hquestions q (List.mem_cons_of_mem _ hq)

theorem findSecurityAnswer_does {creds : CredentialsInput} (hasked : creds.securityQuestions ≠ [])
    (toLower : String → String) (pageText : String) :
    Does env (Browsing credentials posted) (findSecurityAnswer toLower pageText creds.securityQuestions)
      (Prog.Gives fun answer s g => Browsing credentials posted s g ∧ answer ∈ creds.texts) := by
  have hanswers : ∀ q ∈ creds.securityQuestions, q.answer ∈ creds.texts := fun q hq =>
    List.mem_cons_of_mem _ (List.mem_cons_of_mem _ (List.mem_map_of_mem hq))
  refine matchQuestion_does toLower _ ?_ hanswers
  cases hquestions : creds.securityQuestions with
  | nil => exact absurd hquestions hasked
  | cons first rest => exact hanswers first (hquestions ▸ List.mem_cons_self)

theorem loginPage_browsesOn (creds : CredentialsInput) :
    BrowsesOn env (some creds) posted (loginPage creds : ScraperM ι Unit) := by
  refine Prog.Keeps.bind (log_browsesOn _) fun _ => ?_
  refine Prog.Keeps.bind (awaits_keeps rfl) fun _ => ?_
  refine Prog.Keeps.bind (screenshot_browsesOn _) fun _ => ?_
  refine Prog.Keeps.bind getTitle_browsesOn fun title => ?_
  split
  · refine Prog.Keeps.bind (log_browsesOn _) fun _ => ?_
    refine Prog.Keeps.bind (typeInto_browsesOn _ _ List.mem_cons_self) fun _ => ?_
    exact Prog.Keeps.bind submitForm_browsesOn fun _ => screenshot_browsesOn _
  · exact Prog.meets_pure fun _ _ h => h

theorem checkAuthenticated_browsesOn :
    BrowsesOn env credentials posted (checkAuthenticated : ScraperM ι (Option Authenticated)) := by
  refine Prog.Keeps.bind (Prog.meets_ask fun s g h => ⟨⟨posted, h.stage⟩, fun _ => h⟩) fun url => ?_
  split
  · exact Prog.meets_pure fun _ _ h => h
  · refine Prog.Keeps.bind ?_ fun hasBypass => Prog.meets_pure fun _ _ h => h
    exact Prog.Keeps.attempt (evaluate_browsesOn rfl) fun _ => Prog.meets_pure fun _ _ h => h

theorem bypassPush_browsesOn {creds : CredentialsInput} (hasked : creds.securityQuestions ≠ []) :
    BrowsesOn env (some creds) posted (bypassPush env creds) := by
  have hpassword : creds.password ∈ creds.texts := List.mem_cons_of_mem _ List.mem_cons_self
  refine Prog.Keeps.bind (log_browsesOn _) fun _ => ?_
  refine Prog.Keeps.bind (screenshot_browsesOn _) fun _ => ?_
  refine Prog.Keeps.bind (evaluate_browsesOn rfl) fun _ => ?_
  refine Prog.Keeps.bind (findVisibleInput_browsesOn _ _ _) fun _ => ?_
  refine Prog.Keeps.bind ?_ fun pageText => ?_
  · exact Prog.Keeps.attempt (evaluate_browsesOn rfl) fun _ => Prog.meets_pure fun _ _ h => h
  refine Prog.Meets.then (findSecurityAnswer_does hasked _ _) fun securityAnswer => ?_
  refine Prog.Meets.bind (M := fun _ => Browsing (some creds) posted) ?_ (fun _ => ?_) fun _ _ _ h => h
  · exact fun s g h => typeInto_browsesOn _ _ h.2 s g h.1
  refine Prog.Keeps.bind (screenshot_browsesOn _) fun _ => ?_
  refine Prog.Keeps.bind submitForm_browsesOn fun _ => ?_
  refine Prog.Keeps.bind (log_browsesOn _) fun _ => ?_
  refine Prog.Keeps.bind (typeInto_browsesOn _ _ hpassword) fun _ => ?_
  exact Prog.Keeps.bind (screenshot_browsesOn _) fun _ => submitForm_browsesOn

theorem authenticate_browsesOn {creds : CredentialsInput} (hasked : creds.securityQuestions ≠ []) :
    BrowsesOn env (some creds) posted (authenticate env creds) := by
  refine Prog.Keeps.bind (log_browsesOn _) fun _ => ?_
  refine Prog.Keeps.bind (pollUntil_browsesOn checkAuthenticated_browsesOn _ _) fun authenticated => ?_
  have hend : ∀ _ : Unit, BrowsesOn env (some creds) posted (screenshot "post-auth" : ScraperM ι Unit) :=
    fun _ => screenshot_browsesOn _
  match authenticated with
  | some .bypass => exact Prog.Keeps.bind (bypassPush_browsesOn hasked) hend
  | some .domain => exact Prog.Keeps.bind (log_browsesOn _) hend
  | none => exact Prog.Keeps.bind (log_browsesOn _) hend

theorem openSchedule_browsesOn : BrowsesOn env credentials posted (openSchedule : ScraperM ι Unit) := by
  refine Prog.Keeps.bind (log_browsesOn _) fun _ => ?_
  refine Prog.Keeps.bind (awaits_keeps rfl) fun _ => ?_
  refine Prog.Keeps.bind (evaluate_browsesOn rfl) fun _ => ?_
  refine Prog.Keeps.bind ?_ fun prevBtn => ?_
  · refine Prog.Keeps.attempt (findVisibleInput_browsesOn _ _ _) fun err => ?_
    exact Prog.Keeps.bind (screenshot_browsesOn _) fun _ => Prog.meets_throw fun _ _ h => h
  refine Prog.Keeps.bind (findVisibleInput_browsesOn _ _ _) fun _ => ?_
  exact Prog.Keeps.bind (log_browsesOn _) fun _ => screenshot_browsesOn _

theorem clickWeeks_browsesOn (selector message : String) (weeks : List Nat) :
    BrowsesOn env credentials posted (clickWeeks selector message weeks : ScraperM ι Unit) := by
  induction weeks with
  | nil => exact Prog.meets_pure fun _ _ h => h
  | cons i rest ih =>
    rw [clickWeeks]
    refine Prog.Keeps.bind (clickAndWaitForAPI_browsesOn _ _ _ _) fun _ => ?_
    exact Prog.Keeps.bind (log_browsesOn _) fun _ => ih

theorem captureWeeks_browsesOn : BrowsesOn env credentials posted (captureWeeks : ScraperM ι Unit) := by
  refine Prog.Keeps.bind (clickWeeks_browsesOn _ _ _) fun _ => ?_
  refine Prog.Keeps.bind (clickWeeks_browsesOn _ _ _) fun _ => ?_
  refine Prog.Keeps.bind (pollUntil_browsesOn (gets_browsesOn _) _ _) fun _ => ?_
  refine Prog.Keeps.bind (gets_browsesOn _) fun captured => ?_
  split
  · exact Prog.Keeps.bind (log_browsesOn _) fun _ => screenshot_browsesOn _
  · exact screenshot_browsesOn _

/-! The report of the shifts, and the stages around the page. -/

def Failed (s : ScraperVars ι) (g : Seen ι) : Prop :=
  ∃ stage credentials page, (stage = .fetched ∨ ∃ posted, stage = .closed posted) ∧
    Mirrors stage credentials page page [] [] s g

def Browsed (credentials : Option CredentialsInput) : Except String Unit → ScraperVars ι → Seen ι → Prop
  | .ok _ => Browsing credentials true
  | .error _ => fun s g =>
    Mirrors .launched credentials false false [] [] s g ∨ ∃ posted, Browsing credentials posted s g

theorem body_does {X : Type} {P : ScraperVars ι → Seen ι → Prop} (request : String) (res : FetchResponse X) :
    Prog.Keeps Seen.see (accepts env) P (res.body request : ScraperM ι X) := by
  unfold FetchResponse.body
  split
  · exact Prog.meets_ofExcept fun _ _ h => h
  · exact Prog.meets_throw fun _ _ h => h

theorem postShifts_does {weeks : List (ScheduleData ι)} :
    Does env (fun s g => Browsing credentials false s g ∧ g.weeks = weeks)
      (postShifts env (extractShifts env.toText (mergeScheduleData env.dateOf weeks))
        ((mergeScheduleData env.dateOf weeks).homeSiteName.filter fun name => name != ""))
      fun _ => Browsing credentials true := by
  refine Prog.Meets.bind (M := fun _ => Browsing credentials true) (awaits_does ?_) (fun res => body_does _ res)
    fun _ _ _ h => h
  rintro g hg _ rfl
  exact ⟨hg, rfl, rfl, rfl, rfl⟩

theorem submitResults_does : Does env (Browsing credentials false) (submitResults env) (Browsed credentials) := by
  refine Prog.Meets.then (N := fun weeks s g => Browsing credentials false s g ∧ g.weeks = weeks)
    (Prog.meets_gets fun s g h => ⟨h, by simpa using h.weeks.symm⟩) fun weeks => ?_
  refine Prog.Meets.then (N := fun _ s g => Browsing credentials false s g ∧ g.weeks = weeks) (log_does ?_) fun _ => ?_
  · rintro s g ⟨h, hweeks⟩
    exact ⟨⟨h.stage, h.credentials, h.listening, h.page, by simp [h.lines], h.pictures, h.weeks⟩, hweeks⟩
  refine Prog.Meets.bind postShifts_does (fun _ => ?_) fun _ _ _ h => .inr ⟨true, h⟩
  refine (log_browsesOn _).weaken (fun _ _ h => h) ?_
  intro r s g h
  cases r with
  | ok => exact h
  | error e => exact .inr ⟨true, h⟩

theorem browse_does {creds : CredentialsInput} (hasked : creds.securityQuestions ≠ []) :
    Does env (Mirrors .launched (some creds) false false [] []) (browse env creds) (Browsed (some creds)) := by
  have hstep : ∀ {α : Type} {p : ScraperM ι α} {f : α → ScraperM ι Unit},
      BrowsesOn env (some creds) false p →
      (∀ a, Does env (Browsing (some creds) false) (f a) (Browsed (some creds))) →
      Does env (Browsing (some creds) false) (p.bind f) (Browsed (some creds)) :=
    fun hp hf => Prog.Meets.bind hp hf fun _ _ _ h => .inr ⟨false, h⟩
  refine Prog.Meets.bind (M := fun r => Mirrors (ScraperStage.launched.after (succeeded r) .newPage) (some creds)
    false (succeeded r) [] []) ?_ (fun _ => ?_) fun _ _ _ h => .inl h
  · exact awaits_mirrors fun g hg _ => ⟨hg, trivial⟩
  refine Prog.Meets.then (N := fun _ => Browsing (some creds) false) (Prog.meets_modify ?_) fun _ => ?_
  · intro s g h
    exact ⟨h.stage, h.credentials, rfl, h.page, h.lines, h.pictures, h.weeks⟩
  refine hstep (loginPage_browsesOn creds) fun _ => ?_
  refine hstep (authenticate_browsesOn hasked) fun _ => ?_
  refine hstep openSchedule_browsesOn fun _ => ?_
  exact hstep captureWeeks_browsesOn fun _ => submitResults_does

def RunEnded : Except String Unit → ScraperVars ι → Seen ι → Prop
  | .ok _ => fun _ g => g.stage = .closed true
  | .error _ => Failed

theorem closeBrowser_does (r : Except String Unit) :
    Does env (Browsed credentials r) (awaits .closeBrowser) (Prog.Finally RunEnded r) := by
  have hbrowsing : ∀ posted, Does env (Browsing credentials posted) (awaits .closeBrowser) fun _ =>
      Mirrors (.closed posted) credentials true true [] [] := by
    intro posted
    refine (awaits_mirrors (a := .closeBrowser) ?_).weaken (fun _ _ h => h) fun _ _ _ h => h
    exact fun g hg _ => ⟨.inr ⟨posted, hg⟩, trivial⟩
  have hlaunched : Does env (Mirrors .launched credentials false false [] []) (awaits .closeBrowser) fun _ =>
      Mirrors (.closed false) credentials false false [] [] := by
    refine (awaits_mirrors (a := .closeBrowser) ?_).weaken (fun _ _ h => h) fun _ _ _ h => h
    exact fun g hg _ => ⟨.inl hg, trivial⟩
  cases r with
  | ok a =>
    refine (hbrowsing true).weaken (fun _ _ h => h) ?_
    intro r' s g h
    cases r' with
    | ok => exact h.stage
    | error e => exact ⟨_, _, _, .inr ⟨true, rfl⟩, h⟩
  | error e =>
    have hfailed : Does env (Browsed credentials (.error e)) (awaits .closeBrowser) fun _ => Failed := by
      intro s g h
      cases h with
      | inl h => exact (hlaunched s g h).mono fun _ _ h => ⟨_, _, _, .inr ⟨false, rfl⟩, h⟩
      | inr h =>
        obtain ⟨posted, h⟩ := h
        exact (hbrowsing posted s g h).mono fun _ _ h => ⟨_, _, _, .inr ⟨posted, rfl⟩, h⟩
    refine hfailed.weaken (fun _ _ h => h) ?_
    intro r' s g h
    cases r' <;> exact h

def Fetched : Except String CredentialsInput → ScraperVars ι → Seen ι → Prop
  | .ok creds => Mirrors .fetched (some creds) false false [] []
  | .error _ => fun s g => ∃ credentials, Mirrors .fetched credentials false false [] [] s g

theorem fetchCredentials_does : Does env (Mirrors .started none false false [] []) (fetchCredentials env) Fetched := by
  refine Prog.Meets.bind (M := fun r => Mirrors .fetched (r.toOption.bind FetchResponse.accepted) false false [] [])
    ?_ (fun res => ?_) fun _ _ _ h => ⟨_, h⟩
  · refine (awaits_mirrors (a := .getCredentials _ _) ?_).weaken (fun _ _ h => h) fun _ _ _ h => h
    exact fun g hg _ => ⟨hg, rfl, rfl⟩
  unfold FetchResponse.body
  split
  · rename_i hstatus
    refine Prog.meets_ofExcept ?_
    intro s g h
    have hcreds : res.accepted = res.json.toOption := if_pos hstatus
    change Mirrors .fetched res.accepted false false [] [] s g at h
    rw [hcreds] at h
    cases hjson : res.json with
    | ok creds =>
      rw [hjson] at h
      exact h
    | error e => exact ⟨_, h⟩
  · exact Prog.meets_throw fun _ _ h => ⟨_, h⟩

theorem run_does : Does env (Mirrors .started none false false [] []) (run env) RunEnded := by
  have hfailed : ∀ credentials (s : ScraperVars ι) g, Mirrors .fetched credentials false false [] [] s g →
      Failed s g :=
    fun _ s g h => ⟨_, _, _, .inl rfl, h⟩
  refine Prog.Meets.then (log_gives _) fun _ => ?_
  refine Prog.Meets.bind fetchCredentials_does (fun creds => ?_) ?_
  · split
    · exact Prog.meets_throw fun s g h => hfailed _ s g h
    · rename_i hcomplete
      have hasked : creds.securityQuestions ≠ [] := fun hnil => hcomplete (.inr (.inr hnil))
      refine Prog.Meets.then (log_gives _) fun _ => ?_
      refine Prog.Meets.bind (M := fun r => Mirrors (ScraperStage.fetched.after (succeeded r) .launch) (some creds)
        false false [] []) ?_ (fun _ => ?_) fun _ s g h => ⟨_, _, _, .inr ⟨false, rfl⟩, h⟩
      · exact awaits_mirrors fun g hg _ => ⟨hg, trivial⟩
      · exact Prog.Meets.ensuring (browse_does hasked) closeBrowser_does
  · rintro e s g ⟨credentials, h⟩
    exact hfailed credentials s g h

def Ended (env : ScraperEnv ι) (r : Except String Nat) (g : Seen ι) : Prop :=
  (r = .ok 0 ∧ g.stage = .closed true) ∨ (r = .ok 1 ∧ g.stage = .reported) ∨
    (r = .ok 1 ∧ g.stage = .started ∧ (env.scrapeKey = "" ∨ env.scrapeApiUrl = ""))

theorem postFailure_does {logs screenshots : List String} {page : Bool}
    (hstage : stage = .fetched ∨ ∃ posted, stage = .closed posted) :
    Does env (fun s g => Mirrors stage credentials page page [] [] s g ∧
        (logs.map (fun line => line ++ "\n") = g.lines ∧ screenshots = g.pictures))
      (postFailure env logs screenshots) fun _ _ g => g.stage = .reported := by
  refine Prog.Meets.bind (M := fun _ _ g => g.stage = .reported) ?_ (fun res => body_does _ res) fun _ _ _ h => h
  refine (awaits_does (a := .postFailure _ _ _ _) ?_).weaken (fun _ _ h => h) fun _ _ _ h => h.stage
  rintro g rfl _ ⟨hlogs, hpictures⟩
  exact ⟨hstage, rfl, rfl, hlogs, hpictures⟩

theorem reportError_does {page : Bool} (hstage : stage = .fetched ∨ ∃ posted, stage = .closed posted)
    (err : String) : Does env (Mirrors stage credentials page page [] []) (reportError env err)
      fun r _ g => r = .ok 1 ∧ g.stage = .reported := by
  refine Prog.Meets.then (log_gives _) fun _ => ?_
  refine Prog.Meets.then (N := fun logs s g => Mirrors stage credentials page page [] [] s g ∧
    logs.map (fun line => line ++ "\n") = g.lines) (Prog.meets_gets fun s g h => ⟨h, h.lines⟩) fun logs => ?_
  refine Prog.Meets.then (N := fun screenshots s g => Mirrors stage credentials page page [] [] s g ∧
    (logs.map (fun line => line ++ "\n") = g.lines ∧ screenshots = g.pictures)) (Prog.meets_gets ?_)
    fun screenshots => ?_
  · rintro s g ⟨h, hlogs⟩
    exact ⟨h, hlogs, by simpa using h.pictures⟩
  refine Prog.Meets.bind (M := fun r _ g => g.stage = .reported ∧ succeeded r = true) ?_ (fun _ => ?_) ?_
  · refine Prog.Meets.attempt (postFailure_does hstage) (fun _ _ _ h => ⟨h, rfl⟩) fun postErr => ?_
    exact Prog.meets_ask fun s g h => ⟨trivial, fun _ => ⟨h, rfl⟩⟩
  · exact Prog.meets_pure fun _ _ h => ⟨rfl, h.1⟩
  · exact fun _ _ _ h => absurd h.2 Bool.false_ne_true

theorem main_does :
    Does env (Mirrors .started none false false [] []) (scraperMain env) fun r _ g => Ended env r g := by
  unfold scraperMain
  split
  · rename_i hmissing
    refine Prog.Meets.then (N := fun _ _ g => g.stage = .started) (Prog.meets_ask ?_) fun _ => ?_
    · exact fun s g h => ⟨trivial, fun _ => h.stage⟩
    · exact Prog.meets_pure fun _ _ h => .inr (.inr ⟨rfl, h, hmissing⟩)
  · refine Prog.Meets.attempt (M := fun r s g =>
      match r with
      | .ok code => code = 0 ∧ g.stage = .closed true
      | .error _ => Failed s g) ?_ ?_ fun err => ?_
    · exact Prog.Meets.bind run_does (fun _ => Prog.meets_pure fun _ _ h => ⟨rfl, h⟩) fun _ _ _ h => h
    · rintro code s g ⟨rfl, h⟩
      exact .inl ⟨rfl, h⟩
    · rintro s g ⟨stage, credentials, page, hstage, h⟩
      exact (reportError_does hstage err s g h).mono fun _ _ hr => .inr (.inl hr)

def seenOf (xs : List (Exchange (ScraperCall ι))) : Seen ι := xs.foldl Seen.see Seen.initial

theorem main_obeys : (scraperMain env ScraperVars.initial).Obeys Seen.see (accepts env)
    (fun r g => Ended env r.1 g) Seen.initial :=
  main_does _ _ ⟨rfl, rfl, rfl, rfl, rfl, rfl, rfl⟩

/-- Every call of a run has its place in the stage that the run has reached, also where the page is only
read, and the run ends with success after the shifts are sent and the browser is closed, or else with a report. -/
theorem scraper_in_order {xs : List (Exchange (ScraperCall ι))}
    {t : Script (ScraperCall ι) (Except String Nat × ScraperVars ι)}
    (hrun : (scraperMain env ScraperVars.initial).Goes xs t) :
    (∀ before (X : Type) (a : Awaited X) (x : Settled ι X) after,
      xs = before ++ ⟨.await a, x⟩ :: after → (seenOf before).stage.Permits a) ∧
    (∀ before (url : String) after,
      xs = before ++ ⟨.pageUrl, url⟩ :: after → ∃ posted, (seenOf before).stage = .browsing posted) ∧
    ∀ r vars, t = .done (r, vars) → Ended env r (seenOf xs) := by
  obtain ⟨haccept, hend⟩ := main_obeys.goes hrun
  refine ⟨fun before X a x after hxs => (haccept before _ after hxs).1,
    fun before url after hxs => haccept before _ after hxs, ?_⟩
  rintro r vars rfl
  exact hend

/-- What a run tells others is true: it asks the service under its own key, the shifts are those of
all weeks that have come in, the report of a failure has all that was logged and all pictures,
and the site is told nothing but what the credentials hold. -/
theorem scraper_reports_truthfully {xs : List (Exchange (ScraperCall ι))}
    {t : Script (ScraperCall ι) (Except String Nat × ScraperVars ι)}
    (hrun : (scraperMain env ScraperVars.initial).Goes xs t) {before : List (Exchange (ScraperCall ι))}
    {X : Type} {a : Awaited X} {x : Settled ι X} {after : List (Exchange (ScraperCall ι))}
    (hxs : xs = before ++ ⟨.await a, x⟩ :: after) : a.Truthful env (seenOf before) :=
  ((main_obeys.goes hrun).1 before _ after hxs).2

end Reports

/-! A site that lets the browser in, one that asks for the password first, and one whose pages
do not load. -/

inductive SampleSite where
  | opens | asks | down
deriving DecidableEq

def sampleScraperEnv : ScraperEnv Nat where
  scrapeKey := "key1"
  scrapeApiUrl := "http://app:8080"
  toLower s := s
  toText n := toString n
  dateOf _ := none

def sampleWeek : ScheduleData Nat :=
  ⟨some [⟨"2025-01-15", some [⟨some "2025-01-15T05:00:00", some "2025-01-15T09:00:00", none, some 4, .value 7⟩]⟩],
    some "store 1"⟩

def sampleAnswer (site : SampleSite) : (X : Type) → Awaited X → Except String X
  | _, .goto _ => if site = .down then .error "net::ERR_NAME_NOT_RESOLVED" else .ok ()
  | _, .getCredentials _ _ => .ok ⟨200, .ok ⟨"barista", "siren", [⟨"first store", "pike place"⟩]⟩⟩
  | _, .postShifts _ _ _ _ => .ok ⟨200, .ok ()⟩
  | _, .postFailure _ _ _ _ => .ok ⟨200, .ok ()⟩
  | _, .screenshot => .ok "png"
  | _, .title => .ok "Portal"
  | _, .query _ => .ok (some ⟨1⟩)
  | _, .isIntersectingViewport _ => .ok true
  | _, .hasBypass => .ok (site = .asks)
  | _, .innerText => .ok "What was your first store?"
  | _, .delay _ => .ok ()
  | _, .launch => .ok ()
  | _, .newPage => .ok ()
  | _, .closeBrowser => .ok ()
  | _, .waitForVisible _ _ => .ok ()
  | _, .type _ _ => .ok ()
  | _, .clickAndNavigate _ => .ok ()
  | _, .enterAndNavigate => .ok ()
  | _, .clickAndWait _ _ _ => .ok ()
  | _, .clickBypass => .ok ()
  | _, .setLocation _ => .ok ()

def SampleSite.respond (site : SampleSite) (_ : Unit) : (X : Type) → ScraperCall Nat X → X × Unit
  | _, .stderr _ => ((), ())
  | _, .pageUrl => (if site = .asks then "https://login" else "https://" ++ targetDomain, ())
  | _, .await (.clickAndWait selector urlPattern timeout) =>
    (⟨10, [some sampleWeek], sampleAnswer site _ (.clickAndWait selector urlPattern timeout)⟩, ())
  | _, .await a => (⟨10, [], sampleAnswer site _ a⟩, ())

def SampleSite.run (site : SampleSite) : List (Exchange (ScraperCall Nat)) × Except String Nat × ScraperVars Nat :=
  (scraperMain sampleScraperEnv ScraperVars.initial).play site.respond ()

theorem scraper_in_order_asked : Ended sampleScraperEnv (.ok 0) (seenOf SampleSite.asks.run.1) :=
  (scraper_in_order (Script.goes_play SampleSite.asks.respond _ ())).2.2 _ _ rfl

theorem scraper_reports_truthfully_down :
    ∃ url key logs screenshots x,
      SampleSite.down.run.1.drop 9 = [⟨.await (.postFailure url key logs screenshots), x⟩] ∧
      (Awaited.postFailure url key logs screenshots).Truthful sampleScraperEnv
        (seenOf (SampleSite.down.run.1.take 9)) := by
  refine ⟨_, _, _, _, _, rfl, ?_⟩
  exact scraper_reports_truthfully (Script.goes_play SampleSite.down.respond _ ()) rfl

end ScheduleSync
