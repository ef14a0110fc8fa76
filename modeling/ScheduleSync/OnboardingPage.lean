import ScheduleSync.Writes

/-! The onboarding page. It asks scrapeStatus every few seconds, which answers with the
latest log of the user, whatever scrape that is from. So after a submission the page ignores
finished scrapes until one is running, but for four minutes at most. -/
namespace ScheduleSync

/-- What scrapeStatus answers. The page does not read the times, which are kept as they
are stored. -/
structure StatusReply where
  status : Option ScrapeStatus
  startedAt : Option Int
  finishedAt : Option Int
  errorMessage : Option String
  shiftsFound : Option Nat
  failureScreenshots : Option (List String)
  logOutput : Option (List String)
deriving DecidableEq

def statusReply : Option ScrapeLog → StatusReply
  | none => ⟨none, none, none, none, none, none, none⟩
  | some l =>
    ⟨some l.status, some l.startedAt, l.finishedAt, l.errorMessage, l.shiftsFound, l.failureScreenshots,
      l.logOutput⟩

/-- The logs that `... WHERE user_id = ? ORDER BY started_at DESC LIMIT 1` may return. -/
def DB.latestLogs (db : DB) (userID : Uuid) : List ScrapeLog :=
  let logs := db.scrapeLogs.rows.filter fun l => l.userID == userID
  logs.filter fun l => logs.all fun l' => decide (l'.startedAt ≤ l.startedAt)

/-- The one it returns; of several with the same started_at, `choice` says which. -/
def DB.latestLog (db : DB) (userID : Uuid) (choice : Nat) : Option ScrapeLog :=
  (db.latestLogs userID)[choice % (db.latestLogs userID).length]?

theorem DB.mem_of_latestLog {db : DB} {userID : Uuid} {choice : Nat} {l : ScrapeLog}
    (h : db.latestLog userID choice = some l) : l ∈ db.scrapeLogs :=
  (List.mem_filter.mp (List.mem_filter.mp (List.mem_of_getElem? h)).1).1

/-- Where a call of api.scrapeStatus is. It throws on an error answer as on a failure of the network. -/
inductive Poll where
  | sent
  | authed (userID : Uuid)
  | answered (log : Option ScrapeLog)
  | failed

/-- The statements of authMiddleware and of scrapeStatus. -/
def scrapeStatus (env : Env) (o : Outcome) (w : World) (token : String) (choice : Nat) : Poll → Option Poll
  | .sent =>
    if token = "" then some .failed
    else
      match getSessionUser env o w token with
      | none => some .failed
      | some u => some (.authed u.id)
  | .authed userID =>
    if o.sqlFails then some .failed else some (.answered (w.db.latestLog userID choice))
  | .answered _ => none
  | .failed => none

theorem scrapeStatus_reads {env : Env} {o : Outcome} {w : World} {token : String} {choice : Nat}
    {poll poll' : Poll} {l : ScrapeLog} (h : scrapeStatus env o w token choice poll = some poll')
    (hpoll : poll' = .answered (some l)) : l ∈ w.db.scrapeLogs := by
  subst hpoll
  cases poll with
  | authed userID =>
    simp only [scrapeStatus] at h
    split at h
    · cases h
    · exact DB.mem_of_latestLog (Poll.answered.inj (Option.some.inj h))
  | sent =>
    simp only [scrapeStatus] at h
    split at h
    · cases h
    · split at h <;> cases h
  | answered | failed => cases h

inductive OnboardingStep where
  | loading | form | scraping | success | failure
deriving DecidableEq

/-- In milliseconds, as Date.now counts. -/
def slowThreshold : Int := 150000

def timeoutThreshold : Int := 240000

/-- The state and the refs of the page. `polling` says whether pollRef holds a timer, and
`form` is the number of times the form has come back: each time it is a new one, which is not
submitting. -/
structure Onboarding where
  step : OnboardingStep
  error : String
  isRetry : Bool
  scrapeResult : Option StatusReply
  isSlow : Bool
  polling : Bool
  scrapeStart : Int
  awaitingNewScrape : Bool
  form : Nat
deriving DecidableEq

/-- How the callback of the timer moves the page: not at all, by what the server has reported,
or because it took too long. -/
inductive PageMove where
  | stays | reported | timedOut
deriving DecidableEq

def timedOutReply : StatusReply :=
  ⟨some .failure, none, none, some "The connection attempt timed out. Please try again.", none, none, none⟩

namespace Onboarding

def initial : Onboarding := ⟨.loading, "", false, none, false, false, 0, false, 0⟩

variable (p : Onboarding)

def stopPolling : Onboarding := { p with polling := false }

def startPolling : Onboarding := { p.stopPolling with polling := true }

/-- The effect on mount, when its call of scrapeStatus has returned or thrown. -/
def mounted (reply : Option StatusReply) (now : Int) : Onboarding :=
  match reply with
  | none => { p with step := .form }
  | some r =>
    if r.status = some .running then
      startPolling { p with scrapeStart := now, awaitingNewScrape := false, step := .scraping }
    else { p with step := .form }

/-- The end of the timer's callback. -/
def settle (r : StatusReply) (elapsed : Int) : Onboarding × PageMove :=
  match r.status with
  | some .success => ({ p.stopPolling with scrapeResult := some r, step := .success }, .reported)
  | some .failure => ({ p.stopPolling with scrapeResult := some r, step := .failure }, .reported)
  | _ =>
    if timeoutThreshold < elapsed then
      ({ p.stopPolling with scrapeResult := some timedOutReply, step := .failure }, .timedOut)
    else (p, .stays)

/-- The timer's callback, from the return of scrapeStatus on. -/
def receive (r : StatusReply) (now : Int) : Onboarding × PageMove :=
  let elapsed := now - p.scrapeStart
  let p := if slowThreshold < elapsed then { p with isSlow := true } else p
  if p.awaitingNewScrape then
    if r.status = some .running then settle { p with awaitingNewScrape := false } r elapsed
    else if timeoutThreshold < elapsed then
      -- gave up waiting, and yet the status is tested next like any other
      settle { p with awaitingNewScrape := false } r elapsed
    else (p, .stays)
  else p.settle r elapsed

/-- handleSubmit up to the request. -/
def submitting : Onboarding := { p with error := "" }

/-- handleSubmit after the request has succeeded. -/
def submitted (now : Int) : Onboarding :=
  startPolling { p with scrapeStart := now, awaitingNewScrape := true, isSlow := false, step := .scraping }

/-- handleSubmit after the request has failed. -/
def submitFailed (message : String) : Onboarding := { p with error := message }

def handleRetry : Onboarding :=
  { p with isRetry := true, scrapeResult := none, isSlow := false, step := .form, form := p.form + 1 }

end Onboarding

/-- Who calls api.scrapeStatus: the effect on mount or the timer. -/
inductive Caller where
  | mount | timer
deriving DecidableEq

structure StatusCall where
  caller : Caller
  poll : Poll

/-- The request of a submission: the task of the server that answers it, the form it is from,
and the server when it was sent, which is only remembered. -/
structure Save where
  task : Nat
  form : Nat
  server : Server

/-- A reply as the timer's callback gets it, and what Date.now is then. -/
structure Answer where
  log : Option ScrapeLog
  now : Int

/-- The last submission that has succeeded: the server when it was sent, Date.now at the
success, and the replies since, newest first. No step depends on it. -/
structure Submission where
  server : Server
  succeeded : Int
  heard : List Answer

/-- The page and the server, with the calls and the requests between them. -/
structure Visit where
  server : Server
  clock : Int
  page : Onboarding
  calls : List StatusCall
  saves : List Save
  submission : Option Submission

/-- What can happen next. Calls and replies overtake each other and get lost, Date.now may be
set back, and the server does not wait for the page. -/
inductive VisitAction where
  | server (a : Action)
  | clock (d : Int)
  | tick
  | serve (k : Nat) (o : Outcome) (choice : Nat)
  | lose (k : Nat)
  | deliver (k : Nat)
  | submit (body : Except String CredentialsInput)
  | saved (k : Nat)
  | saveFailed (k : Nat) (message : String)
  | retry

namespace Visit

/-- The page is opened, and the effect on mount makes its call. -/
def opened (s : Server) (clock : Int) : Visit := ⟨s, clock, .initial, [⟨.mount, .sent⟩], [], none⟩

/-- Stopping the timer does not stop a callback that awaits its reply. -/
def step (env : Env) (token : String) (v : Visit) : VisitAction → Option Visit
  | .server a => (v.server.step env a).map fun s => { v with server := s }
  | .clock d => some { v with clock := v.clock + d }
  | .tick => if v.page.polling then some { v with calls := v.calls ++ [⟨.timer, .sent⟩] } else none
  | .serve k o choice =>
    match v.calls[k]? with
    | none => none
    | some c =>
      (scrapeStatus env o v.server.toWorld token choice c.poll).map fun poll =>
        { v with calls := v.calls.set k { c with poll := poll } }
  | .lose k =>
    match v.calls[k]? with
    | none => none
    | some c => some { v with calls := v.calls.set k { c with poll := .failed } }
  | .deliver k =>
    match v.calls[k]? with
    | some ⟨.mount, .answered log⟩ =>
      some { v with
        page := v.page.mounted (some (statusReply log)) v.clock
        calls := v.calls.eraseIdx k }
    | some ⟨.mount, .failed⟩ =>
      some { v with page := v.page.mounted none v.clock, calls := v.calls.eraseIdx k }
    | some ⟨.timer, .answered log⟩ =>
      some { v with
        page := (v.page.receive (statusReply log) v.clock).1
        calls := v.calls.eraseIdx k
        submission := v.submission.map fun sub => { sub with heard := ⟨log, v.clock⟩ :: sub.heard } }
    | some ⟨.timer, .failed⟩ => some { v with calls := v.calls.eraseIdx k }
    | _ => none
  | .submit body =>
    -- the button is disabled while the form is submitting
    if v.page.step = .form ∧ v.saves.all (fun x => x.form != v.page.form) then
      (v.server.step env (.arrive (.authed token (.writeCredentials body)))).map fun s =>
        { v with
          server := s
          page := v.page.submitting
          saves := v.saves ++ [⟨v.server.tasks.length, v.page.form, v.server⟩] }
    else none
  | .saved k =>
    match v.saves[k]? with
    | none => none
    | some x =>
      match v.server.tasks[x.task]? with
      | some (.writeCredentials _ (.answered (.ok _))) =>
        some { v with
          page := v.page.submitted v.clock
          saves := v.saves.eraseIdx k
          submission := some ⟨x.server, v.clock, []⟩ }
      | _ => none
  | .saveFailed k message =>
    if k < v.saves.length then
      some { v with page := v.page.submitFailed message, saves := v.saves.eraseIdx k }
    else none
  | .retry => if v.page.step = .failure then some { v with page := v.page.handleRetry } else none

end Visit

/-- A reply that the timer's callback gets after a submission, and what comes of it. -/
structure Delivery where
  submission : Submission
  answer : Answer
  move : PageMove

def Visit.delivery (v : Visit) : VisitAction → Option Delivery
  | .deliver k =>
    match v.calls[k]?, v.submission with
    | some ⟨.timer, .answered log⟩, some sub =>
      some ⟨sub, ⟨log, v.clock⟩, (v.page.receive (statusReply log) v.clock).2⟩
    | _, _ => none
  | _ => none

/-- The log is of a scrape that has started after the state `s`. -/
structure ScrapeLog.StartedAfter (s : Server) (l : ScrapeLog) : Prop where
  new : l.id ∉ s.drawn
  started : unix s.now ≤ l.startedAt

instance (s : Server) (l : ScrapeLog) : Decidable (l.StartedAfter s) :=
  decidable_of_iff (l.id ∉ s.drawn ∧ unix s.now ≤ l.startedAt) ⟨fun h => ⟨h.1, h.2⟩, fun h => ⟨h.new, h.started⟩⟩

/-- Where the page shows what the server has reported, that is a scrape started after the submission. -/
def Delivery.ReportsNew (e : Delivery) : Prop :=
  e.move = .reported → ∃ l ∈ e.answer.log, l.StartedAfter e.submission.server

instance (e : Delivery) : Decidable e.ReportsNew :=
  inferInstanceAs (Decidable (e.move = .reported → ∃ l ∈ e.answer.log, l.StartedAfter e.submission.server))

def Answer.running (x : Answer) : Bool := (statusReply x.log).status == some .running

def Submission.late (sub : Submission) (x : Answer) : Bool :=
  decide (timeoutThreshold < x.now - sub.succeeded)

def Submission.over (sub : Submission) : Bool := sub.heard.any fun x => x.running || sub.late x

/-- A reply with an earlier scrape, if that is finished, comes within four minutes, and all
before it since the submission have come within four minutes and with no running scrape. -/
def Delivery.Timely (e : Delivery) : Prop :=
  ∀ l ∈ e.answer.log, l.id ∈ e.submission.server.drawn → l.status ≠ .running →
    e.submission.over = false ∧ e.submission.late e.answer = false

instance (e : Delivery) : Decidable e.Timely :=
  inferInstanceAs (Decidable (∀ l ∈ e.answer.log, l.id ∈ e.submission.server.drawn → l.status ≠ .running →
    e.submission.over = false ∧ e.submission.late e.answer = false))

section Page
variable (p : Onboarding) (r : StatusReply) (elapsed now : Int)

def StatusReply.finished : Prop := r.status = some .success ∨ r.status = some .failure

theorem finished_statusReply {log : Option ScrapeLog} :
    (statusReply log).finished ↔ ∃ l ∈ log, l.status ≠ .running := by
  cases log with
  | none => simp [statusReply, StatusReply.finished]
  | some l => cases h : l.status <;> simp [statusReply, StatusReply.finished, h]

@[simp] theorem settle_scrapeStart : (p.settle r elapsed).1.scrapeStart = p.scrapeStart := by
  unfold Onboarding.settle
  split
  · rfl
  · rfl
  · split <;> rfl

@[simp] theorem settle_awaitingNewScrape :
    (p.settle r elapsed).1.awaitingNewScrape = p.awaitingNewScrape := by
  unfold Onboarding.settle
  split
  · rfl
  · rfl
  · split <;> rfl

theorem settle_reported : (p.settle r elapsed).2 = .reported ↔ r.finished := by
  unfold Onboarding.settle StatusReply.finished
  split
  · rename_i h
    simp [h]
  · rename_i h
    simp [h]
  · rename_i hsuccess hfailure
    have hopen : ¬ (r.status = some .success ∨ r.status = some .failure) := not_or.mpr ⟨hsuccess, hfailure⟩
    split <;> simp [hopen]

@[simp] theorem receive_scrapeStart : (p.receive r now).1.scrapeStart = p.scrapeStart := by
  simp only [Onboarding.receive]
  split_ifs <;> simp

theorem receive_awaitingNewScrape : (p.receive r now).1.awaitingNewScrape =
    (p.awaitingNewScrape && !(r.status == some .running || decide (timeoutThreshold < now - p.scrapeStart))) := by
  simp only [Onboarding.receive]
  split_ifs <;> simp_all

theorem receive_reported : (p.receive r now).2 = .reported ↔
    r.finished ∧ (p.awaitingNewScrape = false ∨ timeoutThreshold < now - p.scrapeStart) := by
  simp only [Onboarding.receive]
  split_ifs <;> simp_all [settle_reported, StatusReply.finished]

end Page

section ServerLogs
variable {env : Env} {s s' : Server} {a : Action}

theorem Server.log_step (h : s.step env a = some s') {l : ScrapeLog} (hl : l ∈ s'.db.scrapeLogs) :
    (∃ l₀ ∈ s.db.scrapeLogs, l₀.id = l.id ∧ l₀.startedAt = l.startedAt) ∨
      l.id ∈ s'.drawn ∧ l.startedAt = unix s.now := by
  refine Server.db_step h
    (P := fun db => ∀ l ∈ db.scrapeLogs, (∃ l₀ ∈ s.db.scrapeLogs, l₀.id = l.id ∧ l₀.startedAt = l.startedAt) ∨
      l.id ∈ s'.drawn ∧ l.startedAt = unix s.now) (fun l hl => .inl ⟨l, hl, rfl, rfl⟩) ?_ l hl
  intro x hwr hdone hdraws l hl
  cases hdone.scrapeLogs hl with
  | inl hold =>
    obtain ⟨l₀, hl₀, rfl⟩ := hold
    exact .inl ⟨l₀, hl₀, (x.edit_id l₀).symm, (x.edit_startedAt l₀).symm⟩
  | inr heq =>
    subst heq
    refine .inr ⟨(hdraws l.id (by simp [Write.draws])).2, ?_⟩
    obtain ⟨_, _, _, _, _, hw⟩ | ⟨_, _, hw⟩ := Server.write_cases hwr
    · cases hw with
      | insertLog => rfl
    · generalize s.scheduler = sch at hw
      cases hw

end ServerLogs

namespace Visit
variable {env : Env} {token : String} {v v' : Visit} {a : VisitAction}

inductive Stepped (env : Env) (token : String) (v : Visit) : VisitAction → Visit → Prop
  | server {a : Action} {s : Server} (hs : v.server.step env a = some s) :
      Stepped env token v (.server a) { v with server := s }
  | clock {d : Int} : Stepped env token v (.clock d) { v with clock := v.clock + d }
  | tick (hpolling : v.page.polling = true) :
      Stepped env token v .tick { v with calls := v.calls ++ [⟨.timer, .sent⟩] }
  | served {k choice : Nat} {o : Outcome} {c : StatusCall} {poll : Poll} (hc : v.calls[k]? = some c)
      (hpoll : scrapeStatus env o v.server.toWorld token choice c.poll = some poll) :
      Stepped env token v (.serve k o choice) { v with calls := v.calls.set k { c with poll := poll } }
  | lost {k : Nat} {c : StatusCall} (hc : v.calls[k]? = some c) :
      Stepped env token v (.lose k) { v with calls := v.calls.set k { c with poll := .failed } }
  | mounted {k : Nat} {log : Option ScrapeLog} (hc : v.calls[k]? = some ⟨.mount, .answered log⟩) :
      Stepped env token v (.deliver k)
        { v with
          page := v.page.mounted (some (statusReply log)) v.clock
          calls := v.calls.eraseIdx k }
  | mountFailed {k : Nat} (hc : v.calls[k]? = some ⟨.mount, .failed⟩) :
      Stepped env token v (.deliver k)
        { v with page := v.page.mounted none v.clock, calls := v.calls.eraseIdx k }
  | received {k : Nat} {log : Option ScrapeLog} (hc : v.calls[k]? = some ⟨.timer, .answered log⟩) :
      Stepped env token v (.deliver k)
        { v with
          page := (v.page.receive (statusReply log) v.clock).1
          calls := v.calls.eraseIdx k
          submission := v.submission.map fun sub => { sub with heard := ⟨log, v.clock⟩ :: sub.heard } }
  | receiveFailed {k : Nat} (hc : v.calls[k]? = some ⟨.timer, .failed⟩) :
      Stepped env token v (.deliver k) { v with calls := v.calls.eraseIdx k }
  | submitting {body : Except String CredentialsInput} {s : Server} (hform : v.page.step = .form)
      (hidle : ∀ x ∈ v.saves, x.form ≠ v.page.form)
      (hs : v.server.step env (.arrive (.authed token (.writeCredentials body))) = some s) :
      Stepped env token v (.submit body)
        { v with
          server := s
          page := v.page.submitting
          saves := v.saves ++ [⟨v.server.tasks.length, v.page.form, v.server⟩] }
  | saved {k : Nat} {x : Save} {userID : Uuid} (hx : v.saves[k]? = some x)
      (htask : v.server.tasks[x.task]? = some (.writeCredentials userID (.answered (.ok ())))) :
      Stepped env token v (.saved k)
        { v with
          page := v.page.submitted v.clock
          saves := v.saves.eraseIdx k
          submission := some ⟨x.server, v.clock, []⟩ }
  | saveFailed {k : Nat} {message : String} (hk : k < v.saves.length) :
      Stepped env token v (.saveFailed k message)
        { v with page := v.page.submitFailed message, saves := v.saves.eraseIdx k }
  | retried (hfailure : v.page.step = .failure) :
      Stepped env token v .retry { v with page := v.page.handleRetry }

theorem step_cases (h : v.step env token a = some v') : Stepped env token v a v' := by
  cases a with
  | server a =>
    obtain ⟨s, hs, rfl⟩ := Option.map_eq_some_iff.mp h
    exact .server hs
  | clock d =>
    cases h
    exact .clock
  | tick =>
    simp only [step] at h
    split_ifs at h with hpolling
    cases h
    exact .tick hpolling
  | serve k o choice =>
    simp only [step] at h
    split at h
    · cases h
    · rename_i c hc
      obtain ⟨poll, hpoll, rfl⟩ := Option.map_eq_some_iff.mp h
      exact .served hc hpoll
  | lose k =>
    simp only [step] at h
    split at h
    · cases h
    · rename_i c hc
      cases h
      exact .lost hc
  | deliver k =>
    simp only [step] at h
    split at h
    · rename_i hc
      cases h
      exact .mounted hc
    · rename_i hc
      cases h
      exact .mountFailed hc
    · rename_i hc
      cases h
      exact .received hc
    · rename_i hc
      cases h
      exact .receiveFailed hc
    · cases h
  | submit body =>
    simp only [step] at h
    split_ifs at h with hallowed
    obtain ⟨s, hs, rfl⟩ := Option.map_eq_some_iff.mp h
    exact .submitting hallowed.1 (by simpa using hallowed.2) hs
  | saved k =>
    simp only [step] at h
    split at h
    · cases h
    · rename_i x hx
      split at h
      · rename_i htask
        cases h
        exact .saved hx htask
      · cases h
  | saveFailed k message =>
    simp only [step] at h
    split_ifs at h with hk
    cases h
    exact .saveFailed hk
  | retry =>
    simp only [step] at h
    split_ifs at h with hfailure
    cases h
    exact .retried hfailure

def Mounting (v : Visit) : Prop :=
  v.page = .initial ∧ v.saves = [] ∧ v.submission = none ∧ ∃ poll, v.calls = [⟨.mount, poll⟩]

/-- Nothing else happens to the page while it loads, and after a submission its refs tell when
that was and whether a reply has ended the wait. -/
structure Paged (v : Visit) : Prop where
  calls : v.Mounting ∨ ∀ c ∈ v.calls, c.caller = .timer
  refs : ∀ sub ∈ v.submission, v.page.scrapeStart = sub.succeeded ∧ v.page.awaitingNewScrape = !sub.over

theorem Paged.poll {k : Nat} {c : StatusCall} (hs : v.Paged) (hc : v.calls[k]? = some c) (poll : Poll) :
    Paged { v with calls := v.calls.set k { c with poll := poll } } where
  calls := by
    cases hs.calls with
    | inl hmounting =>
      obtain ⟨hpage, hsaves, hsubmission, first, hcalls⟩ := hmounting
      rw [hcalls] at hc
      obtain ⟨rfl, rfl⟩ : k = 0 ∧ c = ⟨.mount, first⟩ := by
        cases k with
        | zero => exact ⟨rfl, (Option.some.inj hc).symm⟩
        | succ k => cases hc
      refine .inl ⟨hpage, hsaves, hsubmission, poll, ?_⟩
      rw [hcalls]
      rfl
    | inr htimer =>
      refine .inr fun x hx => ?_
      cases List.mem_or_eq_of_mem_set hx with
      | inl hold => exact htimer x hold
      | inr heq =>
        rw [heq]
        exact htimer c (List.mem_of_getElem? hc)
  refs := hs.refs

theorem Paged.mounted {k : Nat} {poll : Poll} (hs : v.Paged) (hc : v.calls[k]? = some ⟨.mount, poll⟩)
    (page : Onboarding) : Paged { v with page := page, calls := v.calls.eraseIdx k } := by
  cases hs.calls with
  | inl hmounting =>
    obtain ⟨_, _, hsubmission, first, hcalls⟩ := hmounting
    have hnone : v.calls.eraseIdx k = [] := by
      rw [hcalls] at hc ⊢
      cases k with
      | zero => rfl
      | succ k => cases hc
    refine ⟨.inr ?_, ?_⟩
    · dsimp only
      rw [hnone]
      exact fun c hc => absurd hc List.not_mem_nil
    · intro sub hsub
      dsimp only at hsub
      rw [hsubmission] at hsub
      cases hsub
  | inr htimer => exact absurd (htimer _ (List.mem_of_getElem? hc)) (by simp)

theorem Paged.timer {k : Nat} {poll : Poll} (hs : v.Paged) (hc : v.calls[k]? = some ⟨.timer, poll⟩) :
    ∀ c ∈ v.calls, c.caller = .timer := by
  cases hs.calls with
  | inl hmounting =>
    obtain ⟨_, _, _, first, hcalls⟩ := hmounting
    rw [hcalls] at hc
    cases k <;> cases hc
  | inr htimer => exact htimer

theorem paged_step (hs : v.Paged) (h : v.step env token a = some v') : v'.Paged := by
  have hloaded : v.page ≠ .initial ∨ v.saves ≠ [] → ∀ c ∈ v.calls, c.caller = .timer := by
    intro hnot
    refine hs.calls.resolve_left fun hmounting => ?_
    exact hnot.elim (fun hpage => hpage hmounting.1) fun hsaves => hsaves hmounting.2.1
  cases step_cases h with
  | server | clock => exact ⟨hs.calls, hs.refs⟩
  | tick hpolling =>
    have htimer := hloaded (.inl fun hpage => by simp [hpage, Onboarding.initial] at hpolling)
    refine ⟨.inr fun c hc => ?_, hs.refs⟩
    cases List.mem_append.mp hc with
    | inl hold => exact htimer c hold
    | inr hnew => rw [List.mem_singleton.mp hnew]
  | served hc => exact hs.poll hc _
  | lost hc => exact hs.poll hc .failed
  | mounted hc | mountFailed hc => exact hs.mounted hc _
  | received hc =>
    refine ⟨.inr fun c hmem => hs.timer hc c (List.mem_of_mem_eraseIdx hmem), ?_⟩
    intro sub' hsub'
    obtain ⟨sub, hsub, rfl⟩ := Option.map_eq_some_iff.mp hsub'
    obtain ⟨hstart, hawaiting⟩ := hs.refs sub hsub
    refine ⟨(receive_scrapeStart _ _ _).trans hstart, ?_⟩
    dsimp only
    rw [receive_awaitingNewScrape, hstart, hawaiting]
    simp [Submission.over, Submission.late, Answer.running, Bool.and_comm]
  | receiveFailed hc =>
    exact ⟨.inr fun c hmem => hs.timer hc c (List.mem_of_mem_eraseIdx hmem), hs.refs⟩
  | submitting hform =>
    have htimer := hloaded (.inl fun hpage => by simp [hpage, Onboarding.initial] at hform)
    exact ⟨.inr htimer, hs.refs⟩
  | saved hx =>
    have htimer := hloaded (.inr (List.ne_nil_of_mem (List.mem_of_getElem? hx)))
    refine ⟨.inr htimer, ?_⟩
    intro sub hsub
    cases hsub
    exact ⟨rfl, rfl⟩
  | saveFailed hk =>
    have htimer := hloaded (.inr (List.ne_nil_of_length_pos (Nat.zero_lt_of_lt hk)))
    exact ⟨.inr htimer, hs.refs⟩
  | retried hfailure =>
    have htimer := hloaded (.inl fun hpage => by simp [hpage, Onboarding.initial] at hfailure)
    exact ⟨.inr htimer, hs.refs⟩

def Holds (v : Visit) (l : ScrapeLog) : Prop :=
  l ∈ v.server.db.scrapeLogs ∨ ∃ caller, ⟨caller, .answered (some l)⟩ ∈ v.calls

/-- `s` is the server when one of the submissions was sent that still matter. -/
def SentAt (v : Visit) (s : Server) : Prop :=
  (∃ x ∈ v.saves, x.server = s) ∨ ∃ sub ∈ v.submission, sub.server = s

/-- A log that was not known at a submission has started since. -/
structure Dated (v : Visit) : Prop where
  drawn : ∀ l, v.Holds l → l.id ∈ v.server.drawn
  past : ∀ s, v.SentAt s → unix s.now ≤ unix v.server.now
  since : ∀ s, v.SentAt s → ∀ l, v.Holds l → l.id ∈ s.drawn ∨ unix s.now ≤ l.startedAt

theorem server_step (h : v.step env token a = some v') :
    v'.server = v.server ∨ ∃ a, v.server.step env a = some v'.server := by
  cases step_cases h with
  | server hs => exact .inr ⟨_, hs⟩
  | submitting _ _ hs => exact .inr ⟨_, hs⟩
  | _ => exact .inl rfl

theorem sentAt_step (h : v.step env token a = some v') {s : Server} (hs : v'.SentAt s) :
    v.SentAt s ∨ s = v.server := by
  cases step_cases h with
  | submitting =>
    obtain ⟨x, hx, rfl⟩ | hsubmission := hs
    · cases List.mem_append.mp hx with
      | inl hold => exact .inl (.inl ⟨x, hold, rfl⟩)
      | inr hnew =>
        rw [List.mem_singleton.mp hnew]
        exact .inr rfl
    · exact .inl (.inr hsubmission)
  | saved hx =>
    obtain ⟨x, hx', rfl⟩ | ⟨sub, hsub, rfl⟩ := hs
    · exact .inl (.inl ⟨x, List.mem_of_mem_eraseIdx hx', rfl⟩)
    · cases hsub
      exact .inl (.inl ⟨_, List.mem_of_getElem? hx, rfl⟩)
  | saveFailed =>
    obtain ⟨x, hx, rfl⟩ | hsubmission := hs
    · exact .inl (.inl ⟨x, List.mem_of_mem_eraseIdx hx, rfl⟩)
    · exact .inl (.inr hsubmission)
  | received =>
    obtain hsaves | ⟨sub', hsub', rfl⟩ := hs
    · exact .inl (.inl hsaves)
    · obtain ⟨sub, hsub, rfl⟩ := Option.map_eq_some_iff.mp hsub'
      exact .inl (.inr ⟨sub, hsub, rfl⟩)
  | _ => exact .inl hs

theorem holds_step (h : v.step env token a = some v') {l : ScrapeLog} (hl : v'.Holds l) :
    (∃ l₀, v.Holds l₀ ∧ l₀.id = l.id ∧ l₀.startedAt = l.startedAt) ∨
      l.id ∈ v'.server.drawn ∧ l.startedAt = unix v.server.now := by
  have hfewer : ∀ {k : Nat} {c : StatusCall}, c ∈ v.calls.eraseIdx k → c ∈ v.calls := List.mem_of_mem_eraseIdx
  have hserver : ∀ {a : Action} {s : Server}, v.server.step env a = some s → l ∈ s.db.scrapeLogs →
      (∃ l₀, v.Holds l₀ ∧ l₀.id = l.id ∧ l₀.startedAt = l.startedAt) ∨
        l.id ∈ s.drawn ∧ l.startedAt = unix v.server.now := by
    intro a s hs hl
    obtain ⟨l₀, hl₀, hsame⟩ | hnew := Server.log_step hs hl
    · exact .inl ⟨l₀, .inl hl₀, hsame⟩
    · exact .inr hnew
  have hkept : v.Holds l → (∃ l₀, v.Holds l₀ ∧ l₀.id = l.id ∧ l₀.startedAt = l.startedAt) ∨
      l.id ∈ v'.server.drawn ∧ l.startedAt = unix v.server.now := fun hl => .inl ⟨l, hl, rfl, rfl⟩
  cases step_cases h with
  | server hs | submitting _ _ hs =>
    obtain hl | hcall := hl
    · exact hserver hs hl
    · exact hkept (.inr hcall)
  | tick =>
    obtain hl | ⟨caller, hcall⟩ := hl
    · exact hkept (.inl hl)
    · cases List.mem_append.mp hcall with
      | inl hold => exact hkept (.inr ⟨caller, hold⟩)
      | inr hnew => cases List.mem_singleton.mp hnew
  | @served k choice o c poll hc hpoll =>
    obtain hl | ⟨caller, hcall⟩ := hl
    · exact hkept (.inl hl)
    · cases List.mem_or_eq_of_mem_set hcall with
      | inl hold => exact hkept (.inr ⟨caller, hold⟩)
      | inr hnew =>
        have hread := scrapeStatus_reads hpoll (congrArg StatusCall.poll hnew).symm
        exact hkept (.inl hread)
  | lost =>
    obtain hl | ⟨caller, hcall⟩ := hl
    · exact hkept (.inl hl)
    · cases List.mem_or_eq_of_mem_set hcall with
      | inl hold => exact hkept (.inr ⟨caller, hold⟩)
      | inr hnew => cases congrArg StatusCall.poll hnew
  | mounted | mountFailed | received | receiveFailed =>
    obtain hl | ⟨caller, hcall⟩ := hl
    · exact hkept (.inl hl)
    · exact hkept (.inr ⟨caller, hfewer hcall⟩)
  | _ => exact hkept hl

theorem dated_step (hs : v.Dated) (h : v.step env token a = some v') : v'.Dated := by
  have hnow : unix v.server.now ≤ unix v'.server.now := by
    obtain heq | ⟨_, hstep⟩ := server_step h
    · rw [heq]
    · exact Server.now_step hstep
  have hdrawn : ∀ id ∈ v.server.drawn, id ∈ v'.server.drawn := by
    intro id hid
    obtain heq | ⟨_, hstep⟩ := server_step h
    · rwa [heq]
    · exact Server.drawn_step hstep hid
  refine ⟨fun l hl => ?_, fun s hsent => ?_, fun s hsent l hl => ?_⟩
  · obtain ⟨l₀, hl₀, hid, _⟩ | ⟨hid, _⟩ := holds_step h hl
    · exact hdrawn _ (hid ▸ hs.drawn l₀ hl₀)
    · exact hid
  · obtain hold | rfl := sentAt_step h hsent
    · exact (hs.past s hold).trans hnow
    · exact hnow
  · obtain ⟨l₀, hl₀, hid, hstarted⟩ | ⟨_, hstarted⟩ := holds_step h hl
    · rw [← hid, ← hstarted]
      obtain hold | rfl := sentAt_step h hsent
      · exact hs.since s hold l₀ hl₀
      · exact .inl (hs.drawn l₀ hl₀)
    · rw [hstarted]
      obtain hold | rfl := sentAt_step h hsent
      · exact .inr (hs.past s hold)
      · exact .inr le_rfl

variable {e : Delivery} {db : DB} {start clock : Int} {record : List Delivery}

theorem paged_opened (s : Server) (clock : Int) : (opened s clock).Paged :=
  ⟨.inl ⟨rfl, rfl, rfl, .sent, rfl⟩, fun sub hsub => by cases hsub⟩

theorem dated_opened (db : DB) (start clock : Int) : (opened (.boot db start) clock).Dated := by
  have hsent : ∀ s, ¬ (opened (.boot db start) clock).SentAt s := by
    rintro s (⟨x, hx, _⟩ | ⟨sub, hsub, _⟩)
    · cases hx
    · cases hsub
  refine ⟨fun l hl => ?_, fun s hs => absurd hs (hsent s), fun s hs => absurd hs (hsent s)⟩
  obtain hl | ⟨caller, hcall⟩ := hl
  · exact Server.registered_boot.logs l hl
  · cases List.mem_singleton.mp hcall

theorem delivery_cases (h : v.delivery a = some e) : ∃ k log sub, a = .deliver k ∧
    v.calls[k]? = some ⟨.timer, .answered log⟩ ∧ v.submission = some sub ∧
    e = ⟨sub, ⟨log, v.clock⟩, (v.page.receive (statusReply log) v.clock).2⟩ := by
  cases a with
  | deliver k =>
    simp only [delivery] at h
    split at h
    · rename_i log sub hc hsub
      exact ⟨k, log, sub, rfl, hc, hsub, (Option.some.inj h).symm⟩
    · cases h
  | _ => cases h

theorem reportsNew_iff (hpaged : v.Paged) (hdated : v.Dated) (h : v.delivery a = some e) :
    e.ReportsNew ↔ e.Timely := by
  obtain ⟨k, log, sub, rfl, hc, hsub, rfl⟩ := delivery_cases h
  obtain ⟨hstart, hawaiting⟩ := hpaged.refs sub hsub
  have hreported : (v.page.receive (statusReply log) v.clock).2 = .reported ↔
      (∃ l ∈ log, l.status ≠ .running) ∧ (sub.over = true ∨ sub.late ⟨log, v.clock⟩ = true) := by
    rw [receive_reported, finished_statusReply, hstart, hawaiting]
    simp [Submission.late]
  have hsince : ∀ l ∈ log, l.id ∈ sub.server.drawn ∨ unix sub.server.now ≤ l.startedAt := by
    rintro l rfl
    exact hdated.since sub.server (.inr ⟨sub, hsub, rfl⟩) l (.inr ⟨.timer, List.mem_of_getElem? hc⟩)
  constructor
  · intro hnew l hl hknown hfinished
    by_contra hends
    rw [not_and_or, Bool.not_eq_false, Bool.not_eq_false] at hends
    obtain ⟨l', hl', hafter⟩ := hnew (hreported.mpr ⟨⟨l, hl, hfinished⟩, hends⟩)
    cases Option.some.inj (hl.symm.trans hl')
    exact hafter.new hknown
  · intro htimely hmove
    obtain ⟨⟨l, hl, hfinished⟩, hends⟩ := hreported.mp hmove
    have hnew : l.id ∉ sub.server.drawn := by
      intro hknown
      obtain ⟨hover, hlate⟩ := htimely l hl hknown hfinished
      rw [hover, hlate] at hends
      simp at hends
    exact ⟨l, hl, hnew, (hsince l hl).resolve_left hnew⟩

/-- Over a whole visit the page reports only scrapes started after the submission if and only
if no reply with an earlier finished one comes late or after the wait. -/
theorem reports_new_scrape_iff (h : Reaches (recorded (step env token) delivery) anyStep
      (opened (.boot db start) clock, []) (v, record)) :
    (∀ e ∈ record, e.ReportsNew) ↔ ∀ e ∈ record, e.Timely := by
  have hrun : v.Paged ∧ v.Dated ∧ ∀ e ∈ record, e.ReportsNew ↔ e.Timely := by
    refine h.invariant_recorded
      (I := fun v record => v.Paged ∧ v.Dated ∧ ∀ e ∈ record, e.ReportsNew ↔ e.Timely)
      ⟨paged_opened _ _, dated_opened _ _ _, fun e he => by cases he⟩ ?_
    intro v record a v' _ hs hstep
    obtain ⟨hpaged, hdated, hrecord⟩ := hs
    refine ⟨paged_step hpaged hstep, dated_step hdated hstep, fun e he => ?_⟩
    cases List.mem_append.mp he with
    | inl hnew => exact reportsNew_iff hpaged hdated (Option.mem_toList.mp hnew)
    | inr hold => exact hrecord e hold
  exact forall₂_congr hrun.2.2

def askStatus : List VisitAction := [.serve 0 uneventful 0, .serve 0 uneventful 0, .deliver 0]

def saveForm : List VisitAction :=
  askStatus ++ .submit (.ok sampleInput) :: (statements 0 7).map .server ++ [.saved 0]

def secondFailure : List VisitAction :=
  saveForm ++ .tick :: askStatus ++ (launch 1 "log1" "key1" "c1").map .server ++ .tick :: askStatus ++
    (.arrive (.submitFailure "key1" (.ok ⟨[], []⟩)) :: statements 2 3).map .server ++ .tick :: askStatus

/-- The scrape of task `i` ends because its log cannot be inserted. -/
def lostStart (i : Nat) : List Action :=
  [.run i {}, .run i { sqlFails := true, uuid := "log1", key := "key1" }, .run i {}]

def lostScrape : List VisitAction :=
  saveForm ++ (lostStart 1).map .server ++
    [.server (.advance (241 * 1000000000)), .clock 241000, .tick] ++ askStatus

def failedLog : ScrapeLog :=
  ⟨"log0", "u1", 0, some 60, .failure, none, none, some "scraper reported failure", some "c0", some "key0", none,
    some [], some [], 0, 0⟩

def failedOnceDB : DB := { sessionDB with scrapeLogs := ⟨[failedLog], List.pairwise_singleton _ _⟩ }

def revisit (as : List VisitAction) : Visit × List Delivery :=
  after (recorded (step sampleEnv "tok") delivery) anyStep
    (opened (.boot failedOnceDB (1000 * 1000000000)) 0, []) as

theorem reports_new_scrape_iff_second : (revisit secondFailure).1.page.step = .failure ∧
    (revisit secondFailure).2.map Delivery.move = [.reported, .stays, .stays] ∧
    ∀ e ∈ (revisit secondFailure).2, e.ReportsNew := by
  have hrun : Reaches (recorded (step sampleEnv "tok") delivery) anyStep
      (opened (.boot failedOnceDB (1000 * 1000000000)) 0, [])
      ((revisit secondFailure).1, (revisit secondFailure).2) :=
    reaches_recorded_after (by decide +kernel)
  have htimely : ∀ e ∈ (revisit secondFailure).2, e.Timely := by decide +kernel
  exact ⟨by decide +kernel, by decide +kernel, (reports_new_scrape_iff hrun).mpr htimely⟩

theorem reports_previous_scrape : ∃ v record,
    Reaches (recorded (step sampleEnv "tok") delivery) anyStep
      (opened (.boot failedOnceDB (1000 * 1000000000)) 0, []) (v, record) ∧
    v.page.step = .failure ∧ v.page.scrapeResult = some (statusReply (some failedLog)) ∧
    ¬ ∀ e ∈ record, e.ReportsNew := by
  have hrun : Reaches (recorded (step sampleEnv "tok") delivery) anyStep
      (opened (.boot failedOnceDB (1000 * 1000000000)) 0, [])
      ((revisit lostScrape).1, (revisit lostScrape).2) :=
    reaches_recorded_after (by decide +kernel)
  exact ⟨(revisit lostScrape).1, (revisit lostScrape).2, hrun, by decide +kernel, by decide +kernel,
    by decide +kernel⟩

end Visit
end ScheduleSync
