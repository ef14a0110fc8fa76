import ScheduleSync.ScraperReports

/-! The secrets of a user, as far as the scraper goes. It logs a lot and sends its logs to the
service when it fails. The password and the answers to the security questions it types into
the page, and that is all it does with them: the run of another user who differs in nothing
else looks the same. -/
namespace ScheduleSync

/-- The credentials differ in the password and the answers at most, and have both or neither a
password. -/
structure SamePublic (c c' : CredentialsInput) : Prop where
  username : c.username = c'.username
  password : c.password = "" ↔ c'.password = ""
  questions : List.Forall₂ (fun q q' => q.question = q'.question) c.securityQuestions c'.securityQuestions

section Secrets
variable {ι : Type}

/-- Both runs make the same call, or type into the same field. -/
inductive SameCall : (X : Type) → ScraperCall ι X → ScraperCall ι X → Prop
  | refl {X : Type} (e : ScraperCall ι X) : SameCall X e e
  | typed (el : ElementHandle) (text text' : String) :
      SameCall (Settled ι Unit) (.await (.type el text)) (.await (.type el text'))

/-- The answer to a fetch of the credentials, with other ones in their place. -/
def Settled.swap (swap : CredentialsInput → CredentialsInput)
    (x : Settled ι (FetchResponse CredentialsInput)) : Settled ι (FetchResponse CredentialsInput) :=
  { x with
    result :=
      match x.result with
      | .ok ⟨status, .ok creds⟩ => .ok ⟨status, .ok (swap creds)⟩
      | result => result }

/-- Both runs get the same answer, but for the credentials. -/
def SameAnswer (swap : CredentialsInput → CredentialsInput) :
    (X : Type) → ScraperCall ι X → X → X → Prop
  | _, .await (.getCredentials _ _), x, x' => x' = x.swap swap
  | _, _, x, x' => x' = x

variable {swap : CredentialsInput → CredentialsInput}

def ScraperCall.isFetch {X : Type} : ScraperCall ι X → Bool
  | .await (.getCredentials _ _) => true
  | _ => false

theorem sameAnswer_eq {X : Type} {e : ScraperCall ι X} (he : e.isFetch = false) {x x' : X}
    (h : SameAnswer swap X e x x') : x = x' := by
  cases e with
  | stderr | pageUrl => exact h.symm
  | await a =>
    cases a with
    | getCredentials => cases he
    | _ => exact h.symm

abbrev LooksSame {α : Type} (swap : CredentialsInput → CredentialsInput) (I J : ScraperVars ι → Prop)
    (V : α → α → Prop) (p p' : ScraperM ι α) : Prop :=
  Prog.Alike SameCall (SameAnswer swap) I J V p p'

/-! Any variables, as far as the handler is registered or not. -/

section Await
variable {I : ScraperVars ι → Prop} (hI : ∀ s s' : ScraperVars ι, s.listening = s'.listening → I s → I s')
include hI

theorem log_looksSame (message : String) : LooksSame swap I I Eq (log message) (log message) := by
  refine Prog.Alike.bind (Prog.alike_ask (.refl _) fun x x' hx => sameAnswer_eq rfl hx) ?_ fun _ h => h
  exact fun _ _ _ => Prog.alike_modify fun s hs => hI s _ rfl hs

theorem onResponse_looksSame (response : Option (ScheduleData ι)) :
    LooksSame swap I I Eq (onResponse response) (onResponse response) := by
  match response with
  | some ⟨some days, homeSiteName⟩ =>
    rw [onResponse]
    refine Prog.Alike.bind (Prog.alike_modify fun s hs => hI s _ rfl hs) ?_ fun _ h => h
    rintro _ _ rfl
    refine Prog.Alike.bind (Prog.alike_gets _) ?_ fun _ h => h
    rintro total _ rfl
    exact log_looksSame hI _
  | some ⟨none, _⟩ => exact Prog.alike_pure rfl
  | none => exact Prog.alike_pure rfl

theorem onResponses_looksSame (responses : List (Option (ScheduleData ι))) :
    LooksSame swap I I Eq (onResponses responses) (onResponses responses) := by
  induction responses with
  | nil => exact Prog.alike_pure rfl
  | cons response rest ih =>
    rw [onResponses]
    exact Prog.Alike.bind (onResponse_looksSame hI response) (fun _ _ _ => ih) fun _ h => h

theorem settled_looksSame {X : Type} {V : X → X → Prop} (took : Nat)
    (responses : List (Option (ScheduleData ι))) {r r' : Except String X} (hr : Prog.Returns V r r') :
    LooksSame swap I I V
      (do
        Prog.modify fun s => { s with now := s.now + took }
        takeUp responses
        Prog.ofExcept r)
      (do
        Prog.modify fun s => { s with now := s.now + took }
        takeUp responses
        Prog.ofExcept r') := by
  refine Prog.Alike.bind (Prog.alike_modify fun s hs => hI s _ rfl hs) ?_ fun _ h => h
  rintro _ _ rfl
  refine Prog.Alike.bind (V := Eq) ?_ (fun _ _ _ => Prog.alike_ofExcept hr) fun _ h => h
  refine Prog.Alike.bind (Prog.alike_gets _) ?_ fun _ h => h
  rintro listening _ rfl
  cases listening with
  | true => exact onResponses_looksSame hI responses
  | false => exact Prog.alike_pure rfl

theorem awaits_looksSame {X : Type} {a a' : Awaited X} (ha : (ScraperCall.await a : ScraperCall ι _).isFetch = false)
    (hcall : SameCall (Settled ι X) (.await a) (.await a')) : LooksSame swap I I Eq (awaits a) (awaits a') := by
  refine Prog.Alike.bind (Prog.alike_ask hcall fun x x' hx => sameAnswer_eq ha hx) ?_ fun _ h => h
  rintro x _ rfl
  exact settled_looksSame hI x.took x.responses (Prog.returns_refl x.result)

theorem fetchCredentials_looksSame (hswap : ∀ c, SamePublic c (swap c)) (env : ScraperEnv ι) :
    LooksSame swap I I SamePublic (fetchCredentials env) (fetchCredentials env) := by
  refine Prog.Alike.bind (V := fun res res' => res.status = res'.status ∧ Prog.Returns SamePublic res.json res'.json) ?_
    ?_ fun _ h => h
  · refine Prog.Alike.bind (Prog.alike_ask
      (V := fun (x x' : Settled ι (FetchResponse CredentialsInput)) => x' = x.swap swap) (.refl _) fun _ _ h => h) ?_
      fun _ h => h
    rintro ⟨took, responses, r⟩ _ rfl
    refine settled_looksSame hI took responses ?_
    match r with
    | .ok ⟨status, .ok creds⟩ => exact .ok ⟨rfl, .ok (hswap creds)⟩
    | .ok ⟨status, .error e⟩ => exact .ok ⟨rfl, .error e⟩
    | .error e => exact .error e
  · rintro ⟨status, json⟩ ⟨_, json'⟩ ⟨rfl, hjson⟩
    unfold FetchResponse.body
    split
    · exact Prog.alike_ofExcept hjson
    · exact Prog.alike_throw _

end Await

/-! While the page is open. -/

def Listening (s : ScraperVars ι) : Prop := s.listening = true

/-- Once the credentials are there, a program that knows nothing of them looks the same. -/
theorem alike_of_obeys {α : Type} {env : ScraperEnv ι} {s : Script (ScraperCall ι) α} {P : α → Seen ι → Prop}
    {g : Seen ι} (h : s.Obeys Seen.see (accepts env) P g) (hg : g.stage ≠ .started) :
    Script.Alike SameCall (SameAnswer swap) (fun a b => a = b ∧ ∃ g, P a g) s s := by
  induction s generalizing g with
  | done a => exact .done ⟨rfl, g, h⟩
  | call e k ih =>
    have hfetch : e.isFetch = false := by
      have haccept := h.1
      cases e with
      | stderr | pageUrl => rfl
      | await a =>
        cases a with
        | getCredentials => exact absurd haccept.1 hg
        | _ => rfl
    refine .call (.refl e) fun x x' hx => ?_
    obtain rfl := sameAnswer_eq hfetch hx
    exact ih x (h.2 x) (see_stage_ne hg _)

theorem looksSame_of_does {α : Type} {env : ScraperEnv ι} (credentials : Option CredentialsInput) {p : ScraperM ι α}
    {Q : Except String α → ScraperVars ι → Seen ι → Prop} {J : ScraperVars ι → Prop}
    (h : Does env (Browsing credentials false) p Q) (hend : ∀ r s g, Q r s g → J s) :
    LooksSame swap Listening J Eq p p := by
  intro s hs
  have hstart : Browsing credentials false s
      ⟨.browsing false, credentials, true, s.logLines.map (fun line => line ++ "\n"), s.screenshots.map Screenshot.data,
        s.capturedWeeks⟩ :=
    ⟨rfl, rfl, hs, rfl, rfl, List.append_nil _, List.append_nil _⟩
  refine (alike_of_obeys (h _ _ hstart) (by simp)).mono ?_
  rintro ⟨r, s⟩ _ ⟨rfl, g, hq⟩
  exact ⟨Prog.returns_refl r, rfl, hend r s g hq⟩

theorem looksSame_of_browsesOn {α : Type} (env : ScraperEnv ι) (credentials : Option CredentialsInput)
    {p : ScraperM ι α} (h : BrowsesOn env credentials false p) : LooksSame swap Listening Listening Eq p p :=
  looksSame_of_does credentials h fun _ _ _ hb => hb.listening

theorem listening_congr (s s' : ScraperVars ι) (h : s.listening = s'.listening) (hs : Listening s) :
    Listening s' :=
  h.symm.trans hs

theorem browsing_bind {α β : Type} (env : ScraperEnv ι) (credentials : Option CredentialsInput) {p : ScraperM ι α}
    {f f' : α → ScraperM ι β} {W : β → β → Prop} {J : ScraperVars ι → Prop} (h : BrowsesOn env credentials false p)
    (hf : ∀ a, LooksSame swap Listening J W (f a) (f' a)) (hend : ∀ s, Listening s → J s) :
    LooksSame swap Listening J W (p.bind f) (p.bind f') := by
  refine Prog.Alike.bind (looksSame_of_browsesOn env credentials h) ?_ hend
  rintro a _ rfl
  exact hf a

theorem typeInto_looksSame (env : ScraperEnv ι) (selectors : List String) (text text' label : String) :
    LooksSame (ι := ι) swap Listening Listening Eq (typeInto selectors text label)
      (typeInto selectors text' label) := by
  refine browsing_bind env none (findVisibleInput_browsesOn _ _ _) (fun el => ?_) fun _ h => h
  refine Prog.Alike.bind (awaits_looksSame listening_congr rfl (.typed el text text')) ?_ fun _ h => h
  exact fun _ _ _ => Prog.alike_pure rfl

theorem matchQuestion_looksSame (toLower : String → String) (normalized : String) {first first' : String}
    {questions questions' : List SecurityQuestion}
    (h : List.Forall₂ (fun q q' => q.question = q'.question) questions questions') :
    LooksSame (ι := ι) swap Listening Listening (fun _ _ => True) (matchQuestion toLower normalized first questions)
      (matchQuestion toLower normalized first' questions') := by
  induction h with
  | nil =>
    refine Prog.Alike.bind (log_looksSame listening_congr _) ?_ fun _ h => h
    exact fun _ _ _ => Prog.alike_pure trivial
  | @cons q q' rest rest' hq _ ih =>
    rw [matchQuestion, matchQuestion, hq]
    split
    · refine Prog.Alike.bind (log_looksSame listening_congr _) ?_ fun _ h => h
      exact fun _ _ _ => Prog.alike_pure trivial
    · exact ih

section Run
variable {env : ScraperEnv ι} {creds creds' : CredentialsInput} (hcreds : SamePublic creds creds')
include hcreds

theorem bypassPush_looksSame :
    LooksSame swap Listening Listening Eq (bypassPush env creds) (bypassPush env creds') := by
  refine browsing_bind env none (log_browsesOn _) (fun _ => ?_) fun _ h => h
  refine browsing_bind env none (screenshot_browsesOn _) (fun _ => ?_) fun _ h => h
  refine browsing_bind env none (evaluate_browsesOn rfl) (fun _ => ?_) fun _ h => h
  refine browsing_bind env none (findVisibleInput_browsesOn _ _ _) (fun _ => ?_) fun _ h => h
  refine browsing_bind env none ?_ (fun pageText => ?_) fun _ h => h
  · exact Prog.Keeps.attempt (evaluate_browsesOn rfl) fun _ => Prog.meets_pure fun _ _ h => h
  refine Prog.Alike.bind (matchQuestion_looksSame _ _ hcreds.questions) (fun answer answer' _ => ?_) fun _ h => h
  refine Prog.Alike.bind (typeInto_looksSame env _ _ _ _) (fun _ _ _ => ?_) fun _ h => h
  refine browsing_bind env none (screenshot_browsesOn _) (fun _ => ?_) fun _ h => h
  refine browsing_bind env none submitForm_browsesOn (fun _ => ?_) fun _ h => h
  refine browsing_bind env none (log_browsesOn _) (fun _ => ?_) fun _ h => h
  refine Prog.Alike.bind (typeInto_looksSame env _ _ _ _) (fun _ _ _ => ?_) fun _ h => h
  refine browsing_bind env none (screenshot_browsesOn _) (fun _ => ?_) fun _ h => h
  exact looksSame_of_browsesOn env none submitForm_browsesOn

theorem authenticate_looksSame :
    LooksSame swap Listening Listening Eq (authenticate env creds) (authenticate env creds') := by
  refine browsing_bind env none (log_browsesOn _) (fun _ => ?_) fun _ h => h
  refine browsing_bind env none (pollUntil_browsesOn checkAuthenticated_browsesOn _ _) (fun authenticated => ?_)
    fun _ h => h
  have hend : LooksSame (ι := ι) swap Listening Listening Eq (screenshot "post-auth") (screenshot "post-auth") :=
    looksSame_of_browsesOn env none (screenshot_browsesOn _)
  match authenticated with
  | some .bypass => exact Prog.Alike.bind (bypassPush_looksSame hcreds) (fun _ _ _ => hend) fun _ h => h
  | some .domain => exact browsing_bind env none (log_browsesOn _) (fun _ => hend) fun _ h => h
  | none => exact browsing_bind env none (log_browsesOn _) (fun _ => hend) fun _ h => h

theorem browse_looksSame :
    LooksSame swap (fun _ => True) (fun _ => True) Eq (browse env creds) (browse env creds') := by
  have hany : ∀ s s' : ScraperVars ι, s.listening = s'.listening → True → True := fun _ _ _ h => h
  have hlogin : (loginPage creds : ScraperM ι Unit) = loginPage creds' := by
    unfold loginPage
    rw [hcreds.username]
  unfold browse
  rw [hlogin]
  refine Prog.Alike.bind (awaits_looksSame hany rfl (.refl _)) (fun _ _ _ => ?_) fun _ h => h
  refine Prog.Alike.bind (K := Listening) (Prog.alike_modify fun _ _ => rfl) (fun _ _ _ => ?_) fun _ _ => trivial
  refine browsing_bind env (some creds') (loginPage_browsesOn creds') (fun _ => ?_) fun _ _ => trivial
  refine Prog.Alike.bind (authenticate_looksSame hcreds) (fun _ _ _ => ?_) fun _ _ => trivial
  refine browsing_bind env none openSchedule_browsesOn (fun _ => ?_) fun _ _ => trivial
  refine browsing_bind env none captureWeeks_browsesOn (fun _ => ?_) fun _ _ => trivial
  exact looksSame_of_does none submitResults_does fun _ _ _ _ => trivial

end Run

/-! The whole run. -/

section Main
variable (hswap : ∀ c, SamePublic c (swap c)) (env : ScraperEnv ι)

theorem any_congr : ∀ s s' : ScraperVars ι, s.listening = s'.listening → True → True := fun _ _ _ h => h

include hswap in
theorem run_looksSame : LooksSame swap (fun _ => True) (fun _ => True) Eq (run env) (run env) := by
  refine Prog.Alike.bind (log_looksSame any_congr _) (fun _ _ _ => ?_) fun _ h => h
  refine Prog.Alike.bind (fetchCredentials_looksSame any_congr hswap env) (fun creds creds' hcreds => ?_) fun _ h => h
  have hmissing : (creds.username = "" ∨ creds.password = "" ∨ creds.securityQuestions = []) ↔
      (creds'.username = "" ∨ creds'.password = "" ∨ creds'.securityQuestions = []) := by
    have hquestions : creds.securityQuestions = [] ↔ creds'.securityQuestions = [] := by
      rw [← List.length_eq_zero_iff, ← List.length_eq_zero_iff, hcreds.questions.length_eq]
    rw [hcreds.username, hcreds.password, hquestions]
  by_cases h : creds.username = "" ∨ creds.password = "" ∨ creds.securityQuestions = []
  · rw [if_pos h, if_pos (hmissing.mp h)]
    exact Prog.alike_throw _
  · rw [if_neg h, if_neg (mt hmissing.mpr h)]
    refine Prog.Alike.bind (log_looksSame any_congr _) (fun _ _ _ => ?_) fun _ h => h
    refine Prog.Alike.bind (awaits_looksSame any_congr rfl (.refl _)) (fun _ _ _ => ?_) fun _ h => h
    exact Prog.Alike.ensuring (browse_looksSame hcreds) (awaits_looksSame any_congr rfl (.refl _))

theorem reportError_looksSame (err : String) :
    LooksSame swap (fun _ => True) (fun _ => True) Eq (reportError env err) (reportError env err) := by
  refine Prog.Alike.bind (log_looksSame any_congr _) (fun _ _ _ => ?_) fun _ h => h
  refine Prog.Alike.bind (Prog.alike_gets _) ?_ fun _ h => h
  rintro logs _ rfl
  refine Prog.Alike.bind (Prog.alike_gets _) ?_ fun _ h => h
  rintro screenshots _ rfl
  refine Prog.Alike.bind (V := Eq) ?_ (fun _ _ _ => Prog.alike_pure rfl) fun _ h => h
  refine Prog.Alike.attempt ?_ fun postErr => ?_
  · refine Prog.Alike.bind (awaits_looksSame any_congr rfl (.refl _)) ?_ fun _ h => h
    rintro res _ rfl
    unfold FetchResponse.body
    split
    · exact Prog.alike_ofExcept (Prog.returns_refl _)
    · exact Prog.alike_throw _
  · exact Prog.alike_ask (.refl _) fun x x' hx => sameAnswer_eq rfl hx

include hswap in
theorem main_looksSame :
    LooksSame swap (fun _ => True) (fun _ => True) Eq (scraperMain env) (scraperMain env) := by
  unfold scraperMain
  split
  · exact Prog.Alike.bind (Prog.alike_ask (.refl _) fun x x' hx => sameAnswer_eq rfl hx)
      (fun _ _ _ => Prog.alike_pure rfl) fun _ h => h
  · refine Prog.Alike.attempt ?_ fun err => reportError_looksSame env err
    exact Prog.Alike.bind (run_looksSame hswap env) (fun _ _ _ => Prog.alike_pure rfl) fun _ h => h

end Main

/-- To every run belongs one with other passwords and answers in the credentials. It makes the
same calls in the same order with the same data, those that go to the service and to the log
among them, and ends in the same way; only what it types may differ. -/
theorem scraper_keeps_secrets {env : ScraperEnv ι} (hswap : ∀ c, SamePublic c (swap c))
    {xs : List (Exchange (ScraperCall ι))} {t : Script (ScraperCall ι) (Except String Nat × ScraperVars ι)}
    (hrun : (scraperMain env ScraperVars.initial).Goes xs t) :
    ∃ xs' t', (scraperMain env ScraperVars.initial).Goes xs' t' ∧
      List.Forall₂ (Script.Exchange.Similar SameCall (SameAnswer swap)) xs xs' ∧
      ∀ r vars, t = .done (r, vars) → t' = .done (r, vars) := by
  have htotal : ∀ (X : Type) (e : ScraperCall ι X) (x : X), ∃ x', SameAnswer swap X e x x' := by
    intro X e x
    cases e with
    | stderr | pageUrl => exact ⟨x, rfl⟩
    | await a => cases a <;> exact ⟨_, rfl⟩
  obtain ⟨xs', t', hrun', hsim, ht⟩ := (main_looksSame hswap env ScraperVars.initial trivial).goes htotal hrun
  refine ⟨xs', t', hrun', hsim, ?_⟩
  rintro r vars rfl
  cases ht with
  | @done _ b hb =>
    obtain ⟨hr, rfl, _⟩ := hb
    cases b with
    | mk r' vars' =>
      cases hr with
      | ok hab => rw [hab]
      | error e => rfl

end Secrets

def otherSecrets (c : CredentialsInput) : CredentialsInput where
  username := c.username
  password := if c.password = "" then "" else "mermaid"
  securityQuestions := c.securityQuestions.map fun q => { q with answer := "elsewhere" }

theorem otherSecrets_samePublic (c : CredentialsInput) : SamePublic c (otherSecrets c) where
  username := rfl
  password := by
    simp only [otherSecrets]
    split
    · rename_i h
      simp [h]
    · rename_i h
      simp [h]
  questions := by
    simp only [otherSecrets, List.forall₂_map_right_iff]
    exact List.forall₂_same.mpr fun _ _ => rfl

theorem scraper_keeps_secrets_asked :
    ∃ xs' t', (scraperMain sampleScraperEnv ScraperVars.initial).Goes xs' t' ∧
      List.Forall₂ (Script.Exchange.Similar SameCall (SameAnswer otherSecrets)) SampleSite.asks.run.1 xs' ∧
      t' = .done SampleSite.asks.run.2 := by
  obtain ⟨xs', t', hrun, hsim, hend⟩ := scraper_keeps_secrets otherSecrets_samePublic
    (Script.goes_play SampleSite.asks.respond (scraperMain sampleScraperEnv ScraperVars.initial) ())
  exact ⟨xs', t', hrun, hsim, hend _ _ rfl⟩

end ScheduleSync
