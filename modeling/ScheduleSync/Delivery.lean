import ScheduleSync.EndToEnd

/-! What a container has captured is stored. A program that ends well has had a good answer to its
upload, and the service answers well when it has gone through all entries. -/
namespace ScheduleSync
variable {ι : Type}

/-- The shifts of an upload that is answered with a good status. -/
def Exchange.upload : Exchange (ScraperCall ι) → Option (List CallbackShift)
  | ⟨.await (.postShifts _ _ shifts _), x⟩ => (x.result.toOption.bind FetchResponse.accepted).map fun _ => shifts
  | _ => none

def seesUpload (uploaded : Bool) (x : Exchange (ScraperCall ι)) : Bool := uploaded || x.upload.isSome

section Program
variable {env : ScraperEnv ι} {α : Type}

abbrev Brings (p : ScraperM ι α) (Q : Except String α → Bool → Prop) : Prop :=
  Prog.Meets seesUpload (fun _ _ _ => True) (fun _ _ => True) p fun r _ uploaded => Q r uploaded

theorem brings_any (p : ScraperM ι α) : Brings p fun _ _ => True :=
  Prog.keeps_of_kept (I := fun _ => True) (fun _ _ h => h) p

theorem Brings.after {β : Type} (p : ScraperM ι α) {f : α → ScraperM ι β} {Q : Except String β → Bool → Prop}
    (hf : ∀ a, Brings (f a) Q) (herror : ∀ e uploaded, Q (.error e) uploaded) : Brings (p.bind f) Q := by
  refine Prog.Meets.bind (brings_any p) (fun a => hf a) fun e _ uploaded _ => herror e uploaded

def Uploads : Except String α → Bool → Prop
  | .ok _, uploaded => uploaded = true
  | .error _, _ => True

end Program

theorem parseInLocation_isSome (layout : List LayoutChunk) (value : String) (loc loc' : Location) :
    (parseInLocation layout value loc).isSome = (parseInLocation layout value loc').isSome := by
  unfold parseInLocation
  cases parseLayout layout value.toList {} with
  | none => rfl
  | some c =>
    simp only [Option.bind_eq_bind, Option.bind_some]
    split
    · rfl
    · cases c.zone <;> rfl

theorem parseShiftTime_isSome (s : String) (loc loc' : Location) :
    (parseShiftTime s loc).isSome = (parseShiftTime s loc').isSome := by
  simp only [parseShiftTime, List.isSome_findSome?, parseInLocation_isSome _ s loc loc']

def CallbackShift.parses (sh : CallbackShift) : Bool :=
  (parseShiftTime sh.start .utc).isSome && (parseShiftTime sh.stop .utc).isSome

theorem not_parses {sh : CallbackShift} {loc : Location}
    (h : parseShiftTime sh.start loc = none ∨ parseShiftTime sh.stop loc = none) : sh.parses = false := by
  rw [CallbackShift.parses, parseShiftTime_isSome sh.start .utc loc, parseShiftTime_isSome sh.stop .utc loc]
  cases h with
  | inl hstart => rw [hstart]; rfl
  | inr hstop => rw [hstop, Option.isSome_none, Bool.and_false]

theorem DB.insertShift_none {db : DB} {r : Shift} (h : db.insertShift r = none)
    (hid : ∀ x ∈ db.shifts, x.id ≠ r.id) : db.hasUser r.userID = false := by
  unfold DB.insertShift at h
  split_ifs at h with huser hcount
  · obtain ⟨x, hx, hclash⟩ := Table.insert_eq_none (Option.map_eq_none_iff.mp h)
    cases hclash with
    | inl heq => exact absurd heq (hid x hx)
    | inr hboth =>
      have hnone := List.countP_eq_zero.mp hcount x hx
      simp [hboth.1, hboth.2] at hnone
  · exact Bool.eq_false_iff.mpr huser

/-- How far a request is with the upload `shifts`: it answers well when each entry is `stored`. -/
def SubmitShiftsPc.Delivers (owns : Uuid → Prop) (stored : Uuid → CallbackShift → Prop)
    (shifts : List CallbackShift) : SubmitShiftsPc → Prop
  | .lookup body => ∀ es, body = .ok es → es = shifts
  | .readTimezone _ userID es => owns userID ∧ es = shifts
  | .count i => owns i.userID ∧ ∀ e ∈ shifts, e ∈ i.rest ∨ stored i.userID e
  | .insert i sh start stop _ => owns i.userID ∧ (∀ e ∈ shifts, e ∈ sh :: i.rest ∨ stored i.userID e) ∧
      parseShiftTime sh.start i.loc = some start ∧ parseShiftTime sh.stop i.loc = some stop
  | .scheduleNext _ userID _ => owns userID ∧ ∀ e ∈ shifts, stored userID e
  | .answered (.ok _) => ∃ userID, owns userID ∧ ∀ e ∈ shifts, stored userID e
  | .answered (.error _) => True

section Requests
variable {env : Env} {o : Outcome} {w w' : World} {key : String} {owns owns' : Uuid → Prop}
  {stored stored' : Uuid → CallbackShift → Prop} {shifts : List CallbackShift}

theorem SubmitShiftsPc.Delivers.mono {pc : SubmitShiftsPc} (howns : ∀ userID, owns userID → owns' userID)
    (hstored : ∀ userID e, stored userID e → stored' userID e) (h : pc.Delivers owns stored shifts) :
    pc.Delivers owns' stored' shifts := by
  cases pc with
  | lookup => exact h
  | readTimezone => exact ⟨howns _ h.1, h.2⟩
  | count => exact ⟨howns _ h.1, fun e he => (h.2 e he).imp id (hstored _ e)⟩
  | insert => exact ⟨howns _ h.1, fun e he => (h.2.1 e he).imp id (hstored _ e), h.2.2⟩
  | scheduleNext => exact ⟨howns _ h.1, fun e he => hstored _ e (h.2 e he)⟩
  | answered r =>
    cases r with
    | ok =>
      obtain ⟨userID, howner, hall⟩ := h
      exact ⟨userID, howns _ howner, fun e he => hstored _ e (hall e he)⟩
    | error => trivial

theorem scrapeSubmitShifts_delivers {pc pc' : SubmitShiftsPc}
    (h : scrapeSubmitShifts env o w key pc = some (w', pc'))
    (hrows : ∀ l ∈ w.db.scrapeLogs, l.scrapeKey = some key → owns l.userID)
    (hskip : ∀ userID e, e.parses = false → stored userID e)
    (hinsert : ∀ i sh start stop already, pc = .insert i sh start stop already → stored i.userID sh)
    (hpc : pc.Delivers owns stored shifts) : pc'.Delivers owns stored shifts := by
  cases scrapeSubmitShifts_cases h with
  | found hsel =>
    obtain ⟨hmem, hkey, _⟩ := DB.mem_of_runningLog (select_eq_some hsel)
    exact ⟨hrows _ hmem hkey, hpc _ rfl⟩
  | readTimezone => exact ⟨hpc.1, fun e he => .inl (hpc.2 ▸ he)⟩
  | finished hrest =>
    refine ⟨hpc.1, fun e he => (hpc.2 e he).resolve_left ?_⟩
    rw [hrest]
    exact List.not_mem_nil
  | skipped hrest hparse =>
    refine ⟨hpc.1, fun e he => ?_⟩
    have hbefore := hpc.2 e he
    rw [hrest, List.mem_cons] at hbefore
    rcases hbefore with (rfl | hrest) | hdone
    · exact .inr (hskip _ _ (not_parses hparse))
    · exact .inl hrest
    · exact .inr hdone
  | counted hrest hstart hstop =>
    obtain ⟨howner, hall⟩ := hpc
    rw [hrest] at hall
    exact ⟨howner, hall, hstart, hstop⟩
  | insertFailed | inserted =>
    have hdone := hinsert _ _ _ _ _ rfl
    refine ⟨hpc.1, fun e he => ?_⟩
    rcases hpc.2.1 e he with hmem | hstored
    · rcases List.mem_cons.mp hmem with rfl | hrest
      · exact .inr hdone
      · exact .inl hrest
    · exact .inr hstored
  | scheduleNext => exact ⟨_, hpc.1, hpc.2⟩
  | _ => trivial

end Requests

namespace Server
variable {env : Env} {o : Outcome} {s s' : Server} {key : String}

/-- The step executes the INSERT of the entry: a row that says what the entry says is stored, unless the
user has one with its id already, which stays, or has no account. -/
def Stores (env : Env) (s : Server) (a : Action) (s' : Server) (userID : Uuid) (sh : CallbackShift) : Prop :=
  ∃ r loc, s.write env a = some (.insertShift r) ∧ fails a = false ∧
    r.userID = userID ∧ r.shiftIDExt = sh.shiftIDExt ∧ r.Carries loc sh ∧
    (r ∈ s'.db.shiftsOf userID ∨
      (∃ old ∈ s.db.shiftsOf userID, old.shiftIDExt = sh.shiftIDExt ∧ old ∈ s'.db.shiftsOf userID) ∨
      s.db.hasUser userID = false)

theorem stores_of_insert (hreg : s.Registered) (hsql : o.sqlFails = false) {i : Nat} {g : Ingest}
    {sh : CallbackShift} {start stop : Int} {already : Nat} {pc : SubmitShiftsPc}
    (hstart : parseShiftTime sh.start g.loc = some start) (hstop : parseShiftTime sh.stop g.loc = some stop)
    (ht : s.tasks[i]? = some (.submitShifts key (.insert g sh start stop already)))
    (h : scrapeSubmitShifts env o s.toWorld key (.insert g sh start stop already) = some (s'.toWorld, pc)) :
    s.Stores env (.run i o) s' g.userID sh := by
  have hwr : s.write env (.run i o) =
      some (.insertShift (sh.row o.uuid g.userID start stop (unix s.now))) := by
    rw [write, ht]
    rfl
  refine ⟨_, g.loc, hwr, hsql, rfl, rfl, ⟨hstart, hstop, rfl, rfl, rfl⟩, ?_⟩
  generalize s'.toWorld = w at h ⊢
  generalize hpc : SubmitShiftsPc.insert g sh start stop already = pc₀ at h
  cases scrapeSubmitShifts_cases h with
  | insertFailed hid hexec =>
    cases hpc
    rw [exec_executed hsql] at hexec
    refine .inr (.inr (DB.insertShift_none hexec fun x hx heq => hid ?_))
    have hdrawn := hreg.shifts x hx
    rwa [heq] at hdrawn
  | inserted hid hexec =>
    cases hpc
    rcases (DB.insertShift_rows (exec_eq_some hexec)).2 with ⟨⟨x, hx, hext⟩, hsame⟩ | hadded
    · exact .inr (.inl ⟨x, hx, hext, hsame.symm ▸ hx⟩)
    · exact .inl (hadded ▸ List.mem_append_right _ List.mem_cons_self)
  | _ => cases hpc

end Server

/-! What the containers upload. -/

namespace Deployment
variable {db₀ : DB} {earlier : List (Uuid × CredentialsInput)} {start : Int} {js : ScraperEnv ι} {env : Env}
  {d d' : Deployment ι} {a : DeploymentAction ι}

/-- No INSERT of a shift fails for another reason than the account. -/
def storesShifts (d : Deployment ι) : DeploymentAction ι → Bool
  | .serve (.run i o) =>
    match d.tasks[i]? with
    | some (.submitShifts _ (.insert _ _ _ _ _)) => !o.sqlFails
    | _ => true
  | _ => true

/-- While the container `id` waited for the answer to its next call after `before`, the entry was stored. -/
def Arrived (env : Env) (js : ScraperEnv ι) (first d : Deployment ι) (id : String)
    (before : List (Exchange (ScraperCall ι))) (userID : Uuid) (sh : CallbackShift) : Prop :=
  ∃ d₁ b d₂, Reaches (step env js) storesShifts first d₁ ∧ d₁.step env js (.serve b) = some d₂ ∧
    Reaches (step env js) storesShifts d₂ d ∧
    (∃ p ∈ d₁.processes, p.containerID = id ∧ p.exchanges = before ∧ p.request.isSome = true) ∧
    d₁.Stores env b d₂.toServer userID sh

structure Carried (env : Env) (js : ScraperEnv ι) (first : Deployment ι) (db₀ : DB) (d : Deployment ι)
    (p : Process ι) : Prop where
  waiting : ∀ i shifts, p.request = some i → p.uploading = some shifts →
    ∃ pc, d.tasks[i]? = some (.submitShifts p.scrapeKey pc) ∧
      pc.Delivers (d.KeyOf db₀ p.scrapeKey)
        (fun userID sh => sh.parses = true → Arrived env js first d p.containerID p.exchanges userID sh) shifts
  uploaded : ∀ before x after shifts, p.exchanges = before ++ x :: after → x.upload = some shifts →
    ∃ userID, d.KeyOf db₀ p.scrapeKey userID ∧
      ∀ sh ∈ shifts, sh.parses = true → Arrived env js first d p.containerID before userID sh

section Step
variable {first : Deployment ι} {p : Process ι}

theorem Arrived.later {id : String} {before : List (Exchange (ScraperCall ι))} {userID : Uuid} {sh : CallbackShift}
    (h : Arrived env js first d id before userID sh) (hok : d.storesShifts a = true)
    (ha : d.step env js a = some d') : Arrived env js first d' id before userID sh := by
  obtain ⟨d₁, b, d₂, hfirst, hb, hlast, hrest⟩ := h
  exact ⟨d₁, b, d₂, hfirst, hb, hlast.tail ⟨a, hok, ha⟩, hrest⟩

theorem Carried.uploaded_later (hc : Carried env js first db₀ d p) (hok : d.storesShifts a = true)
    (ha : d.step env js a = some d')
    (hkeys : ∀ userID, d.KeyOf db₀ p.scrapeKey userID → d'.KeyOf db₀ p.scrapeKey userID) :
    ∀ before x after shifts, p.exchanges = before ++ x :: after → x.upload = some shifts →
      ∃ userID, d'.KeyOf db₀ p.scrapeKey userID ∧
        ∀ sh ∈ shifts, sh.parses = true → Arrived env js first d' p.containerID before userID sh := by
  intro before x after shifts hxs hupload
  obtain ⟨userID, hkey, hall⟩ := hc.uploaded before x after shifts hxs hupload
  exact ⟨userID, hkeys _ hkey, fun sh hsh hparses => (hall sh hsh hparses).later hok ha⟩

theorem Carried.serve (hfirst : Reaches (step env js) storesShifts first d) (hcustody : Server.Custody db₀ d.toServer)
    (hreg : d.toServer.Registered) (hp : p ∈ d.processes) (hc : Carried env js first db₀ d p) {b : Action}
    {s : Server} {ps : List (Process ι)} (h : d.toServer.step env b = some s) (hok : d.storesShifts a = true)
    (ha : d.step env js a = some { d with toServer := s, processes := ps })
    (hruns : ∀ i o, b = .run i o → a = .serve (.run i o)) :
    Carried env js first db₀ { d with toServer := s, processes := ps } p := by
  have hkeys : ∀ userID, d.KeyOf db₀ p.scrapeKey userID → s.KeyOf db₀ p.scrapeKey userID :=
    fun _ => Server.keyOf_step h
  refine ⟨?_, hc.uploaded_later hok ha hkeys⟩
  intro i shifts hi hshifts
  obtain ⟨pc, ht, hpc⟩ := hc.waiting i shifts hi hshifts
  have hlater := hpc.mono hkeys fun userID sh harrived hparses => (harrived hparses).later hok ha
  cases Server.task_kept ht h with
  | inr hkept => exact ⟨pc, hkept, hlater⟩
  | inl hself =>
    obtain ⟨o, rfl⟩ := hself
    obtain rfl := hruns i o rfl
    obtain ⟨pc', hr, ht'⟩ := Server.submitShifts_step ht h
    refine ⟨pc', ht', scrapeSubmitShifts_delivers hr ?_ ?_ ?_ hlater⟩
    · intro l hl hkey
      obtain ⟨k, hk, _, hkkey, hkuser⟩ := hcustody.rows l hl
      exact Server.keyOf_step h ⟨k, hk, hkkey.trans hkey, hkuser⟩
    · intro userID e hnot hparses
      rw [hnot] at hparses
      cases hparses
    · rintro g sh start stop already rfl _
      have hsql : o.sqlFails = false := by simpa [storesShifts, ht] using hok
      obtain ⟨_, _, hstart, hstop⟩ := hpc
      refine ⟨d, .run i o, { d with toServer := s, processes := ps }, hfirst, ha, .refl, ?_, ?_⟩
      · exact ⟨p, hp, rfl, rfl, by rw [hi]; rfl⟩
      · exact Server.stores_of_insert hreg hsql hstart hstop ht hr

end Step

end Deployment
end ScheduleSync
