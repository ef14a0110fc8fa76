import ScheduleSync.Transition

/-! What one observer sees of a store that many write to. A write either concerns the
observer, and then it acts on the view alone, or the view does not change. So the view after
a run is what the writes of concern make of the view it began with, whoever else wrote in
between. The store, its writes and the system around it are parameters. -/
namespace ScheduleSync

section Stores
variable {ω ξ : Type*} {exec : ω → ξ → Option ω} {view : ω → ω} {concerns : ω → ξ → Bool}

structure Unwinds (exec : ω → ξ → Option ω) (view : ω → ω) (concerns : ω → ξ → Bool) : Prop where
  own : ∀ {d d' x}, exec d x = some d' → concerns d x = true → exec (view d) x = some (view d')
  other : ∀ {d d' x}, exec d x = some d' → concerns d x = false → view d' = view d

def replay (exec : ω → ξ → Option ω) (d : ω) : List ξ → Option ω
  | [] => some d
  | x :: older => (replay exec d older).bind fun d' => exec d' x

end Stores

section Systems
variable {σ α ω ξ : Type*} {step : σ → α → Option σ} {store : σ → ω} {exec : ω → ξ → Option ω}
  {executed : σ → α → Option ξ} {view : ω → ω} {concerns : ω → ξ → Bool}

def Stored (step : σ → α → Option σ) (store : σ → ω) (exec : ω → ξ → Option ω)
    (executed : σ → α → Option ξ) : Prop :=
  ∀ s a s', step s a = some s' →
    match executed s a with
    | none => store s' = store s
    | some x => exec (store s) x = some (store s')

def ofConcern (store : σ → ω) (executed : σ → α → Option ξ) (concerns : ω → ξ → Bool) (s : σ) (a : α) :
    Option ξ :=
  (executed s a).filter (concerns (store s))

/-- One step: the recorded write makes of the view what the step makes of it. -/
theorem Unwinds.replay_step (hview : Unwinds exec view concerns) (hstored : Stored step store exec executed)
    {s s' : σ} {a : α} (h : step s a = some s') {d : ω} {record : List ξ}
    (hs : replay exec d record = some (view (store s))) :
    replay exec d ((ofConcern store executed concerns s a).toList ++ record) = some (view (store s')) := by
  have hwrite := hstored s a s' h
  cases hx : executed s a with
  | none =>
    simp only [hx] at hwrite
    simpa [ofConcern, hx, hwrite] using hs
  | some x =>
    simp only [hx] at hwrite
    cases hconcerns : concerns (store s) x with
    | true =>
      have hown := hview.own hwrite hconcerns
      simp [ofConcern, hx, Option.filter_some, hconcerns, replay, hs, hown]
    | false =>
      have hother := hview.other hwrite hconcerns
      simpa [ofConcern, hx, Option.filter_some, hconcerns, hother] using hs

theorem Unwinds.replay_run (hview : Unwinds exec view concerns) (hstored : Stored step store exec executed)
    {within : σ × List ξ → α → Bool} {p q : σ × List ξ}
    (h : Reaches (recorded step (ofConcern store executed concerns)) within p q) {d : ω}
    (hp : replay exec d p.2 = some (view (store p.1))) :
    replay exec d q.2 = some (view (store q.1)) :=
  h.invariant_recorded (I := fun s record => replay exec d record = some (view (store s))) hp
    fun _ _ _ _ _ hs ha => hview.replay_step hstored ha hs

/-- Two runs, of one system or of two around the same kind of store, in which the observer's
writes are the same. -/
theorem Unwinds.noninterference {σ' α' : Type*} {step' : σ' → α' → Option σ'} {store' : σ' → ω}
    {executed' : σ' → α' → Option ξ} (hview : Unwinds exec view concerns)
    (hstored : Stored step store exec executed) (hstored' : Stored step' store' exec executed')
    {within : σ × List ξ → α → Bool} {within' : σ' × List ξ → α' → Bool} {s₀ s : σ} {t₀ t : σ'}
    {record : List ξ}
    (hs : Reaches (recorded step (ofConcern store executed concerns)) within (s₀, []) (s, record))
    (ht : Reaches (recorded step' (ofConcern store' executed' concerns)) within' (t₀, []) (t, record))
    (hsame : view (store s₀) = view (store' t₀)) : view (store s) = view (store' t) := by
  have hreplay := hview.replay_run hstored hs (d := view (store s₀)) rfl
  have hreplay' := hview.replay_run hstored' ht (d := view (store s₀)) (by rw [hsame]; rfl)
  exact Option.some.inj (hreplay.symm.trans hreplay')

end Systems
end ScheduleSync
