import Mathlib.Logic.Basic

/-! An item that several workers may finish. A worker first checks that the item
is open and then holds it; finishing closes the item and leaves the worker owing
one disposition of it. The check and the finish are separate steps, so two
workers can hold one item. The laws below say what survives when an item is only
finished by its sole holder. -/
namespace ScheduleSync.Lifecycle

structure Standing (ρ : Type*) where
  row : Option ρ
  launching : Nat
  holding : Nat
  owing : Nat
  settled : Nat

variable {ρ : Type*}

def Standing.unknown : Standing ρ := ⟨none, 0, 0, 0, 0⟩

/-- What one step may do to an item: which rows are open, what a failed launch
may find, whether the step draws this item, loses an update or drops a
disposition, and whether only the sole holder finishes. -/
structure Rules (ρ : Type*) where
  isOpen : ρ → Prop
  mayHold : Option ρ → Prop
  fresh : Prop
  forgets : Prop
  drops : Prop
  exclusive : Prop

/-- One step of the system as a single item sees it. -/
inductive Step (R : Rules ρ) : Standing ρ → Standing ρ → Prop
  | stay (s) : Step R s s
  | remove (s : Standing ρ) : Step R s { s with row := none }
  | appear (r : ρ) (hopen : R.isOpen r) (hfresh : R.fresh) : Step R .unknown ⟨some r, 1, 0, 0, 0⟩
  | launched (r : Option ρ) (n h o d : Nat) : Step R ⟨r, n + 1, h, o, d⟩ ⟨r, n, h, o, d⟩
  | launchFails (r : Option ρ) (n h o d : Nat) (hmay : R.mayHold r) :
      Step R ⟨r, n + 1, h, o, d⟩ ⟨r, n, h + 1, o, d⟩
  | check (r : ρ) (n h o d : Nat) (hopen : R.isOpen r) :
      Step R ⟨some r, n, h, o, d⟩ ⟨some r, n, h + 1, o, d⟩
  | finish (r r' : Option ρ) (n h o d : Nat) (hsole : R.exclusive → h = 0)
      (hrow : (∀ c, r' = some c → ¬ R.isOpen c) ∧ r'.isSome = r.isSome ∨ r' = r ∧ R.forgets) :
      Step R ⟨r, n, h + 1, o, d⟩ ⟨r', n, h, o + 1, d⟩
  | settle (r : Option ρ) (n h o d : Nat) : Step R ⟨r, n, h, o + 1, d⟩ ⟨r, n, h, o, d + 1⟩
  | lose (r : Option ρ) (n h o d : Nat) (hdrop : R.drops) :
      Step R ⟨r, n, h, o + 1, d⟩ ⟨r, n, h, o, d⟩

theorem Step.of_eq {R : Rules ρ} {s s' t t' : Standing ρ} (h : Step R t t') (hs : s = t)
    (hs' : s' = t') : Step R s s' := by
  rw [hs, hs']
  exact h

section Laws
variable {R : Rules ρ} {s s' : Standing ρ}

theorem step_unknown (h : Step R s s') (hs : s = .unknown) (hfresh : ¬ R.fresh) :
    s' = .unknown := by
  cases h with
  | stay => exact hs
  | remove => rw [hs]; rfl
  | appear r _ hf => exact absurd hf hfresh
  | _ => simp [Standing.unknown] at hs

def HeldOpen (isOpen : ρ → Prop) (s : Standing ρ) : Prop :=
  0 < s.holding → ∀ r, s.row = some r → isOpen r

theorem step_heldOpen (h : Step R s s') (hexcl : R.exclusive)
    (hmay : ∀ r, R.mayHold (some r) → R.isOpen r) (hs : HeldOpen R.isOpen s) : HeldOpen R.isOpen s' := by
  cases h with
  | stay => exact hs
  | remove => intro _ r hr; cases hr
  | appear => intro hpos; simp at hpos
  | launched => exact hs
  | launchFails r n h o d hm =>
    intro _ c hc
    simp only at hc
    subst hc
    exact hmay c hm
  | check r n h o d ho =>
    intro _ c hc
    cases hc
    exact ho
  | finish r r' n h o d hsole =>
    intro hpos
    simp [hsole hexcl] at hpos
  | settle => exact hs
  | lose => exact hs

theorem step_gone (h : Step R s s') (hfresh : ¬ R.fresh) (hr : s.row = none) : s'.row = none := by
  cases h with
  | remove => rfl
  | appear r _ hf => exact absurd hf hfresh
  | finish r r' n h o d hsole hrow =>
    simp only at hr
    subst hr
    cases hrow with
    | inl hclosed => simpa using hclosed.2
    | inr hsame => exact hsame.1
  | _ => exact hr

theorem step_closed (h : Step R s s') (hs : HeldOpen R.isOpen s) {r r' : ρ} (hr : s.row = some r)
    (hclosed : ¬ R.isOpen r) (hr' : s'.row = some r') : r' = r := by
  cases h with
  | remove => cases hr'
  | appear => cases hr
  | finish => exact absurd (hs (by simp) r hr) hclosed
  | _ => exact Option.some.inj (hr'.symm.trans hr)

/-- No disposition is owed or settled before the item is finished, and never
more than one. -/
structure AtMostOnce (isOpen : ρ → Prop) (s : Standing ρ) : Prop where
  heldOpen : HeldOpen isOpen s
  held : 0 < s.holding → s.owing + s.settled = 0
  ofOpen : ∀ r, s.row = some r → isOpen r → s.owing + s.settled = 0
  atMost : s.owing + s.settled ≤ 1

theorem atMostOnce_untouched {isOpen : ρ → Prop} (r : Option ρ) :
    AtMostOnce isOpen ⟨r, 0, 0, 0, 0⟩ := by
  constructor <;> simp [HeldOpen]

theorem step_atMostOnce (h : Step R s s') (hexcl : R.exclusive)
    (hmay : ∀ r, R.mayHold r → ∃ c, r = some c ∧ R.isOpen c) (hforget : ¬ R.forgets)
    (hs : AtMostOnce R.isOpen s) : AtMostOnce R.isOpen s' := by
  have hopen : HeldOpen R.isOpen s' := by
    refine step_heldOpen h hexcl (fun r hr => ?_) hs.heldOpen
    obtain ⟨c, hc, ho⟩ := hmay _ hr
    cases hc
    exact ho
  cases h with
  | stay => exact hs
  | remove => exact ⟨hopen, hs.held, by simp, hs.atMost⟩
  | appear => exact ⟨hopen, by simp, by simp, by simp⟩
  | launched => exact ⟨hopen, hs.held, hs.ofOpen, hs.atMost⟩
  | launchFails r n h o d hm =>
    obtain ⟨c, rfl, ho⟩ := hmay _ hm
    exact ⟨hopen, fun _ => hs.ofOpen c rfl ho, hs.ofOpen, hs.atMost⟩
  | check r n h o d ho => exact ⟨hopen, fun _ => hs.ofOpen r rfl ho, hs.ofOpen, hs.atMost⟩
  | finish r r' n h o d hsole hrow =>
    have hzero := hs.held (by simp)
    have hclosed : ∀ c, r' = some c → ¬ R.isOpen c := by
      cases hrow with
      | inl hclosed => exact hclosed.1
      | inr hsame => exact absurd hsame.2 hforget
    simp only at hzero
    refine ⟨hopen, ?_, fun c hc ho => absurd ho (hclosed c hc), ?_⟩
    · simp [hsole hexcl]
    · simp only; omega
  | settle r n h o d =>
    have hle := hs.atMost
    have hheld := hs.held
    have hfree := hs.ofOpen
    simp only at hle hheld hfree
    refine ⟨hopen, fun hp => ?_, fun c hc ho => ?_, ?_⟩
    · have := hheld hp; omega
    · have := hfree c hc ho; omega
    · simp only; omega
  | lose r n h o d =>
    have hle := hs.atMost
    have hheld := hs.held
    have hfree := hs.ofOpen
    simp only at hle hheld hfree
    refine ⟨hopen, fun hp => ?_, fun c hc ho => ?_, ?_⟩
    · have := hheld hp; omega
    · have := hfree c hc ho; omega
    · simp only; omega

def AtLeastOnce (isOpen : ρ → Prop) (s : Standing ρ) : Prop :=
  ∀ r, s.row = some r → ¬ isOpen r → 0 < s.owing + s.settled

theorem step_atLeastOnce (h : Step R s s') (hdrop : ¬ R.drops) (hs : AtLeastOnce R.isOpen s) :
    AtLeastOnce R.isOpen s' := by
  cases h with
  | remove => intro r hr; cases hr
  | appear r ho =>
    intro c hc hnc
    cases hc
    exact absurd ho hnc
  | finish =>
    intro _ _ _
    simp only
    omega
  | settle =>
    intro _ _ _
    simp only
    omega
  | lose _ _ _ _ _ hd => exact absurd hd hdrop
  | _ => exact hs

def Active (isOpen : ρ → Prop) (s : Standing ρ) : Prop :=
  (∃ r, s.row = some r ∧ isOpen r) ∨ 0 < s.holding ∨ 0 < s.owing

theorem step_active (h : Step R s s') (hmay : ∀ r, R.mayHold r → ∃ c, r = some c ∧ R.isOpen c)
    (hs : Active R.isOpen s') : Active R.isOpen s ∨ R.fresh := by
  cases h with
  | remove =>
    cases hs with
    | inl hrow =>
      obtain ⟨r, hr, _⟩ := hrow
      cases hr
    | inr hpos => exact .inl (.inr hpos)
  | appear _ _ hf => exact .inr hf
  | launchFails r n h o d hm => exact .inl (.inl (hmay _ hm))
  | check r n h o d ho => exact .inl (.inl ⟨r, rfl, ho⟩)
  | finish => exact .inl (.inr (.inl (by simp)))
  | settle => exact .inl (.inr (.inr (by simp)))
  | lose => exact .inl (.inr (.inr (by simp)))
  | _ => exact .inl hs

theorem inactive_of_settled {isOpen : ρ → Prop} (h : AtMostOnce isOpen s) (hsettled : 0 < s.settled) :
    ¬ Active isOpen s := by
  have hle := h.atMost
  rintro (⟨r, hr, ho⟩ | hpos | hpos)
  · have := h.ofOpen r hr ho; omega
  · have := h.held hpos; omega
  · omega

end Laws
end ScheduleSync.Lifecycle
