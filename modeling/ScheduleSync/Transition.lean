import Mathlib.Logic.Relation
import Mathlib.Algebra.Order.BigOperators.Group.List
import Mathlib.Algebra.Order.Group.Nat
import Mathlib.Algebra.GroupWithZero.Nat

/-! Runs of a labelled transition system and pools of tasks. The system is a
partial function `step`; a run may be restricted to steps that meet a condition
`ok` on the state before the step. Nothing here knows what the system is. -/
namespace ScheduleSync

section Runs
variable {σ α : Type*} {step : σ → α → Option σ} {ok ok' : σ → α → Bool} {s s' : σ}

def Move (step : σ → α → Option σ) (ok : σ → α → Bool) (s t : σ) : Prop :=
  ∃ a, ok s a = true ∧ step s a = some t

/-- `t` is reached from `s` by a run whose steps all meet `ok`. -/
abbrev Reaches (step : σ → α → Option σ) (ok : σ → α → Bool) : σ → σ → Prop :=
  Relation.ReflTransGen (Move step ok)

def anyStep : σ → α → Bool := fun _ _ => true

theorem Reaches.invariant {I : σ → Prop} (h : Reaches step ok s s') (hs : I s)
    (hstep : ∀ s a s', ok s a = true → I s → step s a = some s' → I s') : I s' := by
  induction h with
  | refl => exact hs
  | tail _ hmove ih =>
    obtain ⟨a, hok, ha⟩ := hmove
    exact hstep _ a _ hok ih ha

theorem Reaches.mono (hok : ∀ s a, ok s a = true → ok' s a = true) (h : Reaches step ok s s') :
    Reaches step ok' s s' := by
  induction h with
  | refl => exact .refl
  | tail _ hmove ih =>
    obtain ⟨a, ha, hs⟩ := hmove
    exact ih.tail ⟨a, hok _ _ ha, hs⟩

/-- Execute a list of labels, checking the condition before every step. -/
def runWithin (step : σ → α → Option σ) (ok : σ → α → Bool) (s : σ) : List α → Option σ
  | [] => some s
  | a :: as => if ok s a then (step s a).bind fun t => runWithin step ok t as else none

theorem reaches_of_runWithin {as : List α} (h : runWithin step ok s as = some s') :
    Reaches step ok s s' := by
  induction as generalizing s with
  | nil => cases h; exact .refl
  | cons a as ih =>
    simp only [runWithin] at h
    split at h
    · rename_i hok
      obtain ⟨t, ht, hrest⟩ := Option.bind_eq_some_iff.mp h
      exact .head ⟨a, hok, ht⟩ (ih hrest)
    · cases h

/-- The state a list of labels leads to; the start when a step is refused. -/
def after (step : σ → α → Option σ) (ok : σ → α → Bool) (s : σ) (as : List α) : σ :=
  (runWithin step ok s as).getD s

theorem reaches_after {as : List α} (h : (runWithin step ok s as).isSome = true) :
    Reaches step ok s (after step ok s as) := by
  obtain ⟨t, ht⟩ := Option.isSome_iff_exists.mp h
  have hafter : after step ok s as = t := by simp [after, ht]
  rw [hafter]
  exact reaches_of_runWithin ht

end Runs

/-! A system with a record beside its state: what `event` sees of each step, newest first.
The record is never read, so its runs are those of the system. -/
section Records
variable {σ α ε : Type*} {step : σ → α → Option σ} {event : σ → α → Option ε}
  {ok : σ → α → Bool} {p q : σ × List ε} {a : α}

def recorded (step : σ → α → Option σ) (event : σ → α → Option ε) (p : σ × List ε) (a : α) :
    Option (σ × List ε) :=
  (step p.1 a).map fun t => (t, (event p.1 a).toList ++ p.2)

theorem recorded_eq_some (h : recorded step event p a = some q) :
    step p.1 a = some q.1 ∧ q.2 = (event p.1 a).toList ++ p.2 := by
  obtain ⟨t, ht, rfl⟩ := Option.map_eq_some_iff.mp h
  exact ⟨ht, rfl⟩

theorem Reaches.invariant_recorded {within : σ × List ε → α → Bool} {I : σ → List ε → Prop}
    (h : Reaches (recorded step event) within p q) (hp : I p.1 p.2)
    (hstep : ∀ s record a s', within (s, record) a = true → I s record → step s a = some s' →
      I s' ((event s a).toList ++ record)) : I q.1 q.2 := by
  refine h.invariant (I := fun p => I p.1 p.2) hp ?_
  intro p a q hok hp ha
  obtain ⟨ha, hrecord⟩ := recorded_eq_some ha
  rw [hrecord]
  exact hstep p.1 p.2 a q.1 hok hp ha

theorem reaches_recorded_after {within : σ × List ε → α → Bool} {as : List α}
    (h : (runWithin (recorded step event) within p as).isSome = true) :
    Reaches (recorded step event) within p
      ((after (recorded step event) within p as).1, (after (recorded step event) within p as).2) :=
  reaches_after h

theorem reaches_of_recorded (h : Reaches (recorded step event) (fun p => ok p.1) p q) :
    Reaches step ok p.1 q.1 := by
  induction h with
  | refl => exact .refl
  | tail _ hmove ih =>
    obtain ⟨a, hok, ha⟩ := hmove
    exact ih.tail ⟨a, hok, (recorded_eq_some ha).1⟩

end Records

/-! A pool keeps every task at the index it was started with: a step rewrites
one entry and appends what it spawns. -/
section Pools
variable {τ : Type*}

def pooled (ts : List τ) (i : Nat) (t : τ) (spawned : List τ) : List τ := ts.set i t ++ spawned

def tally (f : τ → Nat) (ts : List τ) : Nat := (ts.map f).sum

theorem tally_append (f : τ → Nat) (ts us : List τ) :
    tally f (ts ++ us) = tally f ts + tally f us := by
  simp [tally]

@[simp] theorem tally_nil (f : τ → Nat) : tally f [] = 0 := rfl

@[simp] theorem tally_singleton (f : τ → Nat) (t : τ) : tally f [t] = f t := by
  simp [tally]

theorem tally_set (f : τ → Nat) {ts : List τ} {i : Nat} {t : τ} (h : ts[i]? = some t) (t' : τ) :
    tally f (ts.set i t') + f t = tally f ts + f t' := by
  induction ts generalizing i with
  | nil => simp at h
  | cons u us ih =>
    cases i with
    | zero =>
      simp only [List.getElem?_cons_zero, Option.some.injEq] at h
      subst h
      simp only [tally, List.set_cons_zero, List.map_cons, List.sum_cons]
      omega
    | succ i =>
      have hus := ih (by simpa using h)
      simp only [tally, List.set_cons_succ, List.map_cons, List.sum_cons] at hus ⊢
      omega

theorem tally_pooled (f : τ → Nat) {ts : List τ} {i : Nat} {t : τ} (h : ts[i]? = some t)
    (t' : τ) (spawned : List τ) :
    tally f (pooled ts i t' spawned) + f t = tally f ts + f t' + tally f spawned := by
  have hset := tally_set f h t'
  rw [pooled, tally_append]
  omega

theorem le_tally (f : τ → Nat) {ts : List τ} {t : τ} (h : t ∈ ts) : f t ≤ tally f ts :=
  List.le_sum_of_mem (List.mem_map_of_mem h)

theorem tally_eq_zero {f : τ → Nat} {ts : List τ} : tally f ts = 0 ↔ ∀ t ∈ ts, f t = 0 := by
  simp [tally, List.sum_eq_zero_iff]

theorem exists_of_tally_pos {f : τ → Nat} {ts : List τ} (h : 0 < tally f ts) :
    ∃ t ∈ ts, 0 < f t := by
  by_contra hnone
  have hzero : tally f ts = 0 := by
    rw [tally_eq_zero]
    intro t ht
    by_contra hpos
    exact hnone ⟨t, ht, Nat.pos_of_ne_zero hpos⟩
  omega

theorem mem_of_getElem?_pool {ts : List τ} {i : Nat} {t : τ} (h : ts[i]? = some t) : t ∈ ts :=
  List.mem_of_getElem? h

theorem mem_pooled {ts : List τ} {i : Nat} {t u : τ} {spawned : List τ}
    (h : u ∈ pooled ts i t spawned) : u ∈ ts ∨ u = t ∨ u ∈ spawned := by
  cases List.mem_append.mp h with
  | inl h =>
    cases List.mem_or_eq_of_mem_set h with
    | inl h => exact .inl h
    | inr h => exact .inr (.inl h)
  | inr h => exact .inr (.inr h)

theorem getElem?_pooled_cases {ts : List τ} {i j : Nat} {t u : τ} {spawned : List τ}
    (h : (pooled ts i t spawned)[j]? = some u) : u = t ∨ ts[j]? = some u ∨ u ∈ spawned := by
  rw [pooled, List.getElem?_append] at h
  split at h
  · rw [List.getElem?_set] at h
    split at h
    · split at h
      · exact .inl (Option.some.inj h).symm
      · cases h
    · exact .inr (.inl h)
  · exact .inr (.inr (List.mem_of_getElem? h))

theorem mem_pooled_of_mem {ts : List τ} {i : Nat} {t u : τ} (h : ts[i]? = some t) (hu : u ∈ ts)
    (t' : τ) (spawned : List τ) : u = t ∨ u ∈ pooled ts i t' spawned := by
  obtain ⟨j, hj⟩ := List.mem_iff_getElem?.mp hu
  by_cases hij : i = j
  · subst hij
    exact .inl (Option.some.inj (hj.symm.trans h))
  · right
    refine List.mem_append_left _ (List.mem_iff_getElem?.mpr ⟨j, ?_⟩)
    rw [List.getElem?_set_ne hij]
    exact hj

theorem mem_pooled_self {ts : List τ} {i : Nat} {t t' : τ} {spawned : List τ}
    (h : ts[i]? = some t) : t' ∈ pooled ts i t' spawned := by
  obtain ⟨hlt, _⟩ := List.getElem?_eq_some_iff.mp h
  exact List.mem_append_left _ (List.mem_set hlt t')

theorem mem_pooled_spawned {ts : List τ} {i : Nat} {t' u : τ} {spawned : List τ}
    (hu : u ∈ spawned) : u ∈ pooled ts i t' spawned :=
  List.mem_append_right _ hu

theorem getElem?_pooled_of_ne {ts : List τ} {i j : Nat} {u : τ} (h : ts[i]? = some u) (hne : j ≠ i)
    (t' : τ) (spawned : List τ) : (pooled ts j t' spawned)[i]? = some u := by
  obtain ⟨hlt, _⟩ := List.getElem?_eq_some_iff.mp h
  rw [pooled, List.getElem?_append_left (by simpa using hlt), List.getElem?_set_ne hne]
  exact h

theorem getElem?_pooled_self {ts : List τ} {i : Nat} {t : τ} (h : ts[i]? = some t) (t' : τ)
    (spawned : List τ) : (pooled ts i t' spawned)[i]? = some t' := by
  obtain ⟨hlt, _⟩ := List.getElem?_eq_some_iff.mp h
  rw [pooled, List.getElem?_append_left (by simpa using hlt), List.getElem?_set_self hlt]

theorem of_getElem?_pooled_ne {ts : List τ} {i j : Nat} {t u : τ} {spawned : List τ}
    (h : (pooled ts i t spawned)[j]? = some u) (hne : j ≠ i) : ts[j]? = some u ∨ u ∈ spawned := by
  rw [pooled, List.getElem?_append] at h
  split at h
  · rw [List.getElem?_set_ne hne.symm] at h
    exact .inl h
  · exact .inr (List.mem_of_getElem? h)

theorem getElem?_newest {ts : List τ} {t u : τ} {j : Nat} (hj : ts.length ≤ j)
    (h : (ts ++ [t])[j]? = some u) : j = ts.length ∧ u = t := by
  obtain ⟨hlt, _⟩ := List.getElem?_eq_some_iff.mp h
  rw [List.length_append, List.length_singleton] at hlt
  have hlast : j = ts.length := by omega
  subst hlast
  rw [List.getElem?_concat_length] at h
  exact ⟨rfl, (Option.some.inj h).symm⟩

theorem forall_pooled {P : τ → Prop} {ts : List τ} {i : Nat} {t : τ} {spawned : List τ}
    (hts : ∀ u ∈ ts, P u) (ht : P t) (hsp : ∀ u ∈ spawned, P u) :
    ∀ u ∈ pooled ts i t spawned, P u := by
  intro u hu
  cases mem_pooled hu with
  | inl h => exact hts u h
  | inr h =>
    cases h with
    | inl h => exact h ▸ ht
    | inr h => exact hsp u h

end Pools
end ScheduleSync
