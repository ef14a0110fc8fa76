import Mathlib.Data.List.Forall2

/-! Programs that interact. A script makes a call, waits for the answer and goes on with it;
whoever answers is not part of it, so a fact about a script holds whatever the answers are.
Over scripts stand programs with variables and exceptions, where the variables survive an
exception. What they do is judged by a monitor that sees every call with its answer, or by
comparison with another program. -/
namespace ScheduleSync

universe u

/-- `E X` are the calls whose answers are in `X`. -/
inductive Script (E : Type → Type u) (α : Type) : Type (max 1 u)
  | done (a : α)
  | call {X : Type} (e : E X) (k : X → Script E α)

structure Exchange (E : Type → Type u) : Type (max 1 u) where
  {X : Type}
  call : E X
  answer : X

namespace Script
variable {E : Type → Type u} {α β γ : Type}

def bind : Script E α → (α → Script E β) → Script E β
  | done a, f => f a
  | call e k, f => call e fun x => (k x).bind f

/-- The exchanges `xs` lead from a script to what is left of it. -/
inductive Goes : Script E α → List (Exchange E) → Script E α → Prop
  | refl (s : Script E α) : Goes s [] s
  | call {X : Type} {e : E X} {k : X → Script E α} (x : X) {xs : List (Exchange E)} {t : Script E α}
      (h : Goes (k x) xs t) : Goes (call e k) (⟨e, x⟩ :: xs) t

theorem Goes.snoc {s : Script E α} {xs : List (Exchange E)} {X : Type} {e : E X} {k : X → Script E α}
    (h : Goes s xs (.call e k)) (x : X) : Goes s (xs ++ [⟨e, x⟩]) (k x) := by
  generalize ht : Script.call e k = t at h
  induction h with
  | refl s =>
    subst ht
    exact .call x (.refl (k x))
  | call y _ ih => exact .call y (ih ht)

/-- Whatever is answered: every call is accepted when it is made, in view of what a monitor has
seen until then, and `Q` holds of the result and what it has seen in the end. -/
def Obeys (see : γ → Exchange E → γ) (accept : γ → (X : Type) → E X → Prop) (Q : α → γ → Prop) :
    Script E α → γ → Prop
  | done a, g => Q a g
  | call e k, g => accept g _ e ∧ ∀ x, (k x).Obeys see accept Q (see g ⟨e, x⟩)

variable {see : γ → Exchange E → γ} {accept : γ → (X : Type) → E X → Prop} {P : α → γ → Prop}
  {Q : β → γ → Prop} {g : γ}

theorem Obeys.mono {P' : α → γ → Prop} {s : Script E α} (h : s.Obeys see accept P g)
    (himp : ∀ a g, P a g → P' a g) : s.Obeys see accept P' g := by
  induction s generalizing g with
  | done a => exact himp a g h
  | call e k ih => exact ⟨h.1, fun x => ih x (h.2 x)⟩

theorem Obeys.bind {s : Script E α} {f : α → Script E β} (h : s.Obeys see accept P g)
    (hf : ∀ a g, P a g → (f a).Obeys see accept Q g) : (s.bind f).Obeys see accept Q g := by
  induction s generalizing g with
  | done a => exact hf a g h
  | call e k ih => exact ⟨h.1, fun x => ih x (h.2 x)⟩

theorem Obeys.bind_congr {s : Script E α} {f f' : α → Script E β} (h : s.Obeys see accept P g)
    (hf : ∀ a g, P a g → f a = f' a) : s.bind f = s.bind f' := by
  induction s generalizing g with
  | done a => exact hf a g h
  | call e k ih =>
    refine congrArg (call e) (funext fun x => ?_)
    exact ih x (h.2 x)

theorem obeys_of_kept {I : γ → Prop} (hsee : ∀ g x, I g → I (see g x)) (s : Script E α) (hg : I g) :
    s.Obeys see (fun _ _ _ => True) (fun _ => I) g := by
  induction s generalizing g with
  | done a => exact hg
  | call e k ih => exact ⟨trivial, fun x => ih x (hsee g _ hg)⟩

theorem Obeys.goes {s t : Script E α} {xs : List (Exchange E)} (h : s.Obeys see accept P g)
    (hrun : Goes s xs t) :
    (∀ before x after, xs = before ++ x :: after → accept (before.foldl see g) x.X x.call) ∧
      t.Obeys see accept P (xs.foldl see g) := by
  induction hrun generalizing g with
  | refl s =>
    refine ⟨?_, h⟩
    intro before x after hxs
    simp at hxs
  | call x _ ih =>
    obtain ⟨haccept, ht⟩ := ih (h.2 x)
    refine ⟨?_, ht⟩
    intro before y after hxs
    cases before with
    | nil =>
      cases hxs
      exact h.1
    | cons z before =>
      cases hxs
      exact haccept before y after rfl

def play {ω : Type} (respond : ω → (X : Type) → E X → X × ω) : Script E α → ω → List (Exchange E) × α
  | done a, _ => ([], a)
  | call e k, w =>
    let (x, w) := respond w _ e
    let (xs, a) := (k x).play respond w
    (⟨e, x⟩ :: xs, a)

theorem goes_play {ω : Type} (respond : ω → (X : Type) → E X → X × ω) (s : Script E α) (w : ω) :
    Goes s (s.play respond w).1 (done (s.play respond w).2) := by
  induction s generalizing w with
  | done a => exact .refl _
  | call e k ih => exact .call _ (ih _ _)

/-! Two scripts step by step. `same` compares calls, `answers` the answers to a call. -/

section Compare
variable {same : (X : Type) → E X → E X → Prop} {answers : (X : Type) → E X → X → X → Prop}

inductive Alike (same : (X : Type) → E X → E X → Prop) (answers : (X : Type) → E X → X → X → Prop)
    (V : α → α → Prop) : Script E α → Script E α → Prop
  | done {a b : α} (h : V a b) : Alike same answers V (done a) (done b)
  | call {X : Type} {e e' : E X} {k k' : X → Script E α} (he : same X e e')
      (hk : ∀ x x', answers X e x x' → Alike same answers V (k x) (k' x')) :
      Alike same answers V (call e k) (call e' k')

theorem Alike.mono {V V' : α → α → Prop} {s s' : Script E α} (h : Alike same answers V s s')
    (himp : ∀ a b, V a b → V' a b) : Alike same answers V' s s' := by
  induction h with
  | done hab => exact .done (himp _ _ hab)
  | call he _ ih => exact .call he ih

theorem Alike.bind {V : α → α → Prop} {W : β → β → Prop} {s s' : Script E α} {f f' : α → Script E β}
    (h : Alike same answers V s s') (hf : ∀ a b, V a b → Alike same answers W (f a) (f' b)) :
    Alike same answers W (s.bind f) (s'.bind f') := by
  induction h with
  | done hab => exact hf _ _ hab
  | call he _ ih => exact .call he fun x x' hx => ih x x' hx

/-- The two exchanges are of one kind, with calls and answers that compare. -/
inductive Exchange.Similar (same : (X : Type) → E X → E X → Prop)
    (answers : (X : Type) → E X → X → X → Prop) : Exchange E → Exchange E → Prop
  | mk {X : Type} {e e' : E X} {x x' : X} (he : same X e e') (hx : answers X e x x') :
      Similar same answers ⟨e, x⟩ ⟨e', x'⟩

/-- A run of the one is a run of the other, when every answer has one that compares. -/
theorem Alike.goes {V : α → α → Prop} {s s' t : Script E α} {xs : List (Exchange E)}
    (h : Alike same answers V s s') (htotal : ∀ (X : Type) (e : E X) (x : X), ∃ x', answers X e x x')
    (hrun : Goes s xs t) :
    ∃ xs' t', Goes s' xs' t' ∧ List.Forall₂ (Exchange.Similar same answers) xs xs' ∧
      Alike same answers V t t' := by
  induction hrun generalizing s' with
  | refl s => exact ⟨[], s', .refl s', .nil, h⟩
  | call x _ ih =>
    cases h with
    | call he hk =>
      obtain ⟨x', hx⟩ := htotal _ _ x
      obtain ⟨xs', t', hrun', hsim, ht⟩ := ih (hk x x' hx)
      exact ⟨_, t', .call x' hrun', .cons (.mk he hx) hsim, ht⟩

end Compare
end Script

/-! Variables and exceptions. -/

def Prog (E : Type → Type u) (σ ε α : Type) : Type (max 1 u) := σ → Script E (Except ε α × σ)

namespace Prog
variable {E : Type → Type u} {σ ε α β γ : Type}

def pure (a : α) : Prog E σ ε α := fun s => .done (.ok a, s)

def bind (p : Prog E σ ε α) (f : α → Prog E σ ε β) : Prog E σ ε β := fun s =>
  (p s).bind fun
    | (.ok a, s) => f a s
    | (.error e, s) => .done (.error e, s)

instance : Monad (Prog E σ ε) where
  pure := pure
  bind := bind

def throw (e : ε) : Prog E σ ε α := fun s => .done (.error e, s)

def ofExcept (r : Except ε α) : Prog E σ ε α := fun s => .done (r, s)

def attempt (p : Prog E σ ε α) (handler : ε → Prog E σ ε α) : Prog E σ ε α := fun s =>
  (p s).bind fun
    | (.ok a, s) => .done (.ok a, s)
    | (.error e, s) => handler e s

def ensuring (p : Prog E σ ε α) (final : Prog E σ ε Unit) : Prog E σ ε α := fun s =>
  (p s).bind fun (r, s) => (final s).bind fun
    | (.ok _, s) => .done (r, s)
    | (.error e, s) => .done (.error e, s)

def gets (f : σ → α) : Prog E σ ε α := fun s => .done (.ok (f s), s)

def modify (f : σ → σ) : Prog E σ ε Unit := fun s => .done (.ok (), f s)

def ask {X : Type} (e : E X) : Prog E σ ε X := fun s => .call e fun x => .done (.ok x, s)

/-! What a program does under a monitor. -/

section Monitor
variable {see : γ → Exchange E → γ} {accept : γ → (X : Type) → E X → Prop}

def Meets (see : γ → Exchange E → γ) (accept : γ → (X : Type) → E X → Prop) (P : σ → γ → Prop) (p : Prog E σ ε α)
    (Q : Except ε α → σ → γ → Prop) : Prop :=
  ∀ s g, P s g → (p s).Obeys see accept (fun r g => Q r.1 r.2 g) g

variable {P P' : σ → γ → Prop} {p : Prog E σ ε α} {f : α → Prog E σ ε β} {M : Except ε α → σ → γ → Prop}
  {Q : Except ε β → σ → γ → Prop}

theorem Meets.weaken {M' : Except ε α → σ → γ → Prop} (h : Meets see accept P p M)
    (hpre : ∀ s g, P' s g → P s g) (hpost : ∀ r s g, M r s g → M' r s g) : Meets see accept P' p M' :=
  fun s g hs => (h s g (hpre s g hs)).mono fun _ _ hr => hpost _ _ _ hr

theorem meets_pure {a : α} (h : ∀ s g, P s g → M (.ok a) s g) : Meets see accept P (pure a : Prog E σ ε α) M := h

theorem meets_ofExcept {r : Except ε α} (h : ∀ s g, P s g → M r s g) :
    Meets see accept P (ofExcept r : Prog E σ ε α) M := h

theorem meets_throw {e : ε} (h : ∀ s g, P s g → M (.error e) s g) :
    Meets see accept P (throw e : Prog E σ ε α) M := h

theorem meets_gets {f : σ → α} (h : ∀ s g, P s g → M (.ok (f s)) s g) :
    Meets see accept P (gets f : Prog E σ ε α) M := h

theorem meets_modify {f : σ → σ} {M : Except ε Unit → σ → γ → Prop}
    (h : ∀ s g, P s g → M (.ok ()) (f s) g) : Meets see accept P (modify f : Prog E σ ε Unit) M := h

theorem meets_ask {X : Type} {e : E X} {M : Except ε X → σ → γ → Prop}
    (h : ∀ s g, P s g → accept g X e ∧ ∀ x, M (.ok x) s (see g ⟨e, x⟩)) :
    Meets see accept P (ask e : Prog E σ ε X) M := h

theorem Meets.bind (hp : Meets see accept P p M) (hok : ∀ a, Meets see accept (M (.ok a)) (f a) Q)
    (herror : ∀ e s g, M (.error e) s g → Q (.error e) s g) : Meets see accept P (p.bind f) Q := by
  intro s g hs
  refine (hp s g hs).bind ?_
  rintro ⟨r, s⟩ g hr
  cases r with
  | ok a => exact hok a s g hr
  | error e => exact herror e s g hr

def Gives (N : α → σ → γ → Prop) : Except ε α → σ → γ → Prop
  | .ok a => N a
  | .error _ => fun _ _ => False

theorem Meets.then {N : α → σ → γ → Prop} (hp : Meets see accept P p (Gives N))
    (hf : ∀ a, Meets see accept (N a) (f a) Q) : Meets see accept P (p.bind f) Q :=
  Meets.bind hp hf fun _ _ _ h => h.elim

theorem Meets.attempt {M' : Except ε α → σ → γ → Prop} {handler : ε → Prog E σ ε α} (hp : Meets see accept P p M)
    (hok : ∀ a s g, M (.ok a) s g → M' (.ok a) s g)
    (herror : ∀ e, Meets see accept (M (.error e)) (handler e) M') : Meets see accept P (p.attempt handler) M' := by
  intro s g hs
  refine (hp s g hs).bind ?_
  rintro ⟨r, s⟩ g hr
  cases r with
  | ok a => exact hok a s g hr
  | error e => exact herror e s g hr

def Finally (N : Except ε α → σ → γ → Prop) (r : Except ε α) : Except ε Unit → σ → γ → Prop
  | .ok _ => N r
  | .error e => N (.error e)

theorem Meets.ensuring {N : Except ε α → σ → γ → Prop} {final : Prog E σ ε Unit} (hp : Meets see accept P p M)
    (hfinal : ∀ r, Meets see accept (M r) final (Finally N r)) : Meets see accept P (p.ensuring final) N := by
  intro s g hs
  refine (hp s g hs).bind ?_
  rintro ⟨r, s⟩ g hr
  refine (hfinal r s g hr).bind ?_
  rintro ⟨r', s⟩ g hr'
  cases r' with
  | ok a => exact hr'
  | error e => exact hr'

abbrev Keeps (see : γ → Exchange E → γ) (accept : γ → (X : Type) → E X → Prop) (P : σ → γ → Prop)
    (p : Prog E σ ε α) : Prop :=
  Meets see accept P p fun _ => P

theorem Keeps.bind (hp : Keeps see accept P p) (hf : ∀ a, Keeps see accept P (f a)) : Keeps see accept P (p.bind f) :=
  Meets.bind hp hf fun _ _ _ h => h

theorem keeps_of_kept {I : γ → Prop} (hsee : ∀ g x, I g → I (see g x)) (p : Prog E σ ε α) :
    Keeps see (fun _ _ _ => True) (fun _ => I) p := fun s _ hg => Script.obeys_of_kept hsee (p s) hg

theorem Keeps.attempt {handler : ε → Prog E σ ε α} (hp : Keeps see accept P p)
    (hhandler : ∀ e, Keeps see accept P (handler e)) : Keeps see accept P (p.attempt handler) :=
  Meets.attempt hp (fun _ _ _ h => h) hhandler

end Monitor

/-! Two programs that start with the same variables. -/

section Compare
variable {same : (X : Type) → E X → E X → Prop} {answers : (X : Type) → E X → X → X → Prop}

/-- Both throw the same, or return what `V` relates. -/
inductive Returns (V : α → α → Prop) : Except ε α → Except ε α → Prop
  | ok {a b : α} (h : V a b) : Returns V (.ok a) (.ok b)
  | error (e : ε) : Returns V (.error e) (.error e)

theorem returns_refl (r : Except ε α) : Returns Eq r r := by
  cases r with
  | ok a => exact .ok rfl
  | error e => exact .error e

/-- From variables with `I` the programs go on alike, and end with the same variables with `J`. -/
def Alike (same : (X : Type) → E X → E X → Prop) (answers : (X : Type) → E X → X → X → Prop)
    (I J : σ → Prop) (V : α → α → Prop) (p p' : Prog E σ ε α) : Prop :=
  ∀ s, I s → Script.Alike same answers (fun r r' => Returns V r.1 r'.1 ∧ r.2 = r'.2 ∧ J r.2) (p s) (p' s)

variable {I J K : σ → Prop} {V : α → α → Prop} {W : β → β → Prop} {p p' : Prog E σ ε α}
  {f f' : α → Prog E σ ε β}

theorem alike_pure {a b : α} (h : V a b) : Alike same answers I I V (pure a : Prog E σ ε α) (pure b) :=
  fun _ hs => .done ⟨.ok h, rfl, hs⟩

theorem alike_throw (e : ε) : Alike same answers I I V (throw e : Prog E σ ε α) (throw e) :=
  fun _ hs => .done ⟨.error e, rfl, hs⟩

theorem alike_ofExcept {r r' : Except ε α} (h : Returns V r r') :
    Alike same answers I I V (ofExcept r : Prog E σ ε α) (ofExcept r') :=
  fun _ hs => .done ⟨h, rfl, hs⟩

theorem alike_gets (read : σ → α) : Alike same answers I I Eq (gets read : Prog E σ ε α) (gets read) :=
  fun _ hs => .done ⟨.ok rfl, rfl, hs⟩

theorem alike_modify {change : σ → σ} (h : ∀ s, I s → J (change s)) :
    Alike same answers I J Eq (modify change : Prog E σ ε Unit) (modify change) :=
  fun s hs => .done ⟨.ok rfl, rfl, h s hs⟩

theorem alike_ask {X : Type} {V : X → X → Prop} {e e' : E X} (he : same X e e')
    (h : ∀ x x', answers X e x x' → V x x') :
    Alike same answers I I V (ask e : Prog E σ ε X) (ask e') :=
  fun _ hs => .call he fun x x' hx => .done ⟨.ok (h x x' hx), rfl, hs⟩

theorem Alike.bind (h : Alike same answers I K V p p')
    (hf : ∀ a b, V a b → Alike same answers K J W (f a) (f' b)) (herror : ∀ s, K s → J s) :
    Alike same answers I J W (p.bind f) (p'.bind f') := by
  intro s hs
  refine (h s hs).bind ?_
  rintro ⟨r, s⟩ ⟨r', _⟩ ⟨hr, rfl, hK⟩
  cases hr with
  | ok hab => exact hf _ _ hab s hK
  | error e => exact .done ⟨.error e, rfl, herror s hK⟩

theorem Alike.attempt {handler handler' : ε → Prog E σ ε α} (h : Alike same answers I J V p p')
    (hhandler : ∀ e, Alike same answers J J V (handler e) (handler' e)) :
    Alike same answers I J V (p.attempt handler) (p'.attempt handler') := by
  intro s hs
  refine (h s hs).bind ?_
  rintro ⟨r, s⟩ ⟨r', _⟩ ⟨hr, rfl, hJ⟩
  cases hr with
  | ok hab => exact .done ⟨.ok hab, rfl, hJ⟩
  | error e => exact hhandler e s hJ

theorem Alike.ensuring {U : Unit → Unit → Prop} {final final' : Prog E σ ε Unit}
    (h : Alike same answers I J V p p') (hfinal : Alike same answers J J U final final') :
    Alike same answers I J V (p.ensuring final) (p'.ensuring final') := by
  intro s hs
  refine (h s hs).bind ?_
  rintro ⟨r, s⟩ ⟨r', _⟩ ⟨hr, rfl, hJ⟩
  refine (hfinal s hJ).bind ?_
  rintro ⟨q, s⟩ ⟨q', _⟩ ⟨hq, rfl, hJ'⟩
  cases hq with
  | ok => exact .done ⟨hr, rfl, hJ'⟩
  | error e => exact .done ⟨.error e, rfl, hJ'⟩

end Compare
end Prog
end ScheduleSync
