import Mathlib.Logic.Function.Basic
import Mathlib.Tactic.SplitIfs
import ScheduleSync.Clock

/-! The in-memory stores of the auth package: pending login PINs and the
sliding-window rate limiter. Each operation runs under the store's mutex and is
one atomic step; `now` is the clock reading it takes. -/
namespace ScheduleSync

structure PinEntry where
  pin : String
  attempts : Nat
  expiresAt : Int

/-- Entries keyed by the email in lower case. -/
structure PinStore where
  entries : String → Option PinEntry

def PinStore.empty : PinStore := ⟨fun _ => none⟩

inductive PinError where
  | notFound
  | expired
  | tooMany
  | incorrect (remaining : Nat)
deriving DecidableEq

def PinError.message : PinError → String
  | .notFound => "no PIN found for this email"
  | .expired => "PIN has expired"
  | .tooMany => "too many incorrect attempts"
  | .incorrect n => s!"incorrect PIN ({n} attempts remaining)"

namespace PinStore
variable (toLower : String → String) (s : PinStore)

def store (now : Int) (email pin : String) : PinStore :=
  ⟨Function.update s.entries (toLower email) (some ⟨pin, 0, now + pinExpiry⟩)⟩

/-- Verify: none is success, which removes the entry. -/
def verify (now : Int) (email pin : String) : PinStore × Option PinError :=
  let key := toLower email
  match s.entries key with
  | none => (s, some .notFound)
  | some e =>
    if e.expiresAt < now then (⟨Function.update s.entries key none⟩, some .expired)
    else if maxAttempts ≤ e.attempts then (s, some .tooMany)
    else if pin ≠ e.pin then
      (⟨Function.update s.entries key (some { e with attempts := e.attempts + 1 })⟩,
        some (.incorrect (maxAttempts - (e.attempts + 1))))
    else (⟨Function.update s.entries key none⟩, none)

def cleanup (now : Int) : PinStore :=
  ⟨fun k => (s.entries k).filter fun e => decide (now ≤ e.expiresAt)⟩

theorem verify_success {now : Int} {email pin : String}
    (h : (s.verify toLower now email pin).2 = none) :
    ∃ e, s.entries (toLower email) = some e ∧ e.pin = pin := by
  unfold verify at h
  cases hk : s.entries (toLower email) with
  | none => simp [hk] at h
  | some e =>
    refine ⟨e, rfl, ?_⟩
    by_contra hne
    simp only [hk] at h
    split_ifs at h with h₁ h₂ h₃
    exact h₃ fun h => hne h.symm

theorem verify_entries {now : Int} {email pin k : String} {e' : PinEntry}
    (h : (s.verify toLower now email pin).1.entries k = some e') :
    ∃ e, s.entries k = some e ∧ e.pin = e'.pin := by
  unfold verify at h
  cases hk : s.entries (toLower email) with
  | none => exact ⟨e', by simpa [hk] using h, rfl⟩
  | some e =>
    simp only [hk] at h
    by_cases hkey : k = toLower email
    · subst hkey
      refine ⟨e, hk, ?_⟩
      split_ifs at h <;> simp_all
      rw [← h]
    · refine ⟨e', ?_, rfl⟩
      split_ifs at h <;> simpa [Function.update_of_ne hkey] using h

theorem cleanup_entries {now : Int} {k : String} {e : PinEntry}
    (h : (s.cleanup now).entries k = some e) : s.entries k = some e := by
  simp only [cleanup, Option.filter_eq_some_iff] at h
  exact h.1

end PinStore

/-- Timestamps of the admitted calls of each key, oldest first. -/
structure RateLimiter where
  requests : String → List Int
  window : Int
  limit : Nat

def RateLimiter.new (limit : Nat) (window : Int) : RateLimiter := ⟨fun _ => [], window, limit⟩

/-- Allow, once the lock is held, for the clock reading `now`. -/
def RateLimiter.allow (rl : RateLimiter) (now : Int) (key : String) : RateLimiter × Bool :=
  let timestamps := (rl.requests key).dropWhile fun t => decide (t < now - rl.window)
  if rl.limit ≤ timestamps.length then
    ({ rl with requests := Function.update rl.requests key timestamps }, false)
  else
    ({ rl with requests := Function.update rl.requests key (timestamps ++ [now]) }, true)

def RateLimiter.sweep (rl : RateLimiter) (now : Int) : RateLimiter :=
  { rl with
    requests := fun k =>
      if (rl.requests k).getLast?.all fun t => decide (t < now - rl.window) then []
      else rl.requests k }

end ScheduleSync
