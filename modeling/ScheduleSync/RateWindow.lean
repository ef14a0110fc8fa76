import Mathlib.Tactic.ByContra
import ScheduleSync.PinStore
import ScheduleSync.Transition

/-! The rate limiter under concurrency. Allow and the sweep read the clock before
they take the lock, so other calls with later readings may come in between. -/
namespace ScheduleSync

/-- A limiter with the Allow calls and sweeps that have read the clock and wait for
the lock, and the timestamps of the calls that returned true, newest first. -/
structure LimiterRun where
  clock : Int
  rl : RateLimiter
  calls : List (String × Int)
  sweeps : List Int
  admitted : List (String × Int)

inductive LimiterAction where
  | advance (d : Nat)
  | call (key : String)
  | allow (i : Nat)
  | tick
  | sweep (i : Nat)

def LimiterRun.start (limit : Nat) (window clock : Int) : LimiterRun :=
  ⟨clock, .new limit window, [], [], []⟩

def LimiterRun.step (r : LimiterRun) : LimiterAction → Option LimiterRun
  | .advance d => some { r with clock := r.clock + d }
  | .call key => some { r with calls := r.calls ++ [(key, r.clock)] }
  | .allow i =>
    match r.calls[i]? with
    | none => none
    | some (key, now) =>
      let (rl, ok) := r.rl.allow now key
      some { r with
        rl := rl, calls := r.calls.eraseIdx i
        admitted := if ok then (key, now) :: r.admitted else r.admitted }
  | .tick => some { r with sweeps := r.sweeps ++ [r.clock] }
  | .sweep i =>
    match r.sweeps[i]? with
    | none => none
    | some now => some { r with rl := r.rl.sweep now, sweeps := r.sweeps.eraseIdx i }

/-- Calls for the key with a timestamp from `a` to `b`. -/
def admittedWithin (key : String) (a b : Int) (admitted : List (String × Int)) : Nat :=
  admitted.countP fun c => c.1 == key && decide (a ≤ c.2 ∧ c.2 ≤ b)

/-- Calls for the key with a timestamp of at least `a`. -/
def admittedSince (key : String) (a : Int) (admitted : List (String × Int)) : Nat :=
  admitted.countP fun c => c.1 == key && decide (a ≤ c.2)

/-- A call finds in the limiter all timestamps of its key that its window, counted
from its own reading, needs: none of them was pruned by a call or dropped by a sweep
with a later reading. -/
def LimiterRun.keeps (r : LimiterRun) : LimiterAction → Bool
  | .allow i =>
    r.calls[i]?.all fun c =>
      decide (admittedSince c.1 (c.2 - r.rl.window) r.admitted ≤
        (r.rl.requests c.1).countP fun t => decide (c.2 - r.rl.window ≤ t))
  | _ => true

namespace RateLimiter
variable (rl : RateLimiter) (now : Int) (key : String)

@[simp] theorem allow_limit : (rl.allow now key).1.limit = rl.limit := by
  unfold allow
  dsimp only
  split_ifs <;> rfl

@[simp] theorem allow_window : (rl.allow now key).1.window = rl.window := by
  unfold allow
  dsimp only
  split_ifs <;> rfl

theorem countP_pruned (ts : List Int) (cutoff : Int) :
    (ts.dropWhile fun t => decide (t < cutoff)).countP (fun t => decide (cutoff ≤ t)) =
      ts.countP fun t => decide (cutoff ≤ t) := by
  induction ts with
  | nil => rfl
  | cons t ts ih =>
    by_cases h : t < cutoff
    · have hge : ¬ cutoff ≤ t := by omega
      simp [h, hge, ih]
    · simp [h]

theorem countP_of_allow (h : (rl.allow now key).2 = true) :
    (rl.requests key).countP (fun t => decide (now - rl.window ≤ t)) < rl.limit := by
  unfold allow at h
  dsimp only at h
  split_ifs at h with hfull
  rw [← countP_pruned]
  have hle := List.countP_le_length (p := fun t => decide (now - rl.window ≤ t))
    (l := (rl.requests key).dropWhile fun t => decide (t < now - rl.window))
  omega

end RateLimiter

section Window
variable {key : String} {a b t : Int} {admitted : List (String × Int)}

theorem admittedWithin_le_since : admittedWithin key a b admitted ≤ admittedSince key a admitted := by
  refine List.countP_mono_left fun c _ hc => ?_
  simp only [Bool.and_eq_true, decide_eq_true_eq] at hc ⊢
  exact ⟨hc.1, hc.2.1⟩

theorem admittedSince_anti (h : a ≤ b) : admittedSince key b admitted ≤ admittedSince key a admitted := by
  refine List.countP_mono_left fun c _ hc => ?_
  simp only [Bool.and_eq_true, decide_eq_true_eq] at hc ⊢
  exact ⟨hc.1, by omega⟩

theorem admittedWithin_cons (c : String × Int) :
    admittedWithin key a b (c :: admitted) =
      admittedWithin key a b admitted + if c.1 = key ∧ a ≤ c.2 ∧ c.2 ≤ b then 1 else 0 := by
  simp [admittedWithin, List.countP_cons]

theorem admittedSince_cons (c : String × Int) :
    admittedSince key a (c :: admitted) =
      admittedSince key a admitted + if c.1 = key ∧ a ≤ c.2 then 1 else 0 := by
  simp [admittedSince, List.countP_cons]

end Window

/-- No key has more than `limit` admitted calls in a closed interval of length `window`. -/
structure LimiterRun.Limited (limit : Nat) (window : Int) (r : LimiterRun) : Prop where
  limit_eq : r.rl.limit = limit
  window_eq : r.rl.window = window
  bound : ∀ key a, admittedWithin key a (a + window) r.admitted ≤ limit

namespace LimiterRun
variable {limit : Nat} {window : Int} {r r' : LimiterRun} {a : LimiterAction}

theorem limited_step (h : r.Limited limit window) (hkeeps : r.keeps a = true)
    (hstep : r.step a = some r') : r'.Limited limit window := by
  cases a with
  | advance d =>
    cases hstep
    exact ⟨h.limit_eq, h.window_eq, h.bound⟩
  | call key =>
    cases hstep
    exact ⟨h.limit_eq, h.window_eq, h.bound⟩
  | tick =>
    cases hstep
    exact ⟨h.limit_eq, h.window_eq, h.bound⟩
  | sweep i =>
    simp only [step] at hstep
    split at hstep
    · cases hstep
    · cases hstep
      exact ⟨h.limit_eq, h.window_eq, h.bound⟩
  | allow i =>
    simp only [step] at hstep
    split at hstep
    · cases hstep
    · rename_i key now hcall
      cases hstep
      refine ⟨by simpa using h.limit_eq, by simpa using h.window_eq, fun k lo => ?_⟩
      have hold := h.bound k lo
      dsimp only
      split_ifs with hok
      · rw [admittedWithin_cons]
        split_ifs with hin
        · -- the new timestamp is in the interval, so all of it is in the call's window
          obtain ⟨hk, hlo, hhi⟩ := hin
          dsimp only at hk hlo hhi
          subst hk
          have hfound : admittedSince key (now - window) r.admitted < limit := by
            have hkept : admittedSince key (now - r.rl.window) r.admitted ≤
                (r.rl.requests key).countP fun t => decide (now - r.rl.window ≤ t) := by
              simpa [keeps, hcall] using hkeeps
            have hroom := r.rl.countP_of_allow now key hok
            rw [h.window_eq] at hkept hroom
            rw [h.limit_eq] at hroom
            omega
          have hinterval : admittedWithin key lo (lo + window) r.admitted ≤
              admittedSince key (now - window) r.admitted :=
            admittedWithin_le_since.trans (admittedSince_anti (by omega))
          omega
        · omega
      · exact hold

end LimiterRun

/-- While every call finds the timestamps its window needs, no closed interval of the
window's length has more than `limit` admitted calls of one key. -/
theorem limiter_bound {limit : Nat} {window clock : Int} {r : LimiterRun}
    (h : Reaches LimiterRun.step LimiterRun.keeps (.start limit window clock) r) :
    ∀ key a, admittedWithin key a (a + window) r.admitted ≤ limit := by
  have hlimited : r.Limited limit window :=
    h.invariant (I := LimiterRun.Limited limit window) ⟨rfl, rfl, fun _ _ => Nat.zero_le _⟩
      fun _ _ _ hok hs hstep => LimiterRun.limited_step hs hok hstep
  exact hlimited.bound

def crossedCalls : List LimiterAction :=
  [.call "1.2.3.4", .advance 1, .call "1.2.3.4", .allow 1, .allow 0]

theorem limiter_bound_crossed :
    admittedWithin "1.2.3.4" 0 10
      (after LimiterRun.step LimiterRun.keeps (.start 2 10 0) crossedCalls).admitted ≤ 2 := by
  have hrun : Reaches LimiterRun.step LimiterRun.keeps (.start 2 10 0)
      (after LimiterRun.step LimiterRun.keeps (.start 2 10 0) crossedCalls) :=
    reaches_after (by decide +kernel)
  exact limiter_bound hrun "1.2.3.4" 0

def staleReading : List LimiterAction :=
  [.call "1.2.3.4", .allow 0, .advance 1, .call "1.2.3.4", .allow 0, .advance 4,
    .call "1.2.3.4", .advance 7, .call "1.2.3.4", .allow 1, .allow 0]

theorem limiter_exceeded :
    (∃ r, Reaches LimiterRun.step anyStep (.start 2 10 0) r ∧
      r.admitted = [("1.2.3.4", 5), ("1.2.3.4", 12), ("1.2.3.4", 1), ("1.2.3.4", 0)]) ∧
    ¬ ∀ r, Reaches LimiterRun.step anyStep (.start 2 10 0) r →
      ∀ key a, admittedWithin key a (a + 10) r.admitted ≤ 2 := by
  have hrun : Reaches LimiterRun.step anyStep (.start 2 10 0)
      (after LimiterRun.step anyStep (.start 2 10 0) staleReading) :=
    reaches_after (by decide +kernel)
  refine ⟨⟨_, hrun, by decide +kernel⟩, fun hall => ?_⟩
  have hbound := hall _ hrun "1.2.3.4" (-1)
  revert hbound
  decide +kernel

end ScheduleSync
