import Mathlib.Data.List.Pairwise
import ScheduleSync.RateWindow

/-! The rate limiter without its optimisations: one that never forgets a call and counts
those of the window. As long as readings do not go back from one holder of the lock to the
next, no caller can tell it from the limiter that prunes and sweeps. -/
namespace ScheduleSync

/-- A critical section of the limiter, with the reading of the clock made for it. -/
inductive LimiterOp where
  | allow (key : String) (now : Int)
  | sweep (now : Int)
deriving DecidableEq

def LimiterOp.time : LimiterOp → Int
  | .allow _ now => now
  | .sweep now => now

def LimiterOp.isCall : LimiterOp → Bool
  | .allow _ _ => true
  | .sweep _ => false

def LimiterOp.isCallOf (key : String) : LimiterOp → Bool
  | .allow k _ => k == key
  | .sweep _ => false

/-- No call has a reading before that of an earlier call or sweep. -/
def InLockOrder (ops : List LimiterOp) : Prop :=
  ops.Pairwise fun a b => b.isCall = true → a.time ≤ b.time

instance : DecidablePred InLockOrder := fun ops =>
  inferInstanceAs (Decidable (ops.Pairwise fun a b => b.isCall = true → a.time ≤ b.time))

structure AnsweredCall where
  key : String
  time : Int
  admitted : Bool
deriving DecidableEq

def RateLimiter.answers (rl : RateLimiter) : List LimiterOp → List AnsweredCall
  | [] => []
  | .allow key now :: ops => ⟨key, now, (rl.allow now key).2⟩ :: (rl.allow now key).1.answers ops
  | .sweep now :: ops => (rl.sweep now).answers ops

structure NaiveLimiter where
  admitted : List (String × Int)
  window : Int
  limit : Nat

def NaiveLimiter.new (limit : Nat) (window : Int) : NaiveLimiter := ⟨[], window, limit⟩

def NaiveLimiter.allow (nl : NaiveLimiter) (now : Int) (key : String) : NaiveLimiter × Bool :=
  if admittedSince key (now - nl.window) nl.admitted < nl.limit then
    ({ nl with admitted := (key, now) :: nl.admitted }, true)
  else (nl, false)

def NaiveLimiter.answers (nl : NaiveLimiter) : List LimiterOp → List AnsweredCall
  | [] => []
  | .allow key now :: ops => ⟨key, now, (nl.allow now key).2⟩ :: (nl.allow now key).1.answers ops
  | .sweep _ :: ops => nl.answers ops

/-- From `time` on the limiter counts what the history of admitted calls says. -/
structure Tracks (rl : RateLimiter) (admitted : List (String × Int)) (time : Int) : Prop where
  sorted : ∀ key, (rl.requests key).Pairwise (· ≤ ·)
  past : ∀ key, ∀ t ∈ rl.requests key, t ≤ time
  counts : ∀ key now, time ≤ now →
    (rl.requests key).countP (fun t => decide (now - rl.window ≤ t)) =
      admittedSince key (now - rl.window) admitted

section Tracks
variable {rl : RateLimiter} {admitted : List (String × Int)} {time now : Int} {key : String} {ts : List Int}

theorem tracks_new (limit : Nat) (window time : Int) : Tracks (.new limit window) [] time :=
  ⟨fun _ => .nil, fun _ _ ht => absurd ht List.not_mem_nil, fun _ _ _ => rfl⟩

theorem Tracks.mono (h : Tracks rl admitted time) (hle : time ≤ now) : Tracks rl admitted now :=
  ⟨h.sorted, fun key t ht => (h.past key t ht).trans hle, fun key later hlater =>
    h.counts key later (hle.trans hlater)⟩

theorem length_pruned (h : ts.Pairwise (· ≤ ·)) (cutoff : Int) :
    (ts.dropWhile fun t => decide (t < cutoff)).length = ts.countP fun t => decide (cutoff ≤ t) := by
  induction ts with
  | nil => rfl
  | cons t ts ih =>
    obtain ⟨hle, hts⟩ := List.pairwise_cons.mp h
    by_cases ht : t < cutoff
    · have hstale : ¬ cutoff ≤ t := by omega
      simp [ht, hstale, ih hts]
    · have hall : ∀ u ∈ t :: ts, decide (cutoff ≤ u) = true := by
        intro u hu
        rcases List.mem_cons.mp hu with rfl | hu
        · exact decide_eq_true (by omega)
        · have hge := hle u hu
          exact decide_eq_true (by omega)
      rw [List.dropWhile_cons_of_neg (by simpa using ht), List.countP_eq_length.mpr hall]

theorem countP_pruned_later {cutoff later : Int} (hle : cutoff ≤ later) :
    (ts.dropWhile fun t => decide (t < cutoff)).countP (fun t => decide (later ≤ t)) =
      ts.countP fun t => decide (later ≤ t) := by
  induction ts with
  | nil => rfl
  | cons t ts ih =>
    by_cases ht : t < cutoff
    · have hstale : ¬ later ≤ t := by omega
      simp [ht, hstale, ih]
    · rw [List.dropWhile_cons_of_neg (by simpa using ht)]

theorem Tracks.allow_snd (h : Tracks rl admitted time) (hnow : time ≤ now) :
    (rl.allow now key).2 = decide (admittedSince key (now - rl.window) admitted < rl.limit) := by
  unfold RateLimiter.allow
  dsimp only
  rw [length_pruned (h.sorted key), h.counts key now hnow]
  split_ifs with hfull
  · exact (decide_eq_false (by omega)).symm
  · exact (decide_eq_true (by omega)).symm

theorem allow_requests_self : (rl.allow now key).1.requests key =
    (rl.requests key).dropWhile (fun t => decide (t < now - rl.window)) ++
      if (rl.allow now key).2 = true then [now] else [] := by
  unfold RateLimiter.allow
  dsimp only
  split_ifs with hfull hfalse <;> simp_all

theorem allow_requests_other {other : String} (hne : other ≠ key) :
    (rl.allow now key).1.requests other = rl.requests other := by
  unfold RateLimiter.allow
  dsimp only
  split_ifs <;> exact Function.update_of_ne hne _ _

theorem Tracks.allow (h : Tracks rl admitted time) (key : String) (hnow : time ≤ now) :
    Tracks (rl.allow now key).1
      (if (rl.allow now key).2 = true then (key, now) :: admitted else admitted) now := by
  have hmem : ∀ t ∈ (rl.requests key).dropWhile (fun t => decide (t < now - rl.window)), t ≤ now :=
    fun t ht => (h.past key t (List.dropWhile_subset _ ht)).trans hnow
  refine ⟨fun other => ?_, fun other t ht => ?_, fun other later hlater => ?_⟩
  · by_cases hkey : other = key
    · subst hkey
      rw [allow_requests_self]
      refine List.pairwise_append.mpr ⟨(h.sorted other).sublist (List.dropWhile_sublist _), ?_, ?_⟩
      · split_ifs <;> simp
      · intro t ht u hu
        split_ifs at hu
        · exact (hmem t ht).trans (List.mem_singleton.mp hu).ge
        · exact absurd hu List.not_mem_nil
    · rw [allow_requests_other hkey]
      exact h.sorted other
  · by_cases hkey : other = key
    · subst hkey
      rw [allow_requests_self, List.mem_append] at ht
      rcases ht with hold | hnew
      · exact hmem t hold
      · split_ifs at hnew
        · exact (List.mem_singleton.mp hnew).le
        · exact absurd hnew List.not_mem_nil
    · rw [allow_requests_other hkey] at ht
      exact (h.past other t ht).trans hnow
  · rw [RateLimiter.allow_window]
    by_cases hkey : other = key
    · subst hkey
      rw [allow_requests_self, List.countP_append, countP_pruned_later (by omega),
        h.counts other later (hnow.trans hlater)]
      split_ifs with hok
      · rw [admittedSince_cons]
        simp [List.countP_singleton]
      · rfl
    · rw [allow_requests_other hkey, h.counts other later (hnow.trans hlater)]
      split_ifs with hok
      · rw [admittedSince_cons, if_neg fun heq => hkey heq.1.symm, Nat.add_zero]
      · rfl

theorem Tracks.sweep (h : Tracks rl admitted time) (now : Int) :
    Tracks (rl.sweep now) admitted (max time now) := by
  refine ⟨fun key => ?_, fun key t ht => ?_, fun key later hlater => ?_⟩
  · simp only [RateLimiter.sweep]
    split_ifs
    · exact .nil
    · exact h.sorted key
  · simp only [RateLimiter.sweep] at ht
    split_ifs at ht
    · exact absurd ht List.not_mem_nil
    · exact (h.past key t ht).trans (le_max_left _ _)
  · have hcounts := h.counts key later ((le_max_left _ _).trans hlater)
    simp only [RateLimiter.sweep]
    split_ifs with hstale
    · rw [← hcounts, List.countP_nil, eq_comm, List.countP_eq_zero]
      intro t ht hin
      have hne : rl.requests key ≠ [] := List.ne_nil_of_mem ht
      rw [List.getLast?_eq_some_getLast hne] at hstale
      have hlast : (rl.requests key).getLast hne < now - rl.window := of_decide_eq_true hstale
      have hle := (h.sorted key).rel_getLast ht
      have hge := of_decide_eq_true hin
      omega
    · exact hcounts

end Tracks

section Answers
variable {rl : RateLimiter} {nl nl' : NaiveLimiter} {admitted : List (String × Int)} {time : Int}
  {key : String} {ops : List LimiterOp}

theorem NaiveLimiter.allow_snd (now : Int) :
    (nl.allow now key).2 = decide (admittedSince key (now - nl.window) nl.admitted < nl.limit) := by
  unfold NaiveLimiter.allow
  split_ifs with hroom
  · exact (decide_eq_true hroom).symm
  · exact (decide_eq_false hroom).symm

theorem NaiveLimiter.allow_fst (now : Int) : (nl.allow now key).1 = ⟨if (nl.allow now key).2 = true then
    (key, now) :: nl.admitted else nl.admitted, nl.window, nl.limit⟩ := by
  unfold NaiveLimiter.allow
  split_ifs with hroom hfalse <;> simp_all

theorem answers_eq (h : Tracks rl admitted time) (hops : InLockOrder ops)
    (htimes : ∀ op ∈ ops, op.isCall = true → time ≤ op.time) :
    rl.answers ops = (NaiveLimiter.mk admitted rl.window rl.limit).answers ops := by
  induction ops generalizing rl admitted time with
  | nil => rfl
  | cons op ops ih =>
    obtain ⟨hle, hrest⟩ := List.pairwise_cons.mp hops
    obtain ⟨htime, hlater⟩ := List.forall_mem_cons.mp htimes
    cases op with
    | allow key now =>
      have hnow : time ≤ now := htime rfl
      have hanswer : (rl.allow now key).2 =
          ((NaiveLimiter.mk admitted rl.window rl.limit).allow now key).2 := by
        rw [h.allow_snd hnow, NaiveLimiter.allow_snd]
      have htail := ih (h.allow key hnow) hrest hle
      rw [RateLimiter.allow_window, RateLimiter.allow_limit] at htail
      rw [RateLimiter.answers, NaiveLimiter.answers, htail, NaiveLimiter.allow_fst, ← hanswer]
    | sweep now =>
      have htail := ih (h.sweep now) hrest fun op hop hcall =>
        max_le (hlater op hop hcall) (hle op hop hcall)
      exact htail

theorem NaiveLimiter.admitted_iff {before after : List AnsweredCall} {call : AnsweredCall}
    (h : nl.answers ops = before ++ call :: after) :
    call.admitted = true ↔ admittedSince call.key (call.time - nl.window) nl.admitted +
      (before.countP fun earlier => earlier.admitted && earlier.key == call.key &&
        decide (call.time - nl.window ≤ earlier.time)) < nl.limit := by
  induction ops generalizing nl before with
  | nil => exact absurd h.symm (List.append_ne_nil_of_right_ne_nil _ (List.cons_ne_nil _ _))
  | cons op ops ih =>
    cases op with
    | sweep now => exact ih h
    | allow key now =>
      rw [NaiveLimiter.answers] at h
      cases before with
      | nil =>
        obtain ⟨rfl, _⟩ := List.cons.inj h
        rw [NaiveLimiter.allow_snd, decide_eq_true_iff, List.countP_nil, Nat.add_zero]
      | cons first before =>
        obtain ⟨rfl, hrest⟩ := List.cons.inj h
        have hcall := ih hrest
        rw [NaiveLimiter.allow_fst] at hcall
        rw [hcall, List.countP_cons]
        by_cases hok : (nl.allow now key).2 = true
        · rw [if_pos hok, admittedSince_cons]
          simp only [hok, Bool.true_and, Bool.and_eq_true, beq_iff_eq, decide_eq_true_eq]
          omega
        · rw [if_neg hok]
          simp [hok]

theorem NaiveLimiter.answers_filter (hwindow : nl'.window = nl.window) (hlimit : nl'.limit = nl.limit)
    (hadmitted : ∀ a, admittedSince key a nl'.admitted = admittedSince key a nl.admitted) :
    (nl.answers ops).filter (fun call => call.key == key) =
      nl'.answers (ops.filter (LimiterOp.isCallOf key)) := by
  induction ops generalizing nl nl' with
  | nil => rfl
  | cons op ops ih =>
    cases op with
    | sweep now => exact ih hwindow hlimit hadmitted
    | allow k now =>
      rw [NaiveLimiter.answers, List.filter_cons, List.filter_cons, LimiterOp.isCallOf]
      by_cases hk : k = key
      · subst hk
        have hanswer : (nl'.allow now k).2 = (nl.allow now k).2 := by
          rw [NaiveLimiter.allow_snd, NaiveLimiter.allow_snd, hwindow, hlimit, hadmitted]
        rw [if_pos (beq_self_eq_true k), if_pos (beq_self_eq_true k), NaiveLimiter.answers, hanswer]
        congr 1
        refine ih ?_ ?_ fun a => ?_
        · simp only [NaiveLimiter.allow_fst, hwindow]
        · simp only [NaiveLimiter.allow_fst, hlimit]
        · rw [NaiveLimiter.allow_fst, NaiveLimiter.allow_fst, hanswer]
          dsimp only
          split_ifs
          · rw [admittedSince_cons, admittedSince_cons, hadmitted]
          · exact hadmitted a
      · have hother : ¬ (k == key) = true := by simpa using hk
        rw [if_neg hother, if_neg hother]
        refine ih ?_ ?_ fun a => ?_
        · simp only [NaiveLimiter.allow_fst, hwindow]
        · simp only [NaiveLimiter.allow_fst, hlimit]
        · rw [NaiveLimiter.allow_fst, hadmitted]
          dsimp only
          split_ifs
          · rw [admittedSince_cons, if_neg fun heq => hk heq.1, Nat.add_zero]
          · rfl

end Answers

/-- What the limiter prunes and sweeps is never missed, and keys are apart. -/
theorem limiter_eq_naive (limit : Nat) (window : Int) (ops : List LimiterOp) (h : InLockOrder ops) :
    (RateLimiter.new limit window).answers ops = (NaiveLimiter.new limit window).answers ops ∧
    (∀ before call after, (RateLimiter.new limit window).answers ops = before ++ call :: after →
      (call.admitted = true ↔
        (before.countP fun earlier => earlier.admitted && earlier.key == call.key &&
          decide (call.time - window ≤ earlier.time)) < limit)) ∧
    ∀ key, ((RateLimiter.new limit window).answers ops).filter (fun call => call.key == key) =
      (RateLimiter.new limit window).answers (ops.filter (LimiterOp.isCallOf key)) := by
  have hsame : ∀ {ops}, InLockOrder ops →
      (RateLimiter.new limit window).answers ops = (NaiveLimiter.new limit window).answers ops := by
    intro ops hops
    -- a time before all readings
    obtain ⟨time, htime⟩ : ∃ time, ∀ op ∈ ops, time ≤ LimiterOp.time op := by
      induction ops with
      | nil => exact ⟨0, fun _ hop => absurd hop List.not_mem_nil⟩
      | cons op ops ih =>
        obtain ⟨time, htime⟩ := ih hops.of_cons
        refine ⟨min op.time time, List.forall_mem_cons.mpr ⟨min_le_left _ _, fun o ho => ?_⟩⟩
        exact (min_le_right _ _).trans (htime o ho)
    exact answers_eq (tracks_new limit window time) hops fun op hop _ => htime op hop
  refine ⟨hsame h, fun before call after heq => ?_, fun key => ?_⟩
  · rw [hsame h] at heq
    have hiff := NaiveLimiter.admitted_iff heq
    rwa [NaiveLimiter.new, admittedSince, List.countP_nil, Nat.zero_add] at hiff
  · rw [hsame h, hsame (h.sublist List.filter_sublist)]
    exact NaiveLimiter.answers_filter rfl rfl fun _ => rfl

def boundaryCalls : List LimiterOp :=
  [.allow "1.2.3.4" 0, .allow "5.6.7.8" 0, .sweep 3, .allow "1.2.3.4" 4, .sweep 1, .allow "1.2.3.4" 10,
    .sweep 11, .allow "1.2.3.4" 11]

theorem limiter_eq_naive_boundary :
    (RateLimiter.new 2 10).answers boundaryCalls = (NaiveLimiter.new 2 10).answers boundaryCalls ∧
    (RateLimiter.new 2 10).answers boundaryCalls =
      [⟨"1.2.3.4", 0, true⟩, ⟨"5.6.7.8", 0, true⟩, ⟨"1.2.3.4", 4, true⟩, ⟨"1.2.3.4", 10, false⟩,
        ⟨"1.2.3.4", 11, true⟩] :=
  ⟨(limiter_eq_naive 2 10 boundaryCalls (by decide)).1, by decide +kernel⟩

end ScheduleSync
