import ScheduleSync.PinStore
import ScheduleSync.Transition

/-! The PIN store against the history of its calls: Verify answers as the latest
Store of the key and the answers given since then say, whatever the background
passes have removed in between. -/
namespace ScheduleSync

/-- A call that has got the mutex, and what Verify answered. -/
inductive PinEvent where
  | stored (now : Int) (key pin : String)
  | verified (key : String) (answer : Option PinError)

/-- The latest Store of a key, and how many Verifys of the key since then succeeded
and how many were answered "incorrect PIN". -/
structure Since where
  storedAt : Int
  pin : String
  successes : Nat
  incorrect : Nat

def Since.count (since : Since) : Option PinError → Since
  | none => { since with successes := since.successes + 1 }
  | some (.incorrect _) => { since with incorrect := since.incorrect + 1 }
  | some _ => since

def sinceStore (key : String) : List PinEvent → Option Since
  | [] => none
  | .stored now k pin :: earlier =>
    if k = key then some ⟨now, pin, 0, 0⟩ else sinceStore key earlier
  | .verified k answer :: earlier =>
    (sinceStore key earlier).map fun since => if k = key then since.count answer else since

/-- The specification of a successful Verify. -/
def Accepted (history : List PinEvent) (key pin : String) (now : Int) : Prop :=
  ∃ since, sinceStore key history = some since ∧ since.pin = pin ∧
    now ≤ since.storedAt + pinExpiry ∧ since.successes = 0 ∧ since.incorrect < maxAttempts

/-- The store with the clock at the last time its mutex was taken, and its history. -/
structure PinRun where
  clock : Int
  pins : PinStore
  history : List PinEvent

/-- A call under the mutex. A background pass has read the clock at `reading` and
takes the mutex at `now`. -/
inductive PinCall where
  | store (now : Int) (email pin : String)
  | verify (now : Int) (email pin : String)
  | cleanup (reading now : Int)

def PinCall.isCleanup : PinCall → Bool
  | .cleanup _ _ => true
  | _ => false

def PinRun.start (clock : Int) : PinRun := ⟨clock, .empty, []⟩

/-- One call; the clock does not run backwards from one to the next. -/
def PinRun.step (toLower : String → String) (r : PinRun) : PinCall → Option PinRun
  | .store now email pin =>
    if r.clock ≤ now then
      some ⟨now, r.pins.store toLower now email pin, .stored now (toLower email) pin :: r.history⟩
    else none
  | .verify now email pin =>
    if r.clock ≤ now then
      let (pins, answer) := r.pins.verify toLower now email pin
      some ⟨now, pins, .verified (toLower email) answer :: r.history⟩
    else none
  | .cleanup reading now =>
    if r.clock ≤ now ∧ reading ≤ now then some ⟨now, r.pins.cleanup reading, r.history⟩ else none

/-- An answer up to the text of a refusal that finds no valid PIN. -/
def PinEvent.blurred : PinEvent → PinEvent
  | .verified key (some .expired) => .verified key (some .notFound)
  | e => e

namespace PinStore
variable {toLower : String → String} {p q : PinStore} {now : Int} {email pin key : String}

theorem verify_none (h : p.entries (toLower email) = none) :
    p.verify toLower now email pin = (p, some .notFound) := by
  simp [verify, h]

theorem verify_some {e : PinEntry} (h : p.entries (toLower email) = some e) :
    p.verify toLower now email pin =
      if e.expiresAt < now then (⟨Function.update p.entries (toLower email) none⟩, some .expired)
      else if maxAttempts ≤ e.attempts then (p, some .tooMany)
      else if pin ≠ e.pin then
        (⟨Function.update p.entries (toLower email) (some { e with attempts := e.attempts + 1 })⟩,
          some (.incorrect (maxAttempts - (e.attempts + 1))))
      else (⟨Function.update p.entries (toLower email) none⟩, none) := by
  simp [verify, h]

theorem verify_of_ne (h : key ≠ toLower email) :
    (p.verify toLower now email pin).1.entries key = p.entries key := by
  cases he : p.entries (toLower email) with
  | none => rw [verify_none he]
  | some e =>
    rw [verify_some he]
    split_ifs <;> simp [Function.update_of_ne h]

theorem verify_congr (h : q.entries (toLower email) = p.entries (toLower email)) :
    (q.verify toLower now email pin).2 = (p.verify toLower now email pin).2 ∧
      (q.verify toLower now email pin).1.entries (toLower email) =
        (p.verify toLower now email pin).1.entries (toLower email) := by
  cases he : p.entries (toLower email) with
  | none =>
    rw [verify_none he, verify_none (h.trans he)]
    exact ⟨rfl, h⟩
  | some e =>
    rw [verify_some he, verify_some (h.trans he)]
    split_ifs <;> simp [h]

end PinStore

def Agrees (clock : Int) (since : Option Since) : Option PinEntry → Prop
  | some e => ∃ s, since = some s ∧ e = ⟨s.pin, s.incorrect, s.storedAt + pinExpiry⟩ ∧
      s.successes = 0 ∧ s.incorrect ≤ maxAttempts
  | none => ∀ s, since = some s →
      (s.successes = 1 ∨ s.storedAt + pinExpiry < clock) ∧ s.successes ≤ 1 ∧
        s.incorrect ≤ maxAttempts

namespace Agrees
variable {toLower : String → String} {p : PinStore} {clock now : Int} {email pin : String}
  {since : Option Since} {entry : Option PinEntry}

theorem later (h : Agrees clock since entry) (hc : clock ≤ now) : Agrees now since entry := by
  cases entry with
  | some e => exact h
  | none =>
    intro s hs
    obtain ⟨hgone, hbounds⟩ := h s hs
    exact ⟨hgone.imp id fun hexp => by omega, hbounds⟩

theorem bounds (h : Agrees clock since entry) {s : Since} (hs : since = some s) :
    s.successes ≤ 1 ∧ s.incorrect ≤ maxAttempts := by
  cases entry with
  | some e =>
    obtain ⟨t, ht, _, hsuccess, hincorrect⟩ := h
    have hst : s = t := Option.some.inj (hs.symm.trans ht)
    subst hst
    exact ⟨by omega, hincorrect⟩
  | none => exact (h s hs).2

theorem cleanup (h : Agrees clock since entry) (hc : clock ≤ now) {reading : Int}
    (hr : reading ≤ now) :
    Agrees now since (entry.filter fun e => decide (reading ≤ e.expiresAt)) := by
  cases entry with
  | none => exact h.later hc
  | some e =>
    by_cases hkeep : reading ≤ e.expiresAt
    · have hlater := h.later hc
      simpa [Option.filter_some, hkeep] using hlater
    · obtain ⟨s, hs, rfl, hsuccess, hincorrect⟩ := h
      simp only [Option.filter_some, hkeep, decide_false, Bool.false_eq_true, if_false]
      intro t ht
      have hst : s = t := Option.some.inj (hs.symm.trans ht)
      subst hst
      exact ⟨.inr (by dsimp only at hkeep; omega), by omega, hincorrect⟩

theorem verify_iff (h : Agrees clock since (p.entries (toLower email))) (hc : clock ≤ now) :
    (p.verify toLower now email pin).2 = none ↔
      ∃ s, since = some s ∧ s.pin = pin ∧ now ≤ s.storedAt + pinExpiry ∧ s.successes = 0 ∧
        s.incorrect < maxAttempts := by
  cases he : p.entries (toLower email) with
  | none =>
    rw [he] at h
    rw [PinStore.verify_none he]
    constructor
    · intro hfalse
      cases hfalse
    · intro ⟨s, hs, _, hexp, hsuccess, _⟩
      obtain ⟨hgone, _⟩ := h s hs
      omega
  | some e =>
    rw [he] at h
    obtain ⟨s, hs, rfl, hsuccess, hincorrect⟩ := h
    rw [PinStore.verify_some he]
    have honly : (∃ t, since = some t ∧ t.pin = pin ∧ now ≤ t.storedAt + pinExpiry ∧
        t.successes = 0 ∧ t.incorrect < maxAttempts) ↔
        s.pin = pin ∧ now ≤ s.storedAt + pinExpiry ∧ s.incorrect < maxAttempts := by
      constructor
      · intro ⟨t, ht, hpin, hexp, _, hlt⟩
        have hst : s = t := Option.some.inj (hs.symm.trans ht)
        exact hst ▸ ⟨hpin, hexp, hlt⟩
      · intro ⟨hpin, hexp, hlt⟩
        exact ⟨s, hs, hpin, hexp, hsuccess, hlt⟩
    rw [honly]
    dsimp only
    split_ifs with hexp hmany hpin <;> simp only [false_iff, true_iff]
    · intro ⟨_, hle, _⟩
      omega
    · intro ⟨_, _, hlt⟩
      omega
    · intro ⟨heq, _⟩
      exact hpin heq.symm
    · exact ⟨(not_not.mp hpin).symm, by omega, by omega⟩

theorem verify (h : Agrees clock since (p.entries (toLower email))) (hc : clock ≤ now) :
    Agrees now (since.map fun s => s.count (p.verify toLower now email pin).2)
      ((p.verify toLower now email pin).1.entries (toLower email)) := by
  cases he : p.entries (toLower email) with
  | none =>
    rw [he] at h
    rw [PinStore.verify_none he]
    simpa [he, Since.count] using h.later hc
  | some e =>
    rw [he] at h
    obtain ⟨s, rfl, rfl, hsuccess, hincorrect⟩ := h
    rw [PinStore.verify_some he]
    dsimp only
    split_ifs with hexp hmany hpin
    · simp only [Function.update_self, Option.map_some, Since.count]
      intro t ht
      cases ht
      exact ⟨.inr hexp, by omega, hincorrect⟩
    · rw [he]
      exact ⟨s, rfl, rfl, hsuccess, hincorrect⟩
    · simp only [Function.update_self, Option.map_some, Since.count]
      exact ⟨_, rfl, rfl, hsuccess, by dsimp only; omega⟩
    · simp only [Function.update_self, Option.map_some, Since.count]
      intro t ht
      cases ht
      exact ⟨.inl (by dsimp only; omega), by dsimp only; omega, hincorrect⟩

end Agrees

/-- Every entry agrees with the history, and every PIN ever stored was accepted at
most once and refused as incorrect at most five times. -/
structure PinRun.Faithful (r : PinRun) : Prop where
  entries : ∀ key, Agrees r.clock (sinceStore key r.history) (r.pins.entries key)
  bounds : ∀ part, part <:+ r.history → ∀ key since, sinceStore key part = some since →
    since.successes ≤ 1 ∧ since.incorrect ≤ maxAttempts

namespace PinRun
variable {toLower : String → String} {r r' r'' : PinRun} {call : PinCall} {calls : List PinCall}

theorem faithful_start (clock : Int) : (start clock).Faithful where
  entries key := by
    intro s hs
    cases hs
  bounds part hpart key since hs := by
    have hnil : part = [] := List.suffix_nil.mp hpart
    subst hnil
    cases hs

theorem Faithful.of_entries {clock : Int} {pins : PinStore} {e : PinEvent} (h : r.Faithful)
    (hentries : ∀ key, Agrees clock (sinceStore key (e :: r.history)) (pins.entries key)) :
    (PinRun.mk clock pins (e :: r.history)).Faithful where
  entries := hentries
  bounds part hpart key since hs := by
    cases List.suffix_cons_iff.mp hpart with
    | inl heq =>
      subst heq
      exact (hentries key).bounds hs
    | inr hold => exact h.bounds part hold key since hs

theorem faithful_step (h : r.Faithful) (hstep : r.step toLower call = some r') : r'.Faithful := by
  cases call with
  | store now email pin =>
    simp only [step] at hstep
    split at hstep
    · rename_i hc
      cases hstep
      refine h.of_entries fun key => ?_
      by_cases hkey : key = toLower email
      · subst hkey
        simp only [sinceStore, if_true, PinStore.store, Function.update_self]
        exact ⟨_, rfl, rfl, rfl, Nat.zero_le _⟩
      · simp only [sinceStore, if_neg (Ne.symm hkey), PinStore.store, Function.update_of_ne hkey]
        exact (h.entries key).later hc
    · cases hstep
  | verify now email pin =>
    simp only [step] at hstep
    split at hstep
    · rename_i hc
      cases hstep
      refine h.of_entries fun key => ?_
      by_cases hkey : key = toLower email
      · subst hkey
        simpa [sinceStore] using (h.entries (toLower email)).verify hc
      · rw [PinStore.verify_of_ne hkey]
        simpa [sinceStore, Ne.symm hkey] using (h.entries key).later hc
    · cases hstep
  | cleanup reading now =>
    simp only [step] at hstep
    split at hstep
    · rename_i hc
      cases hstep
      exact ⟨fun key => (h.entries key).cleanup hc.1 hc.2, h.bounds⟩
    · cases hstep

theorem faithful_of_reaches (h : Reaches (step toLower) anyStep r r') (hr : r.Faithful) :
    r'.Faithful :=
  h.invariant (I := Faithful) hr fun _ _ _ _ hfaithful hstep => faithful_step hfaithful hstep

/-- The same calls on a store that has kept more of its expired entries. -/
structure Lags (r s : PinRun) : Prop where
  clock : s.clock ≤ r.clock
  entries : ∀ key, s.pins.entries key = r.pins.entries key ∨
    r.pins.entries key = none ∧ ∃ e, s.pins.entries key = some e ∧ e.expiresAt < r.clock
  history : s.history.map PinEvent.blurred = r.history.map PinEvent.blurred

variable {s : PinRun}

theorem Lags.verify {now : Int} (h : r.Lags s) (hc : r.clock ≤ now) (email pin : String) :
    (PinRun.mk now (r.pins.verify toLower now email pin).1
        (.verified (toLower email) (r.pins.verify toLower now email pin).2 :: r.history)).Lags
      (PinRun.mk now (s.pins.verify toLower now email pin).1
        (.verified (toLower email) (s.pins.verify toLower now email pin).2 :: s.history)) := by
  have hother : ∀ key, key ≠ toLower email →
      (s.pins.verify toLower now email pin).1.entries key =
          (r.pins.verify toLower now email pin).1.entries key ∨
        (r.pins.verify toLower now email pin).1.entries key = none ∧
          ∃ e, (s.pins.verify toLower now email pin).1.entries key = some e ∧ e.expiresAt < now := by
    intro key hkey
    rw [PinStore.verify_of_ne hkey, PinStore.verify_of_ne hkey]
    cases h.entries key with
    | inl hsame => exact .inl hsame
    | inr hgone =>
      obtain ⟨hnone, e, he, hexp⟩ := hgone
      exact .inr ⟨hnone, e, he, by omega⟩
  cases h.entries (toLower email) with
  | inl hsame =>
    obtain ⟨hanswer, hentry⟩ := @PinStore.verify_congr toLower _ _ now email pin hsame
    refine ⟨le_refl _, fun key => ?_, by simp [hanswer, h.history]⟩
    by_cases hkey : key = toLower email
    · exact .inl (hkey ▸ hentry)
    · exact hother key hkey
  | inr hgone =>
    obtain ⟨hnone, e, he, hexp⟩ := hgone
    have hlate : e.expiresAt < now := by omega
    refine ⟨le_refl _, fun key => ?_, ?_⟩
    · by_cases hkey : key = toLower email
      · left
        rw [hkey, PinStore.verify_none hnone, PinStore.verify_some he, if_pos hlate, hnone]
        simp
      · exact hother key hkey
    · rw [PinStore.verify_none hnone, PinStore.verify_some he, if_pos hlate]
      simp [PinEvent.blurred, h.history]

theorem Lags.step (h : r.Lags s) (hstep : r.step toLower call = some r') :
    if call.isCleanup then r'.Lags s else ∃ s', s.step toLower call = some s' ∧ r'.Lags s' := by
  have hclock := h.clock
  cases call with
  | store now email pin =>
    simp only [PinRun.step] at hstep
    split at hstep
    · rename_i hc
      cases hstep
      have hs : s.clock ≤ now := by omega
      simp only [PinCall.isCleanup, Bool.false_eq_true, if_false]
      have hstep' : s.step toLower (.store now email pin) =
          some ⟨now, s.pins.store toLower now email pin,
            .stored now (toLower email) pin :: s.history⟩ := by
        simp only [PinRun.step, if_pos hs]
      refine ⟨_, hstep', le_refl _, fun key => ?_, ?_⟩
      · by_cases hkey : key = toLower email
        · exact .inl (by simp [PinStore.store, hkey])
        · simp only [PinStore.store, Function.update_of_ne hkey]
          cases h.entries key with
          | inl hsame => exact .inl hsame
          | inr hgone =>
            obtain ⟨hnone, e, he, hexp⟩ := hgone
            exact .inr ⟨hnone, e, he, by omega⟩
      · simp [h.history]
    · cases hstep
  | verify now email pin =>
    simp only [PinRun.step] at hstep
    split at hstep
    · rename_i hc
      cases hstep
      have hs : s.clock ≤ now := by omega
      simp only [PinCall.isCleanup, Bool.false_eq_true, if_false]
      have hstep' : s.step toLower (.verify now email pin) =
          some ⟨now, (s.pins.verify toLower now email pin).1,
            .verified (toLower email) (s.pins.verify toLower now email pin).2 :: s.history⟩ := by
        simp only [PinRun.step, if_pos hs]
      exact ⟨_, hstep', h.verify hc email pin⟩
    · cases hstep
  | cleanup reading now =>
    simp only [PinRun.step] at hstep
    split at hstep
    · rename_i hc
      cases hstep
      simp only [PinCall.isCleanup, if_true]
      refine ⟨by dsimp only; omega, fun key => ?_, h.history⟩
      simp only [PinStore.cleanup]
      cases h.entries key with
      | inl hsame =>
        rw [hsame]
        cases he : r.pins.entries key with
        | none => exact .inl rfl
        | some e =>
          by_cases hkeep : reading ≤ e.expiresAt
          · exact .inl (by simp [Option.filter_some, hkeep])
          · exact .inr ⟨by simp [Option.filter_some, hkeep], e, rfl, by omega⟩
      | inr hgone =>
        obtain ⟨hnone, e, he, hexp⟩ := hgone
        exact .inr ⟨by simp [hnone], e, he, by omega⟩
    · cases hstep

theorem Lags.run (h : r.Lags s) (hrun : runWithin (PinRun.step toLower) anyStep r calls = some r') :
    ∃ s', runWithin (PinRun.step toLower) anyStep s (calls.filter fun c => !c.isCleanup) = some s' ∧
      r'.Lags s' := by
  induction calls generalizing r s with
  | nil =>
    cases hrun
    exact ⟨s, rfl, h⟩
  | cons call calls ih =>
    simp only [runWithin, anyStep, if_true] at hrun
    obtain ⟨r₁, hstep, hrest⟩ := Option.bind_eq_some_iff.mp hrun
    have hnext := h.step hstep
    cases hcall : call.isCleanup with
    | true =>
      rw [hcall, if_pos rfl] at hnext
      simpa [hcall] using ih hnext hrest
    | false =>
      rw [hcall, if_neg (by simp)] at hnext
      obtain ⟨s₁, hs₁, hlags⟩ := hnext
      obtain ⟨s', hs', hlags'⟩ := ih hlags hrest
      exact ⟨s', by simp [hcall, runWithin, anyStep, hs₁, hs'], hlags'⟩

theorem lags_refl (r : PinRun) : r.Lags r := ⟨le_refl _, fun _ => .inl rfl, rfl⟩

end PinRun

/-- After any calls a Verify succeeds exactly when the latest Store of its key stored
the PIN, is at most `pinExpiry` old, and no Verify since has succeeded and fewer than
`maxAttempts` were answered "incorrect PIN". So a PIN is accepted at most once and tried
wrongly at most `maxAttempts` times, and without the background passes the calls
have the same answers up to the text. -/
theorem pin_store_refines {toLower : String → String} {start : Int} {calls : List PinCall}
    {r : PinRun} (h : runWithin (PinRun.step toLower) anyStep (.start start) calls = some r) :
    (∀ email pin now, r.clock ≤ now →
      ((r.pins.verify toLower now email pin).2 = none ↔
        Accepted r.history (toLower email) pin now)) ∧
    (∀ part, part <:+ r.history → ∀ key since, sinceStore key part = some since →
      since.successes ≤ 1 ∧ since.incorrect ≤ maxAttempts) ∧
    ∃ r', runWithin (PinRun.step toLower) anyStep (.start start)
        (calls.filter fun c => !c.isCleanup) = some r' ∧
      r'.history.map PinEvent.blurred = r.history.map PinEvent.blurred := by
  have hfaithful := PinRun.faithful_of_reaches (reaches_of_runWithin h) (PinRun.faithful_start start)
  refine ⟨fun email pin now hc => (hfaithful.entries (toLower email)).verify_iff hc,
    hfaithful.bounds, ?_⟩
  obtain ⟨r', hrun, hlags⟩ := (PinRun.lags_refl _).run h
  exact ⟨r', hrun, hlags.history⟩

def wrongTry : List PinCall :=
  [.store 0 "a@x.com" "123456", .verify 1 "a@x.com" "000000", .cleanup 2 3]

theorem pin_store_refines_second_try :
    ∃ r, runWithin (PinRun.step id) anyStep (.start 0) wrongTry = some r ∧
      (r.pins.verify id 4 "a@x.com" "123456").2 = none ∧
      Accepted r.history "a@x.com" "123456" 4 := by
  refine ⟨_, rfl, by decide +kernel, ?_⟩
  exact ((@pin_store_refines id 0 wrongTry _ rfl).1 "a@x.com" "123456" 4 (by decide +kernel)).mp
    (by decide +kernel)

end ScheduleSync
