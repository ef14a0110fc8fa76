import Mathlib.Data.List.Sort
import ScheduleSync.Capture
import ScheduleSync.KeepFirst

/-! The captured weeks. The schedule API is asked for several weeks, whose answers overlap and
arrive in any order; mergeScheduleData keeps the first day of every date and sorts by date.
What comes out does not depend on the order, as far as the weeks agree with each other. -/
namespace ScheduleSync
variable {ι : Type*}

/-- The comparison of mergeScheduleData: `new Date(a) - new Date(b)` is at most zero. `dateOf` is
the instant of a date string, none for an Invalid Date, whose difference NaN counts as zero. -/
def notAfter (dateOf : String → Option Int) (a b : ScheduleDay ι) : Bool :=
  match dateOf a.businessDate, dateOf b.businessDate with
  | some t, some t' => decide (t ≤ t')
  | _, _ => true

structure MergedDays (ι : Type*) where
  seen : List String
  days : List (ScheduleDay ι)

def mergeDay (merged : MergedDays ι) (day : ScheduleDay ι) : MergedDays ι :=
  if day.businessDate ∈ merged.seen then merged
  else { seen := day.businessDate :: merged.seen, days := merged.days ++ [day] }

def mergeWeek (merged : MergedDays ι) (week : ScheduleData ι) : MergedDays ι :=
  (week.days.getD []).foldl mergeDay merged

def mergeScheduleData (dateOf : String → Option Int) (weeks : List (ScheduleData ι)) : ScheduleData ι :=
  match weeks with
  | [] => { days := some [], homeSiteName := none }
  | first :: _ =>
    let merged := weeks.foldl mergeWeek ⟨[], []⟩
    { first with days := some (merged.days.mergeSort (notAfter dateOf)) }

/-- All days of the weeks, in the order of their capture. -/
def capturedDays (weeks : List (ScheduleData ι)) : List (ScheduleDay ι) :=
  weeks.flatMap fun week => week.days.getD []

def ScheduleDay.Before (dateOf : String → Option Int) (a b : ScheduleDay ι) : Prop :=
  ∃ t ∈ dateOf a.businessDate, ∃ t' ∈ dateOf b.businessDate, t < t'

/-- The dates of the days are valid, and two dates are two instants. -/
structure Dated (dateOf : String → Option Int) (days : List (ScheduleDay ι)) : Prop where
  valid : ∀ day ∈ days, (dateOf day.businessDate).isSome = true
  distinct : ∀ a ∈ days, ∀ b ∈ days, dateOf a.businessDate = dateOf b.businessDate →
    a.businessDate = b.businessDate

section Merge
variable {dateOf : String → Option Int} {weeks weeks' : List (ScheduleData ι)}
  {days : List (ScheduleDay ι)} {merged : MergedDays ι}

def MergedDays.Consistent (merged : MergedDays ι) : Prop :=
  ∀ date, date ∈ merged.seen ↔ date ∈ merged.days.map ScheduleDay.businessDate

theorem mergeDay_days (h : merged.Consistent) (day : ScheduleDay ι) :
    (mergeDay merged day).Consistent ∧
    (mergeDay merged day).days = absorb ScheduleDay.businessDate merged.days day := by
  unfold mergeDay absorb
  by_cases hseen : day.businessDate ∈ merged.seen
  · rw [if_pos hseen, if_pos ((h _).mp hseen)]
    exact ⟨h, rfl⟩
  · rw [if_neg hseen, if_neg fun hmem => hseen ((h _).mpr hmem)]
    refine ⟨fun date => ?_, rfl⟩
    rw [List.mem_cons, h date, List.map_append, List.mem_append, List.map_singleton, List.mem_singleton,
      or_comm]

theorem foldl_mergeDay (h : merged.Consistent) (days : List (ScheduleDay ι)) :
    (days.foldl mergeDay merged).days = absorbAll ScheduleDay.businessDate merged.days days := by
  induction days generalizing merged with
  | nil => rfl
  | cons day days ih =>
    obtain ⟨hconsistent, hdays⟩ := mergeDay_days h day
    rw [List.foldl_cons, ih hconsistent, hdays, absorbAll_cons]

theorem foldl_mergeWeek (weeks : List (ScheduleData ι)) : (weeks.foldl mergeWeek ⟨[], []⟩).days =
    absorbAll ScheduleDay.businessDate [] (capturedDays weeks) := by
  have hempty : MergedDays.Consistent (⟨[], []⟩ : MergedDays ι) := fun _ => Iff.rfl
  rw [← foldl_mergeDay hempty, capturedDays, List.foldl_flatMap]
  rfl

def keptDays (weeks : List (ScheduleData ι)) : List (ScheduleDay ι) :=
  absorbAll ScheduleDay.businessDate [] (capturedDays weeks)

theorem mergeScheduleData_days (dateOf : String → Option Int) (weeks : List (ScheduleData ι)) :
    (mergeScheduleData dateOf weeks).days = some ((keptDays weeks).mergeSort (notAfter dateOf)) := by
  cases weeks with
  | nil => exact congrArg some List.mergeSort_nil.symm
  | cons first rest =>
    rw [mergeScheduleData, foldl_mergeWeek, ← keptDays]

theorem mem_capturedDays {day : ScheduleDay ι} (h : day ∈ keptDays weeks) : day ∈ capturedDays weeks :=
  (mem_absorbAll h).resolve_left List.not_mem_nil

theorem pairwise_sorted (hvalid : ∀ day ∈ days, (dateOf day.businessDate).isSome = true) :
    (days.mergeSort (notAfter dateOf)).Pairwise fun a b =>
      (dateOf a.businessDate).getD 0 ≤ (dateOf b.businessDate).getD 0 := by
  -- on these days the comparison is that of the instants, a total order
  have hsame : days.mergeSort (notAfter dateOf) = days.mergeSort fun a b =>
      decide ((dateOf a.businessDate).getD 0 ≤ (dateOf b.businessDate).getD 0) := by
    have hmap := List.map_mergeSort (l := days) (f := id) (r := notAfter dateOf)
      (s := fun a b => decide ((dateOf a.businessDate).getD 0 ≤ (dateOf b.businessDate).getD 0)) ?_
    · simpa using hmap
    · intro a ha b hb
      obtain ⟨t, ht⟩ := Option.isSome_iff_exists.mp (hvalid a ha)
      obtain ⟨t', ht'⟩ := Option.isSome_iff_exists.mp (hvalid b hb)
      simp [notAfter, ht, ht']
  rw [hsame]
  refine (List.pairwise_mergeSort ?_ ?_ days).imp fun h => of_decide_eq_true h
  · intro a b c hab hbc
    exact decide_eq_true ((of_decide_eq_true hab).trans (of_decide_eq_true hbc))
  · intro a b
    rw [Bool.or_eq_true, decide_eq_true_iff, decide_eq_true_iff]
    exact Int.le_total _ _

theorem pairwise_before (h : Dated dateOf (capturedDays weeks)) :
    ((keptDays weeks).mergeSort (notAfter dateOf)).Pairwise (ScheduleDay.Before dateOf) := by
  have hmem : ∀ day ∈ (keptDays weeks).mergeSort (notAfter dateOf), day ∈ capturedDays weeks :=
    fun day hday => mem_capturedDays (List.mem_mergeSort.mp hday)
  have hkeys : ((keptDays weeks).map ScheduleDay.businessDate).Nodup := nodup_keys_absorbAll (by simp)
  have hnodup : ((keptDays weeks).mergeSort (notAfter dateOf)).Pairwise fun a b =>
      a.businessDate ≠ b.businessDate :=
    List.pairwise_map.mp (((List.mergeSort_perm _ _).map _).nodup_iff.mpr hkeys)
  have hsorted := pairwise_sorted fun day hday => h.valid day (mem_capturedDays hday)
  refine (hsorted.and hnodup).imp_of_mem fun {a b} ha hb hab => ?_
  obtain ⟨t, ht⟩ := Option.isSome_iff_exists.mp (h.valid a (hmem a ha))
  obtain ⟨t', ht'⟩ := Option.isSome_iff_exists.mp (h.valid b (hmem b hb))
  obtain ⟨hle, hne⟩ := hab
  have hinstants : t ≠ t' := fun heq =>
    hne (h.distinct a (hmem a ha) b (hmem b hb) (by rw [ht, ht', heq]))
  rw [ht, ht'] at hle
  exact ⟨t, ht, t', ht', lt_of_le_of_ne hle hinstants⟩

theorem filter_sorted (date : String) :
    ((keptDays weeks).mergeSort (notAfter dateOf)).filter (fun day => day.businessDate = date) =
      ((capturedDays weeks).find? fun day => day.businessDate = date).toList := by
  have hkept : (keptDays weeks).filter (fun day => day.businessDate = date) =
      ((capturedDays weeks).find? fun day => day.businessDate = date).toList :=
    filter_absorbAll (by simp)
  have hperm := (List.mergeSort_perm (keptDays weeks) (notAfter dateOf)).filter
    fun day => day.businessDate = date
  rw [hkept] at hperm
  cases hfind : (capturedDays weeks).find? fun day => day.businessDate = date with
  | none =>
    rw [hfind] at hperm
    exact hperm.eq_nil
  | some day =>
    rw [hfind] at hperm
    exact hperm.eq_singleton

theorem before_asymm {a b : ScheduleDay ι} (h : a.Before dateOf b) (h' : b.Before dateOf a) : a = b := by
  obtain ⟨t, ht, t', ht', hlt⟩ := h
  obtain ⟨u', hu', u, hu, hlt'⟩ := h'
  obtain rfl : t = u := Option.mem_unique ht hu
  obtain rfl : t' = u' := Option.mem_unique ht' hu'
  exact absurd hlt' (lt_asymm hlt)

theorem mergeScheduleData_perm (h : Dated dateOf (capturedDays weeks)) (hperm : weeks'.Perm weeks)
    (hdays : ∀ a ∈ capturedDays weeks, ∀ b ∈ capturedDays weeks, a.businessDate = b.businessDate → a = b)
    (hsite : ∀ week ∈ weeks, ∀ week' ∈ weeks, week.homeSiteName = week'.homeSiteName) :
    mergeScheduleData dateOf weeks' = mergeScheduleData dateOf weeks := by
  have hcaptured : (capturedDays weeks).Perm (capturedDays weeks') := (hperm.flatMap_right _).symm
  have hkept : (keptDays weeks).Perm (keptDays weeks') := absorbAll_perm hcaptured hdays
  have hdated : Dated dateOf (capturedDays weeks') :=
    ⟨fun day hday => h.valid day (hcaptured.mem_iff.mpr hday), fun a ha b hb =>
      h.distinct a (hcaptured.mem_iff.mpr ha) b (hcaptured.mem_iff.mpr hb)⟩
  have hsorted : (keptDays weeks').mergeSort (notAfter dateOf) =
      (keptDays weeks).mergeSort (notAfter dateOf) := by
    refine List.Perm.eq_of_pairwise (fun a b _ _ => before_asymm) (pairwise_before hdated)
      (pairwise_before h) ?_
    exact (List.mergeSort_perm _ _).trans (hkept.symm.trans (List.mergeSort_perm _ _).symm)
  have hdaysEq : (mergeScheduleData dateOf weeks').days = (mergeScheduleData dateOf weeks).days := by
    rw [mergeScheduleData_days, mergeScheduleData_days, hsorted]
  have hsiteEq : (mergeScheduleData dateOf weeks').homeSiteName =
      (mergeScheduleData dateOf weeks).homeSiteName := by
    cases weeks with
    | nil => rw [hperm.eq_nil]
    | cons first rest =>
      cases weeks' with
      | nil => exact absurd hperm.symm.eq_nil (List.cons_ne_nil _ _)
      | cons first' rest' =>
        exact hsite first' (hperm.mem_iff.mp List.mem_cons_self) first List.mem_cons_self
  calc mergeScheduleData dateOf weeks'
      = ⟨(mergeScheduleData dateOf weeks').days, (mergeScheduleData dateOf weeks').homeSiteName⟩ := rfl
    _ = mergeScheduleData dateOf weeks := by rw [hdaysEq, hsiteEq]

/-- Merging is complete, without duplicates and in order, whatever the order of capture. -/
theorem mergeScheduleData_canonical (toText : ι → String) (h : Dated dateOf (capturedDays weeks)) :
    (∃ days, (mergeScheduleData dateOf weeks).days = some days ∧
      days.Pairwise (ScheduleDay.Before dateOf) ∧
      ∀ date, days.filter (fun day => day.businessDate = date) =
        ((capturedDays weeks).find? fun day => day.businessDate = date).toList) ∧
    ((∀ a ∈ capturedDays weeks, ∀ b ∈ capturedDays weeks, a.businessDate = b.businessDate → a = b) →
      (∀ week ∈ weeks, ∀ week' ∈ weeks, week.homeSiteName = week'.homeSiteName) →
      ∀ weeks', weeks'.Perm weeks → extractShifts toText (mergeScheduleData dateOf weeks') =
        extractShifts toText (mergeScheduleData dateOf weeks)) := by
  refine ⟨⟨_, mergeScheduleData_days dateOf weeks, pairwise_before h, filter_sorted⟩, ?_⟩
  intro hdays hsite weeks' hperm
  rw [mergeScheduleData_perm h hperm hdays hsite]

end Merge

def twoDates (date : String) : Option Int :=
  if date = "2026-03-08" then some 1772928000000
  else if date = "2026-03-15" then some 1773532800000
  else none

def sunday : ScheduleDay String := ⟨"2026-03-08", some [Server.capturedShift Server.morning (.value "17")]⟩
def nextSunday : ScheduleDay String := ⟨"2026-03-15", some [Server.capturedShift Server.moved (.value "18")]⟩

def overlapping : List (ScheduleData String) :=
  [⟨some [nextSunday, sunday], some "Pike Place"⟩, ⟨some [sunday], some "Pike Place"⟩]

theorem mergeScheduleData_canonical_two :
    (∃ days, (mergeScheduleData twoDates overlapping).days = some days ∧
      days.Pairwise (ScheduleDay.Before twoDates) ∧
      ∀ date, days.filter (fun day => day.businessDate = date) =
        ((capturedDays overlapping).find? fun day => day.businessDate = date).toList) ∧
    extractShifts id (mergeScheduleData twoDates overlapping.reverse) =
      extractShifts id (mergeScheduleData twoDates overlapping) := by
  have hcaptured : capturedDays overlapping = [nextSunday, sunday, sunday] := rfl
  have hdated : Dated twoDates (capturedDays overlapping) := by
    rw [hcaptured]
    exact ⟨by decide, by decide⟩
  obtain ⟨hdays, hperm⟩ := mergeScheduleData_canonical id hdated
  refine ⟨hdays, hperm ?_ ?_ _ overlapping.reverse_perm⟩
  · rw [hcaptured]
    simp [sunday, nextSunday]
  · simp [overlapping]

end ScheduleSync
