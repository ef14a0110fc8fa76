import ScheduleSync.Calendar
import ScheduleSync.ShiftTime

/-! Reading the times of a feed back. icsTime writes the civil date of a day and the clock in
UTC; the day is found again from its date, and the second from the digits. -/
namespace ScheduleSync

def CivilDate.dayNumber (c : CivilDate) : Int :=
  365 * (c.year - 1970) + leapDaysBefore c.year - leapDaysBefore 1970 +
    daysBeforeMonth c.year c.month.toNat + c.day - 1

/-! The day of a year that begins on March 1. -/

section Days

theorem dayOfYear_bounds {dayOfEra yearOfEra : Int} (hlower : 0 ≤ dayOfEra) (hupper : dayOfEra < 146097)
    (hyear : yearOfEra = (dayOfEra - dayOfEra / 1460 + dayOfEra / 36524 - dayOfEra / 146096) / 365) :
    (0 ≤ yearOfEra ∧ yearOfEra < 400) ∧
    0 ≤ dayOfEra - (365 * yearOfEra + yearOfEra / 4 - yearOfEra / 100) ∧
    dayOfEra - (365 * yearOfEra + yearOfEra / 4 - yearOfEra / 100) ≤ 365 := by
  refine ⟨by omega, ?_⟩
  have hfour : yearOfEra / 4 =
      (dayOfEra - dayOfEra / 1460 + dayOfEra / 36524 - dayOfEra / 146096) / 1460 := by omega
  have hcycle : dayOfEra / 1460 - yearOfEra / 4 = 0 ∨ dayOfEra / 1460 - yearOfEra / 4 = 1 := by omega
  have hcentury : yearOfEra / 100 = dayOfEra / 36524 - dayOfEra / 146096 := by
    have hcases : dayOfEra / 36524 = 0 ∨ dayOfEra / 36524 = 1 ∨ dayOfEra / 36524 = 2 ∨
      dayOfEra / 36524 = 3 ∨ dayOfEra / 36524 = 4 := by omega
    rcases hcases with h | h | h | h | h <;> omega
  omega

theorem leapDaysBefore_succ (year : Int) :
    leapDaysBefore (year + 1) = leapDaysBefore year + if isLeap year then 1 else 0 := by
  unfold leapDaysBefore isLeap
  split <;> rename_i h <;> simp at h <;> omega

theorem leapDaysBefore_era (era : Int) {yearOfEra : Int} (hlower : 0 ≤ yearOfEra) (hupper : yearOfEra < 400) :
    leapDaysBefore (yearOfEra + era * 400 + 1) = yearOfEra / 4 - yearOfEra / 100 + 97 * era := by
  unfold leapDaysBefore
  omega

theorem daysBeforeMonth_fromMarch (year : Int) {fromMarch : Int} (hlower : 0 ≤ fromMarch)
    (hupper : fromMarch < 10) : (daysBeforeMonth year (fromMarch + 3).toNat : Int) =
      59 + (if isLeap year then 1 else 0) + (153 * fromMarch + 2) / 5 := by
  obtain h | h | h | h | h | h | h | h | h | h : fromMarch = 0 ∨ fromMarch = 1 ∨ fromMarch = 2 ∨
    fromMarch = 3 ∨ fromMarch = 4 ∨ fromMarch = 5 ∨ fromMarch = 6 ∨ fromMarch = 7 ∨ fromMarch = 8 ∨
    fromMarch = 9 := by omega
  all_goals
    subst h
    cases hleap : isLeap year <;> simp [daysBeforeMonth, List.range_succ, daysIn, hleap]

theorem civilDate_cases (days : Int) : ∃ era yearOfEra dayOfYear fromMarch : Int,
    days + 719468 = 146097 * era + (365 * yearOfEra + yearOfEra / 4 - yearOfEra / 100 + dayOfYear) ∧
    (0 ≤ yearOfEra ∧ yearOfEra < 400) ∧ (0 ≤ dayOfYear ∧ dayOfYear ≤ 365) ∧
    fromMarch = (5 * dayOfYear + 2) / 153 ∧
    ((fromMarch < 10 ∧ civilDate days =
        ⟨yearOfEra + era * 400, fromMarch + 3, dayOfYear - (153 * fromMarch + 2) / 5 + 1⟩) ∨
      (10 ≤ fromMarch ∧ civilDate days =
        ⟨yearOfEra + era * 400 + 1, fromMarch - 9, dayOfYear - (153 * fromMarch + 2) / 5 + 1⟩)) := by
  have hlower : 0 ≤ (days + 719468) % 146097 := by omega
  have hupper : (days + 719468) % 146097 < 146097 := by omega
  obtain ⟨hyear, hday⟩ := dayOfYear_bounds hlower hupper rfl
  refine ⟨(days + 719468) / 146097, _, _, _, ?_, hyear, hday, rfl, ?_⟩
  · omega
  · simp only [civilDate]
    split_ifs with hmarch hmonth hmonth
    · omega
    · exact .inl ⟨hmarch, by simp⟩
    · exact .inr ⟨by omega, rfl⟩
    · omega

theorem civilDate_bounds (days : Int) : (1 ≤ (civilDate days).month ∧ (civilDate days).month ≤ 12) ∧
    1 ≤ (civilDate days).day ∧ (civilDate days).day ≤ 31 := by
  obtain ⟨era, yearOfEra, dayOfYear, fromMarch, _, _, hday, hmarch, ⟨hlt, hdate⟩ | ⟨hge, hdate⟩⟩ :=
    civilDate_cases days
  all_goals
    simp only [hdate]
    omega

theorem dayNumber_civilDate (days : Int) : (civilDate days).dayNumber = days := by
  obtain ⟨era, yearOfEra, dayOfYear, fromMarch, hdays, ⟨hyear, hyear'⟩, hday, hmarch,
    ⟨hlt, hdate⟩ | ⟨hge, hdate⟩⟩ := civilDate_cases days
  · have hleap := leapDaysBefore_era era hyear hyear'
    rw [leapDaysBefore_succ] at hleap
    have hfromMarch : 0 ≤ fromMarch := by omega
    have hmonth := daysBeforeMonth_fromMarch (yearOfEra + era * 400) hfromMarch hlt
    have hepoch : leapDaysBefore 1970 = 477 := rfl
    rw [hdate, CivilDate.dayNumber]
    simp only [hmonth, hepoch]
    omega
  · have hleap := leapDaysBefore_era era hyear hyear'
    have hepoch : leapDaysBefore 1970 = 477 := rfl
    have hcases : fromMarch = 10 ∨ fromMarch = 11 := by omega
    rw [hdate, CivilDate.dayNumber]
    simp only [hleap, hepoch]
    rcases hcases with h | h
    · rw [h]
      have hmonth : (daysBeforeMonth (yearOfEra + era * 400 + 1) ((10 - 9 : Int)).toNat : Int) = 0 := rfl
      omega
    · rw [h]
      have hmonth : (daysBeforeMonth (yearOfEra + era * 400 + 1) ((11 - 9 : Int)).toNat : Int) = 31 := rfl
      omega

end Days

/-! The digits. -/

def decodeNat (cs : List Char) : Option Nat :=
  if cs ≠ [] ∧ cs.all Char.isDigit then some (Nat.ofDigitChars 10 cs 0) else none

def decodeYear : List Char → Option Int
  | '-' :: cs => (decodeNat cs).map fun (n : Nat) => -(n : Int)
  | cs => (decodeNat cs).map fun (n : Nat) => (n : Int)

def decodeTime (cs : List Char) : Option Int :=
  match cs.drop (cs.length - 12) with
  | [a, b, c, d, 'T', e, f, g, h, i, j, 'Z'] => do
    let year ← decodeYear (cs.take (cs.length - 12))
    let month ← decodeNat [a, b]
    let day ← decodeNat [c, d]
    let hour ← decodeNat [e, f]
    let minute ← decodeNat [g, h]
    let second ← decodeNat [i, j]
    some ((CivilDate.mk year month day).dayNumber * 86400 + hour * 3600 + minute * 60 + second)
  | _ => none

section Digits

theorem zeroPadded_toList (width n : Nat) : (zeroPadded width n).toList =
    List.replicate (width - (Nat.toDigits 10 n).length) '0' ++ Nat.toDigits 10 n :=
  String.toList_ofList

theorem isDigit_zeroPadded (width n : Nat) : ∀ c ∈ (zeroPadded width n).toList, c.isDigit = true := by
  intro c hc
  rw [zeroPadded_toList] at hc
  cases List.mem_append.mp hc with
  | inl hzero =>
    rw [(List.mem_replicate.mp hzero).2]
    rfl
  | inr hdigit => exact Nat.isDigit_of_mem_toDigits (by decide) (by decide) hdigit

theorem zeroPadded_ne_nil (width n : Nat) : (zeroPadded width n).toList ≠ [] := by
  rw [zeroPadded_toList]
  exact List.append_ne_nil_of_right_ne_nil _ Nat.toDigits_ne_nil

theorem decodeNat_zeroPadded (width n : Nat) : decodeNat (zeroPadded width n).toList = some n := by
  rw [decodeNat, if_pos ⟨zeroPadded_ne_nil width n, List.all_eq_true.mpr (isDigit_zeroPadded width n)⟩,
    zeroPadded_toList, Nat.ofDigitChars_append, Nat.ofDigitChars_replicate_zero, Nat.mul_zero,
    Nat.ofDigitChars_ten_toDigits]

theorem zeroPadded_two {n : Nat} (h : n < 100) :
    ∃ a b, (zeroPadded 2 n).toList = [a, b] ∧ decodeNat [a, b] = some n := by
  have hlength : (zeroPadded 2 n).toList.length = 2 := by
    have hle : (Nat.toDigits 10 n).length ≤ 2 := (Nat.length_toDigits_le_iff (by decide) (by decide)).mpr h
    rw [zeroPadded_toList, List.length_append, List.length_replicate]
    omega
  obtain ⟨a, b, hab⟩ := List.length_eq_two.mp hlength
  exact ⟨a, b, hab, hab ▸ decodeNat_zeroPadded 2 n⟩

theorem decodeYear_icsTime (year : Int) :
    decodeYear ((if year < 0 then "-" else "") ++ zeroPadded 4 year.natAbs).toList = some year := by
  by_cases hneg : year < 0
  · have hminus : "-".toList = ['-'] := rfl
    rw [if_pos hneg, String.toList_append, hminus, List.singleton_append, decodeYear,
      decodeNat_zeroPadded, Option.map_some]
    exact congrArg some (by omega)
  · have hempty : "".toList = [] := rfl
    rw [if_neg hneg, String.toList_append, hempty, List.nil_append]
    obtain ⟨c, cs, hcons⟩ := List.exists_cons_of_ne_nil (zeroPadded_ne_nil 4 year.natAbs)
    have hdigit : c.isDigit = true := isDigit_zeroPadded 4 year.natAbs c (hcons ▸ List.mem_cons_self)
    have hsign : c ≠ '-' := by
      rintro rfl
      cases hdigit
    have hdecode := decodeNat_zeroPadded 4 year.natAbs
    rw [hcons] at hdecode ⊢
    rw [decodeYear, hdecode, Option.map_some]
    · exact congrArg some (by omega)
    · exact fun _ heq => absurd (List.cons.inj heq).1 hsign

theorem decodeTime_icsTime (t : Int) : decodeTime (icsTime t).toList = some t := by
  obtain ⟨⟨hfirst, hlast⟩, hfirst', hlast'⟩ := civilDate_bounds (t / 86400)
  obtain ⟨a, b, hab, hmonth⟩ := zeroPadded_two (n := (civilDate (t / 86400)).month.toNat) (by omega)
  obtain ⟨c, d, hcd, hday⟩ := zeroPadded_two (n := (civilDate (t / 86400)).day.toNat) (by omega)
  obtain ⟨e, f, hef, hhour⟩ := zeroPadded_two (n := (t % 86400 / 3600).toNat) (by omega)
  obtain ⟨g, h, hgh, hminute⟩ := zeroPadded_two (n := (t % 86400 / 60 % 60).toNat) (by omega)
  obtain ⟨i, j, hij, hsecond⟩ := zeroPadded_two (n := (t % 86400 % 60).toNat) (by omega)
  have hyear := decodeYear_icsTime (civilDate (t / 86400)).year
  generalize hdigits : ((if (civilDate (t / 86400)).year < 0 then "-" else "") ++
    zeroPadded 4 (civilDate (t / 86400)).year.natAbs).toList = digits at hyear
  have htext : (icsTime t).toList = digits ++ [a, b, c, d, 'T', e, f, g, h, i, j, 'Z'] := by
    simp only [icsTime, String.toList_append, hab, hcd, hef, hgh, hij, ← hdigits]
    simp
  have hsplit : (digits ++ [a, b, c, d, 'T', e, f, g, h, i, j, 'Z']).length - 12 = digits.length := by
    simp
  rw [htext]
  unfold decodeTime
  rw [hsplit, List.drop_left, List.take_left]
  simp only [hyear, hmonth, hday, hhour, hminute, hsecond, Option.bind_eq_bind, Option.bind_some]
  have hdate : (⟨(civilDate (t / 86400)).year, (civilDate (t / 86400)).month.toNat,
      (civilDate (t / 86400)).day.toNat⟩ : CivilDate) = civilDate (t / 86400) := by
    rw [Int.toNat_of_nonneg (by omega), Int.toNat_of_nonneg (by omega)]
  rw [hdate, dayNumber_civilDate]
  exact congrArg some (by omega)

end Digits
end ScheduleSync
