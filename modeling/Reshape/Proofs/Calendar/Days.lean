import Reshape.Calendar.Date

namespace Reshape

/-- The days before a year of an era. Years begin on 1 March, so a leap day is the last of its year. -/
def daysBefore (year : Nat) : Nat :=
  year * 365 + year / 4 - year / 100

structure HoldsDay (year day : Nat) : Prop where
  era : year < 400
  short : day ≤ 365
  leap : day = 365 → year % 4 = 3 ∧ (year % 100 ≠ 99 ∨ year = 399)

theorem daysBefore_eq {a q r : Nat} (hr : r < 4) (h : 4 * q + r < 100) :
    daysBefore (100 * a + (4 * q + r)) = 36524 * a + 1461 * q + 365 * r := by
  have fours : (100 * a + (4 * q + r)) / 4 = 25 * a + q := by omega
  have centuries : (100 * a + (4 * q + r)) / 100 = a := by omega
  rw [daysBefore, fours, centuries]
  omega

theorem HoldsDay.yearOfEra_eq {year day : Nat} (h : HoldsDay year day) :
    let d := daysBefore year + day
    (d - d / 1460 + d / 36524 - d / 146096) / 365 = year := by
  obtain ⟨hyear, hday, leap⟩ := h
  intro d
  obtain ⟨a, b, rfl, hb⟩ : ∃ a b, year = 100 * a + b ∧ b < 100 :=
    ⟨year / 100, year % 100, by omega, by omega⟩
  obtain ⟨q, r, rfl, hr⟩ : ∃ q r, b = 4 * q + r ∧ r < 4 := ⟨b / 4, b % 4, by omega, by omega⟩
  have count : d = 36524 * a + 1461 * q + 365 * r + day := congrArg (· + day) (daysBefore_eq hr hb)
  clear_value d
  by_cases last : 1461 * q + 365 * r + day < 36524
  · have fours : d / 1460 = 25 * a + q + (24 * a + q + 365 * r + day) / 1460 := by omega
    have centuries : d / 36524 = a := by omega
    have early : d / 146096 = 0 := by omega
    have once : (24 * a + q + 365 * r + day) / 1460 ≤ day := by omega
    have full : day = 365 → 1 ≤ (24 * a + q + 365 * r + day) / 1460 := by omega
    rw [fours, centuries, early]
    generalize (24 * a + q + 365 * r + day) / 1460 = extra at once full
    subst count
    clear leap fours centuries early
    omega
  · -- Only the leap day at the end of the era is so late.
    obtain ⟨rfl, rfl, rfl⟩ : q = 24 ∧ r = 3 ∧ day = 365 := by omega
    obtain rfl : a = 3 := by omega
    subst count
    decide

theorem exists_holdsDay {d : Nat} (h : d < 146097) :
    ∃ year day, HoldsDay year day ∧ d = daysBefore year + day := by
  obtain ⟨a, b, rfl, ha, hb⟩ : ∃ a b, d = 36524 * a + b ∧ a < 4 ∧ (b < 36524 ∨ a = 3 ∧ b = 36524) :=
    ⟨min 3 (d / 36524), d - 36524 * min 3 (d / 36524), by omega, by omega, by omega⟩
  obtain ⟨q, c, rfl, hc⟩ : ∃ q c, b = 1461 * q + c ∧ c < 1461 :=
    ⟨b / 1461, b % 1461, by omega, by omega⟩
  obtain ⟨r, e, rfl, hr, he⟩ : ∃ r e, c = 365 * r + e ∧ r < 4 ∧ (e < 365 ∨ r = 3 ∧ e = 365) :=
    ⟨min 3 (c / 365), c - 365 * min 3 (c / 365), by omega, by omega, by omega⟩
  have century : 4 * q + r < 100 := by omega
  refine ⟨100 * a + (4 * q + r), e, ⟨by omega, by omega, by omega⟩, ?_⟩
  rw [daysBefore_eq hr century]
  omega

theorem HoldsDay.lt {year day : Nat} (h : HoldsDay year day) : daysBefore year + day < 146097 := by
  obtain ⟨era, short, leap⟩ := h
  unfold daysBefore
  omega

def daysBeforeMonth (march : Nat) : Nat :=
  (153 * march + 2) / 5

def monthOf (march : Nat) : Nat :=
  if march < 10 then march + 3 else march - 9

structure InMonth (march day : Nat) : Prop where
  first : daysBeforeMonth march ≤ day
  last : day < daysBeforeMonth (march + 1)

theorem InMonth.march_eq {march day : Nat} (h : InMonth march day) :
    (5 * day + 2) / 153 = march := by
  obtain ⟨first, last⟩ := h
  unfold daysBeforeMonth at first last
  omega

theorem InMonth.march_lt {march day : Nat} (h : InMonth march day) (short : day ≤ 365) :
    march < 12 := by
  rw [← h.march_eq]
  omega

theorem exists_inMonth (day : Nat) : ∃ march, InMonth march day := by
  refine ⟨(5 * day + 2) / 153, ?_, ?_⟩
  · unfold daysBeforeMonth
    omega
  · unfold daysBeforeMonth
    omega

theorem exists_march {month : Nat} (h : 1 ≤ month) (h' : month ≤ 12) :
    ∃ march < 12, monthOf march = month := by
  by_cases early : month ≤ 2
  · exact ⟨month + 9, by omega, by unfold monthOf; split <;> omega⟩
  · exact ⟨month - 3, by omega, by unfold monthOf; split <;> omega⟩

theorem marchMonth_monthOf {march : Nat} (h : march < 12) :
    (if 2 < monthOf march then monthOf march - 3 else monthOf march + 9) = march := by
  unfold monthOf
  split <;> split <;> omega

theorem daysInMonth_le (year : Int) {march : Nat} (h : march < 12) :
    daysBeforeMonth march + daysInMonth year (monthOf march) ≤ daysBeforeMonth (march + 1) := by
  have months : march = 0 ∨ march = 1 ∨ march = 2 ∨ march = 3 ∨ march = 4 ∨ march = 5 ∨ march = 6 ∨
      march = 7 ∨ march = 8 ∨ march = 9 ∨ march = 10 ∨ march = 11 := by omega
  have february : daysInMonth year 2 ≤ 29 := by
    simp only [daysInMonth, if_true]
    split <;> omega
  rcases months with rfl | rfl | rfl | rfl | rfl | rfl | rfl | rfl | rfl | rfl | rfl | rfl
  case inr.inr.inr.inr.inr.inr.inr.inr.inr.inr.inr =>
    exact Nat.le_trans (Nat.add_le_add_left february _) (by decide)
  all_goals exact Nat.le_of_ble_eq_true rfl

theorem lastDay_le {year : Int} {march day : Nat} (h : march < 12)
    (within : day ≤ daysInMonth year (monthOf march)) :
    daysBeforeMonth march + day ≤ 366 ∧
      (daysBeforeMonth march + day = 366 → march = 11 ∧ isLeapYear year) := by
  have fits := daysInMonth_le year h
  by_cases february : march = 11
  · subst february
    have start : daysBeforeMonth 11 = 337 := by decide
    have days : daysInMonth year (monthOf 11) = if isLeapYear year then 29 else 28 := rfl
    rw [days] at within
    split at within
    · rename_i leap
      exact ⟨by omega, fun _ => ⟨rfl, leap⟩⟩
    · exact ⟨by omega, by omega⟩
  · unfold daysBeforeMonth at fits ⊢
    exact ⟨by omega, by omega⟩

namespace Date

structure Stands (d : Date) (era : Int) (year march day : Nat) : Prop where
  holds : HoldsDay year day
  within : InMonth march day
  year_eq : d.year = era * 400 + year + if monthOf march ≤ 2 then 1 else 0
  month_eq : d.month = monthOf march
  day_eq : d.day = day - daysBeforeMonth march + 1

theorem ofYmd?_self (d : Date) : ofYmd? d.year d.month d.day = some d :=
  dif_pos d.valid

theorem eq_of_ofYmd? {year : Int} {month day : Nat} {d : Date}
    (h : ofYmd? year month day = some d) : d.year = year ∧ d.month = month ∧ d.day = day := by
  unfold ofYmd? at h
  split at h
  · cases h
    exact ⟨rfl, rfl, rfl⟩
  · cases h

theorem exists_stands (d : Date) : ∃ era year march day, d.Stands era year march day := by
  obtain ⟨_, _, hm, hm', hd, hd'⟩ := d.valid
  obtain ⟨march, twelve, month⟩ := exists_march hm hm'
  rw [← month] at hd'
  have fits := daysInMonth_le d.year twelve
  obtain ⟨short, leap⟩ := lastDay_le twelve hd'
  have holds : HoldsDay ((d.year - if monthOf march ≤ 2 then 1 else 0) % 400).toNat
      (daysBeforeMonth march + d.day - 1) := by
    refine ⟨by omega, by omega, fun last => ?_⟩
    obtain ⟨rfl, leap⟩ := leap (by omega)
    have earlier : (if monthOf 11 ≤ 2 then 1 else 0) = (1 : Int) := rfl
    simp only [isLeapYear, Bool.and_eq_true, beq_iff_eq, Bool.or_eq_true, bne_iff_ne] at leap
    rw [earlier]
    omega
  exact ⟨(d.year - if monthOf march ≤ 2 then 1 else 0) / 400, _, march, _, holds,
    ⟨by omega, by omega⟩, by omega, month.symm, by omega⟩

theorem ofEpochDays?_era (era : Int) {year march day : Nat} (holds : HoldsDay year day)
    (within : InMonth march day) :
    ofEpochDays? (era * 146097 + (daysBefore year + day : Nat) - epochOffset) =
      ofYmd? (era * 400 + year + if monthOf march ≤ 2 then 1 else 0) (monthOf march)
        (day - daysBeforeMonth march + 1) := by
  have bound := holds.lt
  have years := holds.yearOfEra_eq
  generalize count : daysBefore year + day = n at bound years
  have shifted : era * 146097 + (n : Nat) - epochOffset + epochOffset = era * 146097 + n :=
    Int.sub_add_cancel _ _
  have quotient : Int.fdiv (era * 146097 + n) 146097 = era := by
    rw [Int.fdiv_eq_ediv_of_nonneg _ (by decide)]
    omega
  have rest : (Int.fmod (era * 146097 + n) 146097).toNat = n := by
    rw [Int.fmod_eq_emod_of_nonneg _ (by decide)]
    omega
  have days : n - (365 * year + year / 4 - year / 100) = day := by
    rw [← count, daysBefore]
    omega
  simp only [ofEpochDays?, shifted, quotient, rest, years, days, within.march_eq]
  rfl

namespace Stands

variable {d : Date} {era : Int} {year march day : Nat} (h : d.Stands era year march day)

include h

theorem ofEpochDays? :
    ofEpochDays? (era * 146097 + (daysBefore year + day : Nat) - epochOffset) = some d := by
  rw [ofEpochDays?_era era h.holds h.within, ← h.year_eq, ← h.month_eq, ← h.day_eq, ofYmd?_self]

theorem epochDays_eq : d.epochDays = era * 146097 + (daysBefore year + day : Nat) - epochOffset := by
  have month := marchMonth_monthOf (h.within.march_lt h.holds.short)
  have counted : (if monthOf march ≤ 2 then d.year - 1 else d.year) = era * 400 + year := by
    rw [h.year_eq]
    split <;> omega
  have early := h.holds.era
  have quotient : Int.fdiv (era * 400 + year) 400 = era := by
    rw [Int.fdiv_eq_ediv_of_nonneg _ (by decide)]
    omega
  have rest : (Int.fmod (era * 400 + year) 400).toNat = year := by
    rw [Int.fmod_eq_emod_of_nonneg _ (by decide)]
    omega
  have first := h.within.first
  have days : (153 * march + 2) / 5 + (day - daysBeforeMonth march + 1) - 1 = day := by
    rw [← daysBeforeMonth]
    omega
  simp only [epochDays, h.month_eq, h.day_eq, counted, quotient, rest, month, days]
  rfl

end Stands

theorem exists_stands_of_ofEpochDays? {days : Int} {d : Date} (h : ofEpochDays? days = some d) :
    ∃ era year march day, d.Stands era year march day ∧
      days = era * 146097 + (daysBefore year + day : Nat) - epochOffset := by
  obtain ⟨year, day, holds, count⟩ :=
    exists_holdsDay (d := ((days + epochOffset) % 146097).toNat) (by omega)
  obtain ⟨march, within⟩ := exists_inMonth day
  have same : days = (days + epochOffset) / 146097 * 146097 + (daysBefore year + day : Nat) -
      epochOffset := by omega
  rw [same, ofEpochDays?_era _ holds within] at h
  obtain ⟨inYear, inMonth, onDay⟩ := eq_of_ofYmd? h
  exact ⟨_, year, march, day, ⟨holds, within, inYear, inMonth, onDay⟩, same⟩

/-- A date and its distance from 1970-01-01 determine each other. -/
theorem ofEpochDays?_eq_some_iff {days : Int} {d : Date} :
    ofEpochDays? days = some d ↔ d.epochDays = days := by
  constructor
  · intro h
    obtain ⟨era, year, march, day, stands, rfl⟩ := exists_stands_of_ofEpochDays? h
    exact stands.epochDays_eq
  · rintro rfl
    obtain ⟨era, year, march, day, stands⟩ := d.exists_stands
    rw [stands.epochDays_eq]
    exact stands.ofEpochDays?

/-- The leap day that ends an era, and the last day of a year before the year 0. -/
example : (ofEpochDays? 11016).map (fun d => (d.year, d.month, d.day)) = some (2000, 2, 29) ∧
    (ofEpochDays? (-719529)).map (fun d => (d.year, d.month, d.day)) = some (-1, 12, 31) := by
  decide

end Date

theorem Time.ofHms?_eq_some_iff {hour minute second nanos : Nat} {t : Time} :
    Time.ofHms? hour minute second nanos = some t ↔
      t.hour = hour ∧ t.minute = minute ∧ t.second = second ∧ t.nanos = nanos := by
  constructor
  · intro h
    unfold Time.ofHms? at h
    split at h
    · cases h
      exact ⟨rfl, rfl, rfl, rfl⟩
    · cases h
  · rintro ⟨rfl, rfl, rfl, rfl⟩
    exact dif_pos t.valid

namespace DateTime

/-- A moment and its distance from the start of 1970 determine each other, if the moment is a whole
number of milliseconds outside a leap second. -/
theorem ofMillis?_eq_some_iff {millis : Int} {t : DateTime} :
    ofMillis? millis = some t ↔
      t.toMillis = millis ∧ t.time.second < 60 ∧ t.time.nanos % 1000000 = 0 := by
  obtain ⟨date, time⟩ := t
  obtain ⟨hh, hm, -, hn⟩ := time.valid
  simp only [ofMillis?, toMillis, Int.fdiv_eq_ediv_of_nonneg _ (by decide : (0 : Int) ≤ 1000),
    Int.fmod_eq_emod_of_nonneg _ (by decide : (0 : Int) ≤ 1000),
    Int.fdiv_eq_ediv_of_nonneg _ (by decide : (0 : Int) ≤ 86400),
    Int.fmod_eq_emod_of_nonneg _ (by decide : (0 : Int) ≤ 86400)]
  constructor
  · intro h
    simp only [Option.bind_eq_bind, Option.bind_eq_some_iff, Option.pure_def, Option.some.injEq,
      DateTime.mk.injEq] at h
    obtain ⟨_, day, _, clock, rfl, rfl⟩ := h
    obtain ⟨hour, minute, second, nanos⟩ := Time.ofHms?_eq_some_iff.mp clock
    rw [Date.ofEpochDays?_eq_some_iff.mp day, hour, minute, second, nanos]
    omega
  · rintro ⟨same, short, whole⟩
    have day : date.epochDays = millis / 1000 / 86400 := by omega
    have clock : Time.ofHms? ((millis / 1000 % 86400).toNat / 3600)
        ((millis / 1000 % 86400).toNat / 60 % 60) ((millis / 1000 % 86400).toNat % 60)
        ((millis % 1000).toNat * 1000000) = some time := by
      rw [Time.ofHms?_eq_some_iff]
      omega
    rw [Date.ofEpochDays?_eq_some_iff.mpr day, Option.bind_eq_bind, Option.bind_some, clock]
    rfl

theorem toMillis_of_addMinutes? {t u : DateTime} {minutes : Int} (h : t.addMinutes? minutes = some u) :
    u.toMillis = t.toMillis + minutes * 60000 := by
  simp only [addMinutes?, Option.bind_eq_bind, Option.bind_eq_some_iff, Option.pure_def,
    Option.some.injEq, Int.fdiv_eq_ediv_of_nonneg _ (by decide : (0 : Int) ≤ 1440),
    Int.fmod_eq_emod_of_nonneg _ (by decide : (0 : Int) ≤ 1440)] at h
  obtain ⟨date, day, time, clock, rfl⟩ := h
  obtain ⟨hour, minute, second, nanos⟩ := Time.ofHms?_eq_some_iff.mp clock
  rw [toMillis, toMillis, Date.ofEpochDays?_eq_some_iff.mp day, hour, minute, second, nanos]
  omega

end DateTime

end Reshape
