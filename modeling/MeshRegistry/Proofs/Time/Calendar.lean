import Mathlib.Algebra.BigOperators.Intervals
import Mathlib.Algebra.Order.BigOperators.Group.Finset
import Mathlib.Tactic.SplitIfs
import MeshRegistry.Time.Calendar

/-!
# The calendar

A date has a number: the days of the years and months before it, added up from the start of 1970.
The date made for a number of days is a date of the Gregorian calendar and has that number.
-/

namespace MeshRegistry.Time

/-! ## The rules of the calendar -/

/-- The days of a month.  A year has a leap day when four divides it, but of the full centuries only
every fourth. -/
def daysIn (year month : Nat) : Nat :=
  match month with
  | 2 => if 4 ∣ year ∧ (100 ∣ year → 400 ∣ year) then 29 else 28
  | 4 | 6 | 9 | 11 => 30
  | _ => 31

theorem daysIn_le (year month : Nat) : daysIn year month ≤ 31 := by
  unfold daysIn
  split
  · split_ifs <;> decide
  all_goals decide

/-- The days of the months from the first month of a year up to another month. -/
def daysToMonth (year month : Nat) : Nat :=
  ∑ m ∈ Finset.Ico 1 month, daysIn year m

/-- The days of the years from one year up to another. -/
def daysBetween (year year' : Nat) : Nat :=
  ∑ y ∈ Finset.Ico year year', daysToMonth y 13

namespace Date

/-- A date of the calendar, from 1970 on. -/
structure IsValid (d : Date) : Prop where
  year_ge : 1970 ≤ d.year
  month_pos : 1 ≤ d.month
  month_le : d.month ≤ 12
  day_pos : 1 ≤ d.day
  day_le : d.day ≤ daysIn d.year d.month

/-- The days from the first of January 1970 to a date. -/
def number (d : Date) : Nat :=
  daysBetween 1970 d.year + daysToMonth d.year d.month + (d.day - 1)

/-- Earlier by the year, or by the month, or by the day. -/
def Before (d d' : Date) : Prop :=
  d.year < d'.year ∨
    d.year = d'.year ∧ (d.month < d'.month ∨ d.month = d'.month ∧ d.day < d'.day)

end Date

/-! ## Months and years -/

theorem isLeap_iff (year : Nat) :
    isLeap year = true ↔ 4 ∣ year ∧ (100 ∣ year → 400 ∣ year) := by
  simp only [isLeap, Bool.and_eq_true, Bool.or_eq_true, decide_eq_true_eq]
  omega

theorem monthLengths_eq (year : Nat) :
    monthLengths year = (List.range' 1 12).map (daysIn year) := by
  simp only [monthLengths, isLeap_iff]
  rfl

theorem daysToMonth_succ {month : Nat} (h : 1 ≤ month) (year : Nat) :
    daysToMonth year (month + 1) = daysToMonth year month + daysIn year month :=
  Finset.sum_Ico_succ_top h _

theorem daysToMonth_mono (year : Nat) {month month' : Nat} (h : month ≤ month') :
    daysToMonth year month ≤ daysToMonth year month' :=
  Finset.sum_le_sum_of_subset (Finset.Ico_subset_Ico_right h)

theorem yearLength_eq (year : Nat) : yearLength year = daysToMonth year 13 := by
  simp only [yearLength, isLeap_iff, daysToMonth, Finset.sum_Ico_eq_sum_range,
    Finset.sum_range_succ, daysIn]
  split_ifs <;> rfl

theorem daysBetween_succ {year year' : Nat} (h : year ≤ year') :
    daysBetween year (year' + 1) = daysBetween year year' + yearLength year' := by
  rw [yearLength_eq]
  exact Finset.sum_Ico_succ_top h _

theorem daysBetween_mono (year : Nat) {year' year'' : Nat} (h : year' ≤ year'') :
    daysBetween year year' ≤ daysBetween year year'' :=
  Finset.sum_le_sum_of_subset (Finset.Ico_subset_Ico_right h)

/-- The days of the years before a year, from the year 0 on. -/
def daysBeforeYear (year : Nat) : Nat :=
  365 * year + (year + 3) / 4 + (year + 399) / 400 - (year + 99) / 100

/-- Counting the multiples below the next number adds one behind a multiple. -/
theorem multiples_succ (n k : Nat) :
    (n + 1 + k) / (k + 1) = (n + k) / (k + 1) + if k + 1 ∣ n then 1 else 0 := by
  rw [Nat.add_right_comm, Nat.succ_div]
  simp only [Nat.add_assoc, Nat.dvd_add_self_right]

theorem daysBeforeYear_succ (year : Nat) :
    daysBeforeYear (year + 1) = daysBeforeYear year + yearLength year := by
  have hcenturies : (year + 99) / 100 ≤ (year + 3) / 4 := by omega
  have hfour : 100 ∣ year → 4 ∣ year := Nat.dvd_trans (by decide)
  have hcentury : 400 ∣ year → 100 ∣ year := Nat.dvd_trans (by decide)
  simp only [daysBeforeYear, yearLength, isLeap_iff, multiples_succ]
  -- What is left depends on the quotients only through `hcenturies`.
  generalize (year + 99) / 100 = centuries at *
  generalize (year + 3) / 4 = fours at *
  split_ifs <;> omega

theorem daysBetween_eq {a b : Nat} (h : a ≤ b) :
    daysBeforeYear a + daysBetween a b = daysBeforeYear b := by
  induction b, h using Nat.le_induction with
  | base => simp [daysBetween]
  | succ b hb ih =>
      calc daysBeforeYear a + daysBetween a (b + 1)
          = daysBeforeYear a + daysBetween a b + yearLength b := by
            rw [daysBetween_succ hb, Nat.add_assoc]
        _ = daysBeforeYear b + yearLength b := by rw [ih]
        _ = daysBeforeYear (b + 1) := (daysBeforeYear_succ b).symm

theorem daysBetween_eq_sub {a b : Nat} (h : a ≤ b) :
    daysBetween a b = daysBeforeYear b - daysBeforeYear a :=
  (Nat.sub_eq_of_eq_add' (daysBetween_eq h).symm).symm

/-- Four hundred years have the days of a cycle, wherever they start. -/
theorem daysBeforeYear_cycles (year count : Nat) :
    daysBeforeYear (year + 400 * count) = daysBeforeYear year + cycleLength * count := by
  unfold daysBeforeYear cycleLength
  omega

/-! ## Finding the year and the month -/

/-- Counting years off keeps the day where it is, and ends in the year that it falls into. -/
theorem yearAndDay_spec (year days : Nat) :
    year ≤ (yearAndDay year days).1 ∧
      (yearAndDay year days).2 < yearLength (yearAndDay year days).1 ∧
      daysBeforeYear (yearAndDay year days).1 + (yearAndDay year days).2 =
        daysBeforeYear year + days := by
  fun_induction yearAndDay year days with
  | case1 year days h => exact ⟨Nat.le_refl year, h, rfl⟩
  | case2 year days h ih =>
      obtain ⟨hle, hlt, hday⟩ := ih
      rw [daysBeforeYear_succ] at hday
      exact ⟨by omega, hlt, by omega⟩

/-- In the same way months are counted off a year that has enough of them. -/
theorem monthAndDay_spec (year : Nat) {month : Nat} (hmonth : 1 ≤ month) (count days : Nat)
    (hdays : daysToMonth year month + days < daysToMonth year (month + count)) :
    ∃ month' day, monthAndDay month days ((List.range' month count).map (daysIn year)) =
        (month', day) ∧
      month ≤ month' ∧ month' < month + count ∧ day < daysIn year month' ∧
      daysToMonth year month' + day = daysToMonth year month + days := by
  induction count generalizing month days with
  | zero =>
      rw [Nat.add_zero] at hdays
      omega
  | succ count ih =>
      have hsucc := daysToMonth_succ hmonth year
      rw [List.range'_succ, List.map_cons, monthAndDay]
      by_cases hin : days < daysIn year month
      · rw [if_pos hin]
        exact ⟨month, days, rfl, Nat.le_refl month, by omega, hin, rfl⟩
      · rw [if_neg hin]
        have hrest : daysToMonth year (month + 1) + (days - daysIn year month) <
            daysToMonth year (month + 1 + count) := by
          rw [Nat.add_right_comm month 1 count, Nat.add_assoc month count 1]
          omega
        obtain ⟨month', day, hfound, hle, hlt, hday, hsum⟩ :=
          ih (by omega) (days - daysIn year month) hrest
        exact ⟨month', day, hfound, by omega, by omega, hday, by omega⟩

namespace Date

/-- The year, the month and the day of a date account for all the days it was made for. -/
theorem exists_ofDays_eq (days : Nat) :
    ∃ year month inMonth, ofDays days = ⟨year, month, inMonth + 1⟩ ∧
      1970 ≤ year ∧ 1 ≤ month ∧ month ≤ 12 ∧ inMonth < daysIn year month ∧
      daysBeforeYear year + daysToMonth year month + inMonth = daysBeforeYear 1970 + days := by
  obtain ⟨hyear, hinYear, hday⟩ :=
    yearAndDay_spec (1970 + 400 * (days / cycleLength)) (days % cycleLength)
  generalize hfound : yearAndDay (1970 + 400 * (days / cycleLength)) (days % cycleLength) = found
    at hyear hinYear hday
  obtain ⟨year, inYear⟩ := found
  dsimp only at hyear hinYear hday
  -- The cycles that were skipped and the days that were counted off add up again.
  rw [daysBeforeYear_cycles, Nat.add_assoc, Nat.div_add_mod] at hday
  have hstart : daysToMonth year 1 = 0 := rfl
  have hwhole : daysToMonth year 1 + inYear < daysToMonth year (1 + 12) := by
    rw [hstart, Nat.zero_add, ← yearLength_eq]
    exact hinYear
  obtain ⟨month, inMonth, hmonth, hmonth_pos, hmonth_lt, hinMonth, hsum⟩ :=
    monthAndDay_spec year (Nat.le_refl 1) 12 inYear hwhole
  refine ⟨year, month, inMonth, ?_, by omega, hmonth_pos, by omega, hinMonth, by omega⟩
  rw [ofDays, hfound]
  dsimp only
  rw [monthLengths_eq, hmonth]

/-- The date made for a number of days is a date of the calendar. -/
theorem isValid_ofDays (days : Nat) : (ofDays days).IsValid := by
  obtain ⟨year, month, inMonth, hdate, hyear, hmonth_pos, hmonth_le, hinMonth, -⟩ :=
    exists_ofDays_eq days
  rw [hdate]
  exact ⟨hyear, hmonth_pos, hmonth_le, Nat.succ_pos inMonth, hinMonth⟩

/-- So many days lie before it. -/
theorem number_ofDays (days : Nat) : (ofDays days).number = days := by
  obtain ⟨year, month, inMonth, hdate, hyear, -, -, -, hsum⟩ := exists_ofDays_eq days
  have hyears := daysBetween_eq hyear
  rw [hdate]
  dsimp only [number]
  omega

/-! ## Earlier dates -/

variable {d d' : Date}

theorem month_le_number (d : Date) :
    daysBetween 1970 d.year + daysToMonth d.year d.month ≤ d.number :=
  Nat.le_add_right _ _

theorem year_le_number (d : Date) : daysBetween 1970 d.year ≤ d.number :=
  (Nat.le_add_right _ _).trans d.month_le_number

theorem IsValid.number_lt_month (hd : d.IsValid) :
    d.number < daysBetween 1970 d.year + daysToMonth d.year (d.month + 1) := by
  have hmonth := daysToMonth_succ hd.month_pos d.year
  have hpos := hd.day_pos
  have hle := hd.day_le
  unfold number
  omega

/-- The year of a date shows in its number. -/
theorem IsValid.year_lt_iff (hd : d.IsValid) (year : Nat) :
    d.year < year ↔ d.number < daysBetween 1970 year := by
  constructor
  · intro hlt
    calc d.number
        < daysBetween 1970 d.year + daysToMonth d.year (d.month + 1) := hd.number_lt_month
      _ ≤ daysBetween 1970 d.year + daysToMonth d.year 13 :=
          Nat.add_le_add_left (daysToMonth_mono d.year (Nat.succ_le_succ hd.month_le)) _
      _ = daysBetween 1970 (d.year + 1) := by rw [daysBetween_succ hd.year_ge, yearLength_eq]
      _ ≤ daysBetween 1970 year := daysBetween_mono 1970 hlt
  · intro hlt
    by_contra hge
    have hmono := daysBetween_mono 1970 (Nat.le_of_not_lt hge)
    exact absurd hlt (Nat.not_lt_of_le (hmono.trans d.year_le_number))

theorem number_lt_of_before (hd : d.IsValid) (h : d.Before d') :
    d.number < d'.number := by
  rcases h with hyear | ⟨hyear, hmonth | ⟨hmonth, hday⟩⟩
  · exact Nat.lt_of_lt_of_le ((hd.year_lt_iff d'.year).1 hyear) d'.year_le_number
  · calc d.number
        < daysBetween 1970 d.year + daysToMonth d.year (d.month + 1) := hd.number_lt_month
      _ ≤ daysBetween 1970 d'.year + daysToMonth d'.year d'.month := by
          rw [hyear]
          exact Nat.add_le_add_left (daysToMonth_mono d'.year hmonth) _
      _ ≤ d'.number := d'.month_le_number
  · have hpos := hd.day_pos
    rw [number, number, ← hyear, ← hmonth]
    omega

theorem before_or_eq_or_before (d d' : Date) : d.Before d' ∨ d = d' ∨ d'.Before d := by
  obtain ⟨year, month, day⟩ := d
  obtain ⟨year', month', day'⟩ := d'
  simp only [Before, Date.mk.injEq]
  omega

/-- The order of dates is that of their numbers. -/
theorem before_of_number_lt (hd' : d'.IsValid) (h : d.number < d'.number) : d.Before d' := by
  rcases before_or_eq_or_before d d' with hbefore | rfl | hafter
  · exact hbefore
  · exact absurd h (Nat.lt_irrefl _)
  · exact absurd h (Nat.lt_asymm (number_lt_of_before hd' hafter))

/-- Dates with one number are one date. -/
theorem eq_of_number_eq (hd : d.IsValid) (hd' : d'.IsValid) (h : d.number = d'.number) : d = d' := by
  rcases before_or_eq_or_before d d' with hbefore | heq | hafter
  · exact absurd h (number_lt_of_before hd hbefore).ne
  · exact heq
  · exact absurd h (number_lt_of_before hd' hafter).ne'

end Date

end MeshRegistry.Time
