import Mathlib.Tactic.IntervalCases
import Mathlib.Tactic.Linarith
import Mathlib.Tactic.Ring
import TableExport.Time.Calendar

/-! # Days and dates

A day is a year and a day of that year, both counted from the first of March
(`Date.exists_marchYear`); the leap day is then the last day of its year.  A year has a place in its
century and its century a place in the period of 400 years (`Date.exists_placeInPeriod`), from which
the conversion finds it (`Date.yearOfPeriod_eq`).

Main statements: the date of every day, before and after 1970, is one that the calendar has, and its
day is that day (`Date.isValid_ofDay`, `Date.toDay_ofDay`); the same holds of seconds
(`DateTime.isValid_ofSeconds`, `DateTime.toSeconds_ofSeconds`).  The day of a date lies between the
first days of its year and the next (`Date.IsValid.toDay_mem`). -/

namespace TableExport

namespace Date

/-! ### Periods of 400 years -/

/-- A day of a period lies in a century, a group of four years, a year of that group, all counted
from the first of March.  Only the last year of a group has a day of number 365, unless the group is
the last one of a century other than the last. -/
theorem exists_placeInPeriod {day : Int} (h : 0 ≤ day) (h' : day < 146097) :
    ∃ century group year place : Int,
      day = 36524 * century + 1461 * group + 365 * year + place ∧
      0 ≤ century ∧ century ≤ 3 ∧ 0 ≤ group ∧ group ≤ 24 ∧ 0 ≤ year ∧ year ≤ 3 ∧ 0 ≤ place ∧
      (place < 365 ∨ place = 365 ∧ year = 3 ∧ (group < 24 ∨ century = 3)) := by
  have hcentury : ∃ century rest : Int, day = 36524 * century + rest ∧ 0 ≤ century ∧
      century ≤ 3 ∧ 0 ≤ rest ∧ (rest < 36524 ∨ century = 3 ∧ rest = 36524) := by
    by_cases hlast : day = 146096
    · exact ⟨3, 36524, by omega⟩
    · exact ⟨day / 36524, day % 36524, by omega⟩
  obtain ⟨century, rest, rfl, hcentury, hcentury', hrest, hrest'⟩ := hcentury
  have hyear : ∃ year place : Int, rest % 1461 = 365 * year + place ∧ 0 ≤ year ∧ year ≤ 3 ∧
      0 ≤ place ∧ (place < 365 ∨ year = 3 ∧ place = 365) := by
    by_cases hlast : rest % 1461 = 1460
    · exact ⟨3, 365, by omega⟩
    · exact ⟨rest % 1461 / 365, rest % 1461 % 365, by omega⟩
  obtain ⟨year, place, hsum, hyear, hyear', hplace, hplace'⟩ := hyear
  exact ⟨century, rest / 1461, year, place, by omega, hcentury, hcentury', by omega, by omega,
    hyear, hyear', hplace, by omega⟩

/-- The year is found as the quotient of the days that are left without the leap days. -/
theorem yearOfPeriod_eq {day century group year place : Int}
    (hday : day = 36524 * century + 1461 * group + 365 * year + place) (hcentury : 0 ≤ century)
    (hcentury' : century ≤ 3) (hgroup : 0 ≤ group) (hgroup' : group ≤ 24) (hyear : 0 ≤ year)
    (hyear' : year ≤ 3) (hplace : 0 ≤ place)
    (hplace' : place < 365 ∨ place = 365 ∧ year = 3 ∧ (group < 24 ∨ century = 3)) :
    (day - day / 1460 + day / 36524 - day / 146096) / 365 = 100 * century + 4 * group + year := by
  have hcenturies : day / 36524 - day / 146096 = century := by
    by_cases hlast : day = 146096
    · omega
    · have hfirst : 36524 * century ≤ day := by omega
      have hnext : day < 36524 * (century + 1) := by omega
      have hzero : day / 146096 = 0 := by omega
      omega
  have hleapDays : day / 1460 =
      25 * century + group + (24 * century + group + 365 * year + place) / 1460 := by
    omega
  have hrest : (place - (24 * century + group + 365 * year + place) / 1460) / 365 = 0 := by omega
  omega

/-! ### Years from March -/

/-- The number of days from the first of March of year 0 to the first of March of a year. -/
def daysBeforeMarch (year : Int) : Int :=
  365 * year + year / 4 - year / 100 + year / 400

/-- The number of days from the first of March of a year to the next. -/
def marchYearLength (year : Int) : Int :=
  if isLeap (year + 1) then 366 else 365

/-- The date of a day of a year, both counted from the first of March. -/
def ofMarch (year dayOfYear : Int) : Date :=
  let monthFromMarch := (5 * dayOfYear + 2) / 153
  let dayOfMonth := dayOfYear - (153 * monthFromMarch + 2) / 5 + 1
  let month := if monthFromMarch < 10 then monthFromMarch + 3 else monthFromMarch - 9
  ⟨year + (if month ≤ 2 then 1 else 0), month.toNat, dayOfMonth.toNat⟩

theorem isLeap_iff (year : Int) :
    isLeap year = true ↔ year % 4 = 0 ∧ (year % 100 ≠ 0 ∨ year % 400 = 0) := by
  simp [isLeap]

/-- The leap days of the years of a period. -/
theorem quotients_of_place {century group year : Int} (hcentury : 0 ≤ century)
    (hcentury' : century ≤ 3) (hgroup : 0 ≤ group) (hgroup' : group ≤ 24) (hyear : 0 ≤ year)
    (hyear' : year ≤ 3) (period : Int) :
    (100 * century + 4 * group + year + period * 400) / 4 = 25 * century + group + 100 * period ∧
      (100 * century + 4 * group + year + period * 400) / 100 = century + 4 * period ∧
      (100 * century + 4 * group + year + period * 400) / 400 = period := by
  refine ⟨by omega, by omega, by omega⟩

/-- The last year from March of a group ends in a leap year, unless the group is the last one of a
century other than the last. -/
theorem isLeap_of_place {century group : Int} (hcentury : century ≤ 3) (hgroup : 0 ≤ group)
    (hgroup' : group ≤ 24) (hlast : group < 24 ∨ century = 3) (period : Int) :
    isLeap (100 * century + 4 * group + 3 + period * 400 + 1) = true := by
  rw [isLeap_iff]
  refine ⟨by omega, ?_⟩
  by_cases hshort : group < 24
  · left
    omega
  · obtain rfl : century = 3 := hlast.resolve_left hshort
    right
    omega

/-- Every day lies in a year from March, and its date is found from its place there. -/
theorem exists_marchYear (day : Int) :
    ∃ year place, day = daysBeforeMarch year + place - 719468 ∧ 0 ≤ place ∧
      place < marchYearLength year ∧ ofDay day = ofMarch year place := by
  have hperiod : day + 719468 =
      146097 * ((day + 719468) / 146097) + (day + 719468) % 146097 :=
    (Int.mul_ediv_add_emod _ _).symm
  have hlow : 0 ≤ (day + 719468) % 146097 := Int.emod_nonneg _ (by decide)
  have hhigh : (day + 719468) % 146097 < 146097 := Int.emod_lt_of_pos _ (by decide)
  unfold ofDay
  dsimp only
  generalize (day + 719468) / 146097 = period at *
  generalize (day + 719468) % 146097 = dayOfPeriod at *
  obtain ⟨century, group, inGroup, place, rfl, hcentury, hcentury', hgroup, hgroup', hinGroup,
    hinGroup', hplace, hplace'⟩ := exists_placeInPeriod hlow hhigh
  have hfound := yearOfPeriod_eq rfl hcentury hcentury' hgroup hgroup' hinGroup hinGroup' hplace
    hplace'
  have hquotients := quotients_of_place hcentury hcentury' hgroup hgroup' hinGroup hinGroup'
  obtain ⟨hquarter, hhundred, -⟩ := hquotients 0
  rw [Int.zero_mul, Int.add_zero] at hquarter hhundred
  have hrest : 36524 * century + 1461 * group + 365 * inGroup + place
      - (365 * (100 * century + 4 * group + inGroup) + (100 * century + 4 * group + inGroup) / 4
        - (100 * century + 4 * group + inGroup) / 100) = place := by
    rw [hquarter, hhundred]
    ring
  refine ⟨100 * century + 4 * group + inGroup + period * 400, place, ?_, hplace, ?_, ?_⟩
  · obtain ⟨hquarter, hhundred, hfourHundred⟩ := hquotients period
    rw [daysBeforeMarch, hquarter, hhundred, hfourHundred]
    linarith
  · unfold marchYearLength
    rcases hplace' with hshort | ⟨rfl, rfl, hlast⟩
    · split <;> omega
    · rw [if_pos (isLeap_of_place hcentury' hgroup hgroup' hlast period)]
      decide
  · rw [hfound, hrest]
    rfl

/-! ### Months from March -/

theorem monthLength_fromMarch (year : Int) {month : Nat} (h : month < 10) :
    monthLength year (month + 3) = (153 * (month + 1) + 2) / 5 - (153 * month + 2) / 5 := by
  interval_cases month <;> rfl

theorem daysInMonths_add_three (year : Int) {month : Nat} (h : month < 10) :
    daysInMonths year (month + 2) = daysInMonths year 2 + (153 * month + 2) / 5 := by
  induction month with
  | zero => rfl
  | succ month ih =>
    rw [show month + 1 + 2 = (month + 2) + 1 from rfl, daysInMonths, ih (by omega),
      show month + 2 + 1 = month + 3 from rfl, monthLength_fromMarch year (by omega)]
    omega

theorem daysBeforeYear_succ (year : Int) : daysBeforeYear (year + 1) = daysBeforeMarch year := by
  simp [daysBeforeYear, daysBeforeMarch]

/-- January and February are the end of the year from March before. -/
theorem daysBeforeYear_add (year : Int) :
    daysBeforeYear year + daysInMonths year 2 = daysBeforeMarch year - 306 := by
  have hmonths : daysInMonths year 2 = 31 + if isLeap year then 29 else 28 := rfl
  have hleap := isLeap_iff year
  rw [hmonths, daysBeforeYear, daysBeforeMarch]
  by_cases h : isLeap year = true
  · rw [if_pos h]
    obtain ⟨hfour, hhundred⟩ := hleap.1 h
    omega
  · rw [if_neg h]
    have := mt hleap.2 h
    omega

/-- The months from March are counted by the days that lie before them. -/
theorem ofMarch_eq (year : Int) {month day : Nat}
    (hmonth : (5 * ((153 * month + 2) / 5 + day) + 2) / 153 = month) :
    ofMarch year ((153 * month + 2) / 5 + day : Nat) =
      ⟨year + (if (if month < 10 then month + 3 else month - 9) ≤ 2 then 1 else 0),
        if month < 10 then month + 3 else month - 9, day + 1⟩ := by
  have hmonth' : (5 * (((153 * month + 2) / 5 + day : Nat) : Int) + 2) / 153 = month := by
    exact_mod_cast hmonth
  have hday : (((153 * month + 2) / 5 + day : Nat) : Int) - (153 * month + 2) / 5 + 1
      = (day + 1 : Nat) := by
    push_cast
    ring
  have hnumber : (if (month : Int) < 10 then (month : Int) + 3 else month - 9)
      = (if month < 10 then month + 3 else month - 9 : Nat) := by
    split_ifs <;> omega
  simp only [ofMarch, hmonth', hday, hnumber, Int.toNat_natCast]
  norm_cast

theorem marchYearLength_le (year : Int) : marchYearLength year ≤ 366 := by
  unfold marchYearLength
  split <;> decide

/-- A day of a year from March lies in a month.  The months of January and February belong to the
next calendar year. -/
theorem exists_monthFromMarch {year place : Int} (h : 0 ≤ place)
    (h' : place < marchYearLength year) :
    ∃ month day : Nat, place = ((153 * month + 2) / 5 + day : Nat) ∧
      (month < 10 ∧ ofMarch year place = ⟨year, month + 3, day + 1⟩ ∧
          day < monthLength year (month + 3) ∨
        10 ≤ month ∧ month < 12 ∧ ofMarch year place = ⟨year + 1, month - 9, day + 1⟩ ∧
          day < monthLength (year + 1) (month - 9)) := by
  have hlength := marchYearLength_le year
  obtain ⟨place, rfl⟩ := Int.eq_ofNat_of_zero_le h
  obtain ⟨month, hmonth⟩ : ∃ month, (5 * place + 2) / 153 = month := ⟨_, rfl⟩
  obtain ⟨day, rfl⟩ : ∃ day, place = (153 * month + 2) / 5 + day :=
    Nat.exists_eq_add_of_le (by omega)
  have hday : day < (153 * (month + 1) + 2) / 5 - (153 * month + 2) / 5 := by omega
  refine ⟨month, day, rfl, ?_⟩
  rw [ofMarch_eq year hmonth]
  by_cases hlate : month < 10
  · left
    rw [if_pos hlate, if_neg (by omega), Int.add_zero, monthLength_fromMarch year hlate]
    exact ⟨hlate, rfl, hday⟩
  · right
    rw [if_neg hlate, if_pos (by omega)]
    refine ⟨by omega, by omega, rfl, ?_⟩
    rw [marchYearLength] at h'
    obtain rfl | rfl : month = 10 ∨ month = 11 := by omega
    · exact hday
    · show day < if isLeap (year + 1) then 29 else 28
      by_cases hleap : isLeap (year + 1) = true
      · rw [if_pos hleap] at h' ⊢
        omega
      · rw [if_neg hleap] at h' ⊢
        omega

/-- The date of a day of a year from March is one that the calendar has, and its day is that day. -/
theorem ofMarch_spec {year place : Int} (h : 0 ≤ place) (h' : place < marchYearLength year) :
    (ofMarch year place).IsValid ∧
      (ofMarch year place).toDay = daysBeforeMarch year + place - 719468 := by
  obtain ⟨month, day, rfl, ⟨hmonth, hdate, hday⟩ | ⟨hmonth, hmonth', hdate, hday⟩⟩ :=
    exists_monthFromMarch h h'
  · rw [hdate]
    have hmonths := daysInMonths_add_three year hmonth
    have hstart := daysBeforeYear_add year
    refine ⟨⟨by simp, by simp; omega, by simp, hday⟩, ?_⟩
    rw [toDay, show month + 3 - 1 = month + 2 from rfl, hmonths]
    push_cast
    linarith
  · rw [hdate]
    refine ⟨⟨by simp; omega, by simp; omega, by simp, hday⟩, ?_⟩
    rw [toDay, daysBeforeYear_succ]
    obtain rfl | rfl : month = 10 ∨ month = 11 := by omega
    · simp [daysInMonths]
      ring
    · simp [daysInMonths, monthLength]
      ring

theorem daysInMonths_mono (year : Int) : Monotone (daysInMonths year) :=
  monotone_nat_of_le_succ fun _ => Nat.le_add_right _ _

theorem daysBeforeYear_add_twelve (year : Int) :
    daysBeforeYear year + daysInMonths year 12 = daysBeforeYear (year + 1) := by
  have hnovember : daysInMonths year 11 = daysInMonths year 2 + 275 :=
    daysInMonths_add_three year (by decide : 9 < 10)
  have hdecember : daysInMonths year 12 = daysInMonths year 11 + 31 := rfl
  have hstart := daysBeforeYear_add year
  rw [daysBeforeYear_succ]
  omega

/-- The day of a date falls into its year. -/
theorem IsValid.toDay_mem {date : Date} (h : date.IsValid) :
    daysBeforeYear date.year < date.toDay + 719163 ∧
      date.toDay + 719163 ≤ daysBeforeYear (date.year + 1) := by
  obtain ⟨hmonth, hmonth', hday, hday'⟩ := h
  have hyear := daysBeforeYear_add_twelve date.year
  have hmonths := daysInMonths_mono date.year hmonth'
  have hlast : daysInMonths date.year (date.month - 1) + monthLength date.year date.month
      = daysInMonths date.year date.month := by
    obtain ⟨month, hsucc⟩ := Nat.exists_eq_add_of_le' hmonth
    rw [hsucc]
    rfl
  rw [toDay]
  omega

theorem daysBeforeYear_mono {year later : Int} (h : year ≤ later) :
    daysBeforeYear year ≤ daysBeforeYear later := by
  have hmono : Monotone daysBeforeYear := monotone_int_of_le_succ fun year => by
    have htwelve := daysBeforeYear_add_twelve year
    omega
  exact hmono h

theorem monthLength_le (year : Int) (month : Nat) : monthLength year month ≤ 31 := by
  unfold monthLength
  split_ifs <;> decide

/-- The calendar has the date of every day. -/
theorem isValid_ofDay (day : Int) : (ofDay day).IsValid := by
  obtain ⟨year, place, -, h, h', hdate⟩ := exists_marchYear day
  rw [hdate]
  exact (ofMarch_spec h h').1

/-- The day of the date of a day is that day. -/
theorem toDay_ofDay (day : Int) : (ofDay day).toDay = day := by
  obtain ⟨year, place, hday, h, h', hdate⟩ := exists_marchYear day
  rw [hdate, (ofMarch_spec h h').2, hday]

end Date

namespace DateTime

theorem isValid_ofSeconds (seconds : Int) : (ofSeconds seconds).IsValid := by
  refine ⟨Date.isValid_ofDay _, ?_, ?_, ?_⟩ <;> simp only [ofSeconds] <;> omega

/-- A year has begun if its first second has come. -/
theorem IsValid.le_year_iff {moment : DateTime} (h : moment.IsValid) (year : Int) :
    year ≤ moment.date.year ↔
      86400 * (Date.daysBeforeYear year - 719162) ≤ moment.toSeconds := by
  obtain ⟨hstart, hend⟩ := h.1.toDay_mem
  obtain ⟨-, hhour, hminute, hsecond⟩ := h
  unfold toSeconds
  constructor
  · intro hle
    have hmono := Date.daysBeforeYear_mono hle
    omega
  · intro hle
    by_contra hlt
    have hmono := Date.daysBeforeYear_mono (Int.add_one_le_of_lt (not_le.mp hlt))
    omega

theorem toSeconds_ofSeconds (seconds : Int) : (ofSeconds seconds).toSeconds = seconds := by
  simp only [toSeconds, ofSeconds, Date.toDay_ofDay]
  omega

example : ofSeconds (-1) = ⟨⟨1969, 12, 31⟩, 23, 59, 59⟩ := by decide

end DateTime
end TableExport
