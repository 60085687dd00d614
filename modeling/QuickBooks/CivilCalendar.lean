import Mathlib.Order.SuccPred.IntervalSucc
import Mathlib.Data.Int.ConditionallyCompleteOrder
import Mathlib.Data.Int.SuccPred
import Mathlib.Tactic.IntervalCases

/-!
# A bounded Gregorian calendar

Months are numbered from January of year zero, so a month is one integer and
the month after it is the next one.  Every day has a number, and a month
starts where the one before it ends; the order of the days is the order of
their numbers.  The calendar runs from the first day of a lowest year to the
last day of a highest one, and arithmetic that leaves it has no result.
-/

namespace CivilCalendar

def isLeap (year : ℤ) : Bool :=
  (year % 4 = 0 ∧ year % 100 ≠ 0) ∨ year % 400 = 0

def monthLength (year : ℤ) (month : ℕ) : ℕ :=
  if month = 2 then (if isLeap year then 29 else 28)
  else if month = 4 ∨ month = 6 ∨ month = 9 ∨ month = 11 then 30
  else 31

def yearStart (year : ℤ) : ℤ :=
  365 * year + (year - 1) / 4 - (year - 1) / 100 + (year - 1) / 400

def monthOffset (year : ℤ) (month : ℕ) : ℤ :=
  (367 * month - 362) / 12 -
    (if month ≤ 2 then 0 else if isLeap year then 1 else 2)

def yearOf (index : ℤ) : ℤ :=
  index / 12

def monthOf (index : ℤ) : ℕ :=
  (index % 12).toNat + 1

def lengthOf (index : ℤ) : ℕ :=
  monthLength (yearOf index) (monthOf index)

def monthStart (index : ℤ) : ℤ :=
  yearStart (yearOf index) + monthOffset (yearOf index) (monthOf index)

theorem monthLength_bounds (year : ℤ) (month : ℕ) :
    28 ≤ monthLength year month ∧ monthLength year month ≤ 31 := by
  unfold monthLength
  split_ifs <;> omega

theorem lengthOf_bounds (index : ℤ) :
    28 ≤ lengthOf index ∧ lengthOf index ≤ 31 :=
  monthLength_bounds _ _

theorem yearStart_succ (year : ℤ) :
    yearStart (year + 1) = yearStart year + (if isLeap year then 366 else 365) := by
  unfold yearStart isLeap
  simp only [decide_eq_true_eq]
  split_ifs <;> omega

theorem monthOffset_succ (year : ℤ) {month : ℕ} (first : 1 ≤ month)
    (last : month ≤ 11) :
    monthOffset year (month + 1) =
      monthOffset year month + monthLength year month := by
  cases leap : isLeap year <;>
    interval_cases month <;> simp [monthOffset, monthLength, leap]

theorem yearStart_succ_eq_december (year : ℤ) :
    yearStart (year + 1) + monthOffset (year + 1) 1 =
      yearStart year + monthOffset year 12 + monthLength year 12 := by
  rw [yearStart_succ]
  cases leap : isLeap year <;>
    simp [monthOffset, monthLength, leap] <;> omega

theorem monthStart_succ (index : ℤ) :
    monthStart (index + 1) = monthStart index + lengthOf index := by
  unfold monthStart lengthOf
  by_cases december : index % 12 = 11
  · have nextYear : yearOf (index + 1) = yearOf index + 1 := by
      unfold yearOf
      omega
    have january : monthOf (index + 1) = 1 := by
      unfold monthOf
      omega
    have twelfth : monthOf index = 12 := by
      unfold monthOf
      omega
    rw [nextYear, january, twelfth]
    exact yearStart_succ_eq_december _
  · have sameYear : yearOf (index + 1) = yearOf index := by
      unfold yearOf
      omega
    have nextMonth : monthOf (index + 1) = monthOf index + 1 := by
      unfold monthOf
      omega
    have bounds : 1 ≤ monthOf index ∧ monthOf index ≤ 11 := by
      unfold monthOf
      omega
    rw [sameYear, nextMonth, monthOffset_succ _ bounds.1 bounds.2, add_assoc]

theorem monthStart_strictMono : StrictMono monthStart := by
  apply strictMono_int_of_lt_succ
  intro index
  have positive := (lengthOf_bounds index).1
  rw [monthStart_succ]
  omega

theorem monthStart_add_lengthOf_le {first second : ℤ} (earlier : first < second) :
    monthStart first + lengthOf first ≤ monthStart second := by
  rw [← monthStart_succ]
  exact monthStart_strictMono.monotone earlier

def isValid (low high year : ℤ) (month day : ℕ) : Bool :=
  low ≤ year ∧ year ≤ high ∧ 1 ≤ month ∧ month ≤ 12 ∧
    1 ≤ day ∧ day ≤ monthLength year month

end CivilCalendar

/-- A day of the Gregorian calendar in a range of years. -/
structure CivilDate (low high : ℤ) where
  year : ℤ
  month : ℕ
  day : ℕ
  valid : CivilCalendar.isValid low high year month day = true
deriving DecidableEq

namespace CivilDate

open CivilCalendar

variable {low high : ℤ}

theorem bounds (date : CivilDate low high) :
    low ≤ date.year ∧ date.year ≤ high ∧ 1 ≤ date.month ∧ date.month ≤ 12 ∧
      1 ≤ date.day ∧ date.day ≤ monthLength date.year date.month := by
  have valid := date.valid
  simpa only [isValid, decide_eq_true_eq] using valid

theorem inYear (date : CivilDate low high) :
    1 ≤ date.month ∧ date.month ≤ 12 :=
  ⟨date.bounds.2.2.1, date.bounds.2.2.2.1⟩

def monthIndex (date : CivilDate low high) : ℤ :=
  date.year * 12 + date.month - 1

def dayNumber (date : CivilDate low high) : ℤ :=
  monthStart date.monthIndex + date.day

theorem yearOf_monthIndex (date : CivilDate low high) :
    yearOf date.monthIndex = date.year := by
  have inRange := date.bounds
  unfold yearOf monthIndex
  omega

theorem monthOf_monthIndex (date : CivilDate low high) :
    monthOf date.monthIndex = date.month := by
  have inRange := date.bounds
  unfold monthOf monthIndex
  omega

theorem day_bounds (date : CivilDate low high) :
    1 ≤ date.day ∧ date.day ≤ lengthOf date.monthIndex := by
  unfold lengthOf
  rw [yearOf_monthIndex, monthOf_monthIndex]
  exact date.bounds.2.2.2.2

theorem monthIndex_bounds (date : CivilDate low high) :
    low * 12 ≤ date.monthIndex ∧ date.monthIndex ≤ high * 12 + 11 := by
  have inRange := date.bounds
  unfold monthIndex
  omega

theorem ext_monthIndex {first second : CivilDate low high}
    (sameMonth : first.monthIndex = second.monthIndex)
    (sameDay : first.day = second.day) : first = second := by
  have sameYear := congrArg yearOf sameMonth
  have sameNumber := congrArg monthOf sameMonth
  rw [yearOf_monthIndex, yearOf_monthIndex] at sameYear
  rw [monthOf_monthIndex, monthOf_monthIndex] at sameNumber
  cases first
  cases second
  simp_all

theorem dayNumber_lt_of_monthIndex_lt {first second : CivilDate low high}
    (earlier : first.monthIndex < second.monthIndex) :
    first.dayNumber < second.dayNumber := by
  have apart := monthStart_add_lengthOf_le earlier
  have firstBounds := first.day_bounds
  have secondBounds := second.day_bounds
  unfold dayNumber
  omega

theorem dayNumber_injective :
    Function.Injective (dayNumber : CivilDate low high → ℤ) := by
  intro first second sameNumber
  rcases lt_trichotomy first.monthIndex second.monthIndex with
    earlier | same | later
  · have before := dayNumber_lt_of_monthIndex_lt earlier
    omega
  · apply ext_monthIndex same
    unfold dayNumber at sameNumber
    rw [same] at sameNumber
    omega
  · have after := dayNumber_lt_of_monthIndex_lt later
    omega

instance : LinearOrder (CivilDate low high) :=
  LinearOrder.lift' dayNumber dayNumber_injective

theorem le_iff_dayNumber {first second : CivilDate low high} :
    first ≤ second ↔ first.dayNumber ≤ second.dayNumber :=
  Iff.rfl

theorem lt_iff_dayNumber {first second : CivilDate low high} :
    first < second ↔ first.dayNumber < second.dayNumber := by
  rw [lt_iff_le_not_ge, le_iff_dayNumber, le_iff_dayNumber]
  omega

theorem lt_iff_month_day {first second : CivilDate low high} :
    first < second ↔ first.monthIndex < second.monthIndex ∨
      first.monthIndex = second.monthIndex ∧ first.day < second.day := by
  rw [lt_iff_dayNumber]
  rcases lt_trichotomy first.monthIndex second.monthIndex with
    earlier | same | later
  · have before := dayNumber_lt_of_monthIndex_lt earlier
    simp [earlier, before]
  · unfold dayNumber
    rw [same]
    simp
  · have after := dayNumber_lt_of_monthIndex_lt later
    omega

/-- A day that may lie outside the calendar. -/
def ofYmd? (year : ℤ) (month day : ℕ) : Option (CivilDate low high) :=
  if valid : isValid low high year month day = true then
    some ⟨year, month, day, valid⟩
  else none

def ofMonth? (index : ℤ) (day : ℕ) : Option (CivilDate low high) :=
  ofYmd? (yearOf index) (monthOf index) day

theorem ofYmd?_eq_some_iff {year : ℤ} {month day : ℕ}
    {date : CivilDate low high} :
    ofYmd? year month day = some date ↔
      date.year = year ∧ date.month = month ∧ date.day = day := by
  unfold ofYmd?
  constructor
  · intro found
    split_ifs at found
    cases found
    simp
  · rintro ⟨rfl, rfl, rfl⟩
    rw [dif_pos date.valid]

theorem ofMonth?_eq_some_iff {index : ℤ} {day : ℕ}
    {date : CivilDate low high} :
    ofMonth? index day = some date ↔ date.monthIndex = index ∧ date.day = day := by
  unfold ofMonth?
  rw [ofYmd?_eq_some_iff]
  constructor
  · rintro ⟨sameYear, sameMonth, sameDay⟩
    refine ⟨?_, sameDay⟩
    unfold yearOf at sameYear
    unfold monthOf at sameMonth
    unfold monthIndex
    omega
  · rintro ⟨rfl, sameDay⟩
    exact ⟨(yearOf_monthIndex date).symm, (monthOf_monthIndex date).symm, sameDay⟩

theorem exists_ofMonth?_iff {index : ℤ} {day : ℕ} :
    (∃ date : CivilDate low high, ofMonth? index day = some date) ↔
      (low * 12 ≤ index ∧ index ≤ high * 12 + 11) ∧
        1 ≤ day ∧ day ≤ lengthOf index := by
  constructor
  · rintro ⟨date, found⟩
    obtain ⟨rfl, rfl⟩ := ofMonth?_eq_some_iff.mp found
    exact ⟨date.monthIndex_bounds, date.day_bounds⟩
  · rintro ⟨inYears, inMonth⟩
    have valid : isValid low high (yearOf index) (monthOf index) day = true := by
      simp only [isValid, decide_eq_true_eq]
      refine ⟨?_, ?_, ?_, ?_, inMonth.1, inMonth.2⟩
      · unfold yearOf
        omega
      · unfold yearOf
        omega
      · unfold monthOf
        omega
      · unfold monthOf
        omega
    exact ⟨⟨_, _, _, valid⟩, dif_pos valid⟩

theorem exists_day {index : ℤ} {day : ℕ} (fromLow : low * 12 ≤ index)
    (toHigh : index ≤ high * 12 + 11)
    (inMonth : 1 ≤ day ∧ day ≤ lengthOf index) :
    ∃ date : CivilDate low high, date.monthIndex = index ∧ date.day = day := by
  obtain ⟨date, found⟩ := exists_ofMonth?_iff.mpr ⟨⟨fromLow, toHigh⟩, inMonth⟩
  exact ⟨date, ofMonth?_eq_some_iff.mp found⟩

/-- The same day a number of months later, or that month's last day. -/
def addMonths (months : ℕ) (date : CivilDate low high) :
    Option (CivilDate low high) :=
  ofMonth? (date.monthIndex + months)
    (min date.day (lengthOf (date.monthIndex + months)))

def pred? (date : CivilDate low high) : Option (CivilDate low high) :=
  if 1 < date.day then ofMonth? date.monthIndex (date.day - 1)
  else ofMonth? (date.monthIndex - 1) (lengthOf (date.monthIndex - 1))

/-- The day after. -/
def succ? (date : CivilDate low high) : Option (CivilDate low high) :=
  if date.day < lengthOf date.monthIndex then
    ofMonth? date.monthIndex (date.day + 1)
  else ofMonth? (date.monthIndex + 1) 1

/-- The day a number of days later. -/
def addDays : ℕ → CivilDate low high → Option (CivilDate low high)
  | 0, date => some date
  | days + 1, date => do
    let next ← date.succ?
    addDays days next

theorem dayNumber_of_succ? {date next : CivilDate low high}
    (found : date.succ? = some next) : next.dayNumber = date.dayNumber + 1 := by
  have inMonth := date.day_bounds
  unfold succ? at found
  split_ifs at found with more
  · obtain ⟨sameMonth, nextDay⟩ := ofMonth?_eq_some_iff.mp found
    unfold dayNumber
    rw [sameMonth, nextDay]
    omega
  · obtain ⟨nextMonth, firstDay⟩ := ofMonth?_eq_some_iff.mp found
    unfold dayNumber
    rw [nextMonth, firstDay, monthStart_succ]
    omega

theorem exists_succ?_of_lt {date later : CivilDate low high}
    (earlier : date < later) : ∃ next, date.succ? = some next := by
  have inYears := date.monthIndex_bounds
  have laterInYears := later.monthIndex_bounds
  have laterInMonth := later.day_bounds
  have inMonth := date.day_bounds
  unfold succ?
  split_ifs with more
  · exact exists_ofMonth?_iff.mpr ⟨inYears, by omega, more⟩
  · apply exists_ofMonth?_iff.mpr
    have long := (lengthOf_bounds (date.monthIndex + 1)).1
    have before : date.monthIndex < later.monthIndex := by
      rcases lt_iff_month_day.mp earlier with month | ⟨same, day⟩
      · exact month
      · rw [same] at more
        omega
    exact ⟨by omega, le_refl 1, by omega⟩

theorem addDays_eq_some_iff {days : ℕ} {date later : CivilDate low high} :
    date.addDays days = some later ↔ later.dayNumber = date.dayNumber + days := by
  induction days generalizing date with
  | zero =>
    simp only [addDays, Option.some.injEq, Nat.cast_zero, add_zero]
    exact ⟨fun same => same ▸ rfl, fun same => (dayNumber_injective same).symm⟩
  | succ days ih =>
    simp only [addDays, Option.bind_eq_bind, Option.bind_eq_some_iff]
    constructor
    · rintro ⟨next, found, rest⟩
      rw [ih.mp rest, dayNumber_of_succ? found]
      push_cast
      omega
    · intro number
      push_cast at number
      have earlier : date < later := by
        rw [lt_iff_dayNumber]
        omega
      obtain ⟨next, found⟩ := exists_succ?_of_lt earlier
      refine ⟨next, found, ih.mpr ?_⟩
      rw [number, dayNumber_of_succ? found]
      omega

theorem exists_addDays {days : ℕ} {date later : CivilDate low high}
    (upTo : date.dayNumber + days ≤ later.dayNumber) :
    ∃ reached, date.addDays days = some reached := by
  induction days generalizing date with
  | zero => exact ⟨date, rfl⟩
  | succ days ih =>
    push_cast at upTo
    have earlier : date < later := by
      rw [lt_iff_dayNumber]
      omega
    obtain ⟨next, found⟩ := exists_succ?_of_lt earlier
    have number := dayNumber_of_succ? found
    obtain ⟨reached, rest⟩ : ∃ reached, next.addDays days = some reached := by
      apply ih
      omega
    refine ⟨reached, ?_⟩
    simpa [addDays, found] using rest

end CivilDate
