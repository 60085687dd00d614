import QuickBooks.BooksMasterData
import QuickBooks.CivilCalendar

/-!
# Due dates

Terms are a number of days or a day of the month.  A due date is computed in
the calendar of the dates that a document can carry, which ends with the year
262142; where a step of the computation leaves that calendar there is no due
date, and the program stops.  The checks of the terms bound the day of the
month and the cut-off, and not the number of days.
-/

namespace QuickBooks

open CivilCalendar

abbrev NaiveDate := CivilDate (-262143) 262142

inductive TermsError where
  | badTerms (text : String)
deriving DecidableEq

namespace Terms

/-- Net days are not negative, and the days of the month are in range. -/
def check : Terms → Except TermsError Unit
  | net days =>
    if days < 0 then
      .error (.badTerms ("net days " ++ toString days ++ " is negative"))
    else .ok ()
  | dayOfMonth day nextMonthWithin =>
    if ¬ (1 ≤ day ∧ day ≤ 31) then
      .error (.badTerms ("day of month " ++ toString day ++ " is not 1 to 31"))
    else if nextMonthWithin > 31 then
      .error (.badTerms ("next month within " ++ toString nextMonthWithin ++
        " days is more than 31"))
    else .ok ()

theorem check_net_iff {days : ℤ} : check (net days) = .ok () ↔ 0 ≤ days := by
  simp only [check]
  split_ifs with negative
  · simp [negative]
  · simpa using negative

theorem check_dayOfMonth_iff {day nextMonthWithin : ℕ} :
    check (dayOfMonth day nextMonthWithin) = .ok () ↔
      (1 ≤ day ∧ day ≤ 31) ∧ nextMonthWithin ≤ 31 := by
  by_cases inside : 1 ≤ day ∧ day ≤ 31
  · by_cases late : nextMonthWithin > 31
    · simp [check, inside, late]
    · simp [check, inside, late, not_lt.mp late]
  · simp [check, inside]

end Terms

namespace NaiveDate

def lastMonth : ℤ :=
  262142 * 12 + 11

def last : NaiveDate :=
  ⟨262142, 12, 31, Eq.refl true⟩

theorem le_last (date : NaiveDate) : date ≤ last := by
  rw [← not_lt, CivilDate.lt_iff_month_day]
  have inCalendar := date.monthIndex_bounds
  have inMonth := date.day_bounds
  have long := lengthOf_bounds date.monthIndex
  have ends : last.monthIndex = lastMonth ∧ last.day = 31 :=
    ⟨rfl, rfl⟩
  unfold lastMonth at ends
  omega

/-- The given day of a month, clamped to the month's length. -/
def dayInMonth (year : ℤ) (month day : ℕ) : Option NaiveDate := do
  let first : NaiveDate ← CivilDate.ofYmd? year month 1
  let next ← first.addMonths 1
  let last ← next.pred?
  CivilDate.ofYmd? year month (max 1 (min day last.day))

def dayInNextMonth (date : NaiveDate) (day : ℕ) : Option NaiveDate := do
  let first : NaiveDate ← CivilDate.ofYmd? date.year date.month 1
  let next ← first.addMonths 1
  dayInMonth next.year next.month day

theorem ofYmd?_eq_ofMonth? (year : ℤ) {month : ℕ} (day : ℕ)
    (inYear : 1 ≤ month ∧ month ≤ 12) :
    (CivilDate.ofYmd? year month day : Option NaiveDate) =
      CivilDate.ofMonth? (year * 12 + month - 1) day := by
  have sameYear : yearOf (year * 12 + month - 1) = year := by
    unfold yearOf
    omega
  have sameMonth : monthOf (year * 12 + month - 1) = month := by
    unfold monthOf
    omega
  rw [CivilDate.ofMonth?, sameYear, sameMonth]

theorem addMonths_first_eq_some_iff {first next : NaiveDate}
    (firstDay : first.day = 1) :
    first.addMonths 1 = some next ↔
      next.monthIndex = first.monthIndex + 1 ∧ next.day = 1 := by
  have long := (lengthOf_bounds (first.monthIndex + 1)).1
  have clamped : min 1 (lengthOf (first.monthIndex + 1)) = 1 := by
    omega
  unfold CivilDate.addMonths
  rw [CivilDate.ofMonth?_eq_some_iff, firstDay, Nat.cast_one, clamped]

theorem pred?_first_eq_some_iff {next last : NaiveDate} (firstDay : next.day = 1) :
    next.pred? = some last ↔
      last.monthIndex = next.monthIndex - 1 ∧
        last.day = lengthOf (next.monthIndex - 1) := by
  have notLater : ¬ 1 < next.day := by
    omega
  unfold CivilDate.pred?
  rw [if_neg notLater, CivilDate.ofMonth?_eq_some_iff]

theorem exists_monthEnds {index : ℤ} (inCalendar : -262143 * 12 ≤ index)
    (beforeLast : index < lastMonth) :
    ∃ first next last : NaiveDate,
      (first.monthIndex = index ∧ first.day = 1) ∧
        (first.addMonths 1 = some next ∧ next.monthIndex = index + 1) ∧
          next.pred? = some last ∧ last.day = lengthOf index := by
  unfold lastMonth at beforeLast
  have long := (lengthOf_bounds index).1
  have longNext := (lengthOf_bounds (index + 1)).1
  obtain ⟨first, firstMonth, firstDay⟩ :
      ∃ first : NaiveDate, first.monthIndex = index ∧ first.day = 1 :=
    CivilDate.exists_day inCalendar (by omega) ⟨le_refl 1, by omega⟩
  obtain ⟨next, nextMonth, nextDay⟩ :
      ∃ next : NaiveDate, next.monthIndex = index + 1 ∧ next.day = 1 :=
    CivilDate.exists_day (by omega) (by omega) ⟨le_refl 1, by omega⟩
  obtain ⟨last, lastMonth, lastDay⟩ :
      ∃ last : NaiveDate, last.monthIndex = index ∧ last.day = lengthOf index :=
    CivilDate.exists_day inCalendar (by omega) ⟨by omega, le_refl _⟩
  refine ⟨first, next, last, ⟨firstMonth, firstDay⟩, ⟨?_, nextMonth⟩, ?_, lastDay⟩
  · rw [addMonths_first_eq_some_iff firstDay, firstMonth]
    exact ⟨nextMonth, nextDay⟩
  · rw [pred?_first_eq_some_iff nextDay, nextMonth, add_sub_cancel_right]
    exact ⟨lastMonth, lastDay⟩

theorem dayInMonth_eq_some_iff {year : ℤ} {month day : ℕ} {due : NaiveDate}
    (inYear : 1 ≤ month ∧ month ≤ 12) (fromFirst : 1 ≤ day) :
    dayInMonth year month day = some due ↔
      (due.monthIndex = year * 12 + month - 1 ∧
        due.day = min day (lengthOf (year * 12 + month - 1))) ∧
        due.monthIndex < lastMonth := by
  have long := (lengthOf_bounds (year * 12 + month - 1)).1
  simp only [dayInMonth, Option.bind_eq_bind, Option.bind_eq_some_iff,
    ofYmd?_eq_ofMonth? _ _ inYear, CivilDate.ofMonth?_eq_some_iff]
  constructor
  · rintro ⟨first, ⟨firstMonth, firstDay⟩, next, added, last, preceding,
      dueMonth, dueDay⟩
    obtain ⟨nextMonth, nextDay⟩ := (addMonths_first_eq_some_iff firstDay).mp added
    have lastDay := ((pred?_first_eq_some_iff nextDay).mp preceding).2
    have inCalendar := next.monthIndex_bounds.2
    rw [nextMonth, firstMonth, add_sub_cancel_right] at lastDay
    rw [lastDay] at dueDay
    unfold lastMonth
    exact ⟨⟨dueMonth, by omega⟩, by omega⟩
  · rintro ⟨⟨dueMonth, dueDay⟩, beforeLast⟩
    obtain ⟨first, next, last, first_spec, ⟨added, -⟩, preceding, lastDay⟩ :=
      exists_monthEnds due.monthIndex_bounds.1 beforeLast
    rw [dueMonth] at first_spec lastDay
    refine ⟨first, first_spec, next, added, last, preceding, dueMonth, ?_⟩
    rw [lastDay, dueDay]
    omega

theorem dayInNextMonth_eq_some_iff {date due : NaiveDate} {day : ℕ}
    (fromFirst : 1 ≤ day) :
    date.dayInNextMonth day = some due ↔
      (due.monthIndex = date.monthIndex + 1 ∧
        due.day = min day (lengthOf (date.monthIndex + 1))) ∧
        due.monthIndex < lastMonth := by
  have index_of_next {next : NaiveDate}
      (nextMonth : next.monthIndex = date.monthIndex + 1) :
      next.year * 12 + next.month - 1 = date.monthIndex + 1 :=
    nextMonth
  have sameIndex : date.year * 12 + date.month - 1 = date.monthIndex :=
    rfl
  simp only [dayInNextMonth, Option.bind_eq_bind, Option.bind_eq_some_iff,
    ofYmd?_eq_ofMonth? _ _ date.inYear, CivilDate.ofMonth?_eq_some_iff, sameIndex]
  constructor
  · rintro ⟨first, ⟨firstMonth, firstDay⟩, next, added, found⟩
    have nextMonth := ((addMonths_first_eq_some_iff firstDay).mp added).1
    rw [firstMonth] at nextMonth
    rwa [dayInMonth_eq_some_iff next.inYear fromFirst, index_of_next nextMonth]
      at found
  · rintro ⟨dueSpec, beforeLast⟩
    have before : date.monthIndex < lastMonth := by
      omega
    obtain ⟨first, next, last, first_spec, ⟨added, nextMonth⟩, -⟩ :=
      exists_monthEnds date.monthIndex_bounds.1 before
    refine ⟨first, first_spec, next, added, ?_⟩
    rw [dayInMonth_eq_some_iff next.inYear fromFirst, index_of_next nextMonth]
    exact ⟨dueSpec, beforeLast⟩

end NaiveDate

namespace Terms

/-- The due date of a document, when no step leaves the calendar. -/
def dueOn (terms : Terms) (txnDate : NaiveDate) : Option NaiveDate :=
  match terms with
  | net days => txnDate.addDays (max days 0).toNat
  | dayOfMonth day nextMonthWithin => do
    let inMonth ← NaiveDate.dayInMonth txnDate.year txnDate.month day
    let onOrAfter ←
      (if inMonth < txnDate then NaiveDate.dayInNextMonth inMonth day
      else some inMonth)
    if onOrAfter.dayNumber - txnDate.dayNumber ≤ nextMonthWithin then
      NaiveDate.dayInNextMonth onOrAfter day
    else some onOrAfter

end Terms

def dueNumber (day : ℕ) (index : ℤ) : ℤ :=
  monthStart index + min day (lengthOf index)

def OnDueDay (day : ℕ) (index : ℤ) (due : NaiveDate) : Prop :=
  due.monthIndex = index ∧ due.day = min day (lengthOf index)

theorem OnDueDay.dayNumber_eq {day : ℕ} {index : ℤ} {due : NaiveDate}
    (onDueDay : OnDueDay day index due) : due.dayNumber = dueNumber day index := by
  unfold CivilDate.dayNumber dueNumber
  rw [onDueDay.1, onDueDay.2]

theorem exists_onDueDay {day : ℕ} {index : ℤ} (fromFirst : 1 ≤ day)
    (inCalendar : -262143 * 12 ≤ index) (beforeLast : index < NaiveDate.lastMonth) :
    ∃ due : NaiveDate, OnDueDay day index due := by
  have long := (lengthOf_bounds index).1
  unfold NaiveDate.lastMonth at beforeLast
  exact CivilDate.exists_day inCalendar (by omega) ⟨by omega, by omega⟩

/-- The first month whose due day is on or after a date. -/
def firstDueMonth (day : ℕ) (txnDate : NaiveDate) : ℤ :=
  if dueNumber day txnDate.monthIndex < txnDate.dayNumber then
    txnDate.monthIndex + 1
  else txnDate.monthIndex

/-- The month a document is due in: the first one, or the one after it when
its due day is within the cut-off. -/
def dueMonth (day nextMonthWithin : ℕ) (txnDate : NaiveDate) : ℤ :=
  if dueNumber day (firstDueMonth day txnDate) - txnDate.dayNumber ≤
      nextMonthWithin then
    firstDueMonth day txnDate + 1
  else firstDueMonth day txnDate

theorem dueNumber_strictMono {day : ℕ} (fromFirst : 1 ≤ day) :
    StrictMono (dueNumber day) := by
  apply strictMono_int_of_lt_succ
  intro index
  have longNext := (lengthOf_bounds (index + 1)).1
  unfold dueNumber
  rw [monthStart_succ]
  omega

theorem dayNumber_le_dueNumber_iff {day : ℕ} (fromFirst : 1 ≤ day)
    (txnDate : NaiveDate) (index : ℤ) :
    txnDate.dayNumber ≤ dueNumber day index ↔
      firstDueMonth day txnDate ≤ index := by
  have increasing := dueNumber_strictMono fromFirst
  have inMonth := txnDate.day_bounds
  have before (earlier : index < txnDate.monthIndex) :
      dueNumber day index < txnDate.dayNumber := by
    have apart := monthStart_add_lengthOf_le earlier
    unfold dueNumber CivilDate.dayNumber
    omega
  have later (notEarlier : txnDate.monthIndex + 1 ≤ index) :
      txnDate.dayNumber < dueNumber day index := by
    have apart := monthStart_add_lengthOf_le (Int.lt_of_add_one_le notEarlier)
    have long := (lengthOf_bounds index).1
    unfold dueNumber CivilDate.dayNumber
    omega
  unfold firstDueMonth
  split_ifs with passed
  · constructor
    · intro onOrAfter
      by_contra notLater
      have atMost : dueNumber day index ≤ dueNumber day txnDate.monthIndex :=
        increasing.monotone (by omega)
      omega
    · intro notEarlier
      exact (later notEarlier).le
  · constructor
    · intro onOrAfter
      by_contra earlier
      have missed := before (not_le.mp earlier)
      omega
    · intro notEarlier
      have atLeast : dueNumber day txnDate.monthIndex ≤ dueNumber day index :=
        increasing.monotone notEarlier
      omega

theorem firstDueMonth_mono {day : ℕ} (fromFirst : 1 ≤ day)
    {earlier later : NaiveDate} (inOrder : earlier ≤ later) :
    firstDueMonth day earlier ≤ firstDueMonth day later := by
  have onOrAfter :=
    (dayNumber_le_dueNumber_iff fromFirst later (firstDueMonth day later)).mpr
      (le_refl _)
  rw [CivilDate.le_iff_dayNumber] at inOrder
  exact (dayNumber_le_dueNumber_iff fromFirst earlier _).mp
    (inOrder.trans onOrAfter)

theorem dueMonth_mono {day : ℕ} (fromFirst : 1 ≤ day) (nextMonthWithin : ℕ)
    {earlier later : NaiveDate} (inOrder : earlier ≤ later) :
    dueMonth day nextMonthWithin earlier ≤ dueMonth day nextMonthWithin later := by
  have first := firstDueMonth_mono fromFirst inOrder
  rw [CivilDate.le_iff_dayNumber] at inOrder
  unfold dueMonth
  rcases first.eq_or_lt with same | before
  · rw [same]
    -- The later date is nearer to the shared due day, so it is pushed as well.
    split_ifs <;> omega
  · split_ifs <;> omega

theorem firstDueMonth_le_dueMonth (day nextMonthWithin : ℕ) (txnDate : NaiveDate) :
    firstDueMonth day txnDate ≤ dueMonth day nextMonthWithin txnDate := by
  unfold dueMonth
  split_ifs <;> omega

theorem dueOn_net_eq_some_iff {days : ℤ} {txnDate due : NaiveDate}
    (notNegative : 0 ≤ days) :
    (Terms.net days).dueOn txnDate = some due ↔
      due.dayNumber = txnDate.dayNumber + days := by
  have sameDays : ((max days 0).toNat : ℤ) = days := by
    omega
  simp only [Terms.dueOn, CivilDate.addDays_eq_some_iff, sameDays]

theorem le_firstDueMonth (day : ℕ) (txnDate : NaiveDate) :
    txnDate.monthIndex ≤ firstDueMonth day txnDate := by
  unfold firstDueMonth
  split_ifs <;> omega

theorem onOrAfter_eq_some_iff {day : ℕ} {txnDate inMonth onOrAfter : NaiveDate}
    (fromFirst : 1 ≤ day) (inMonth_spec : OnDueDay day txnDate.monthIndex inMonth)
    (inMonth_before : inMonth.monthIndex < NaiveDate.lastMonth) :
    (if inMonth < txnDate then NaiveDate.dayInNextMonth inMonth day
        else some inMonth) = some onOrAfter ↔
      OnDueDay day (firstDueMonth day txnDate) onOrAfter ∧
        firstDueMonth day txnDate < NaiveDate.lastMonth := by
  simp only [CivilDate.lt_iff_dayNumber, inMonth_spec.dayNumber_eq]
  unfold firstDueMonth
  split_ifs with passed
  · rw [NaiveDate.dayInNextMonth_eq_some_iff fromFirst, inMonth_spec.1]
    constructor
    · rintro ⟨spec, before⟩
      exact ⟨spec, spec.1 ▸ before⟩
    · rintro ⟨spec, before⟩
      exact ⟨spec, spec.1.symm ▸ before⟩
  · constructor
    · intro same
      cases same
      exact ⟨inMonth_spec, inMonth_spec.1 ▸ inMonth_before⟩
    · rintro ⟨spec, -⟩
      have sameDate : inMonth = onOrAfter :=
        CivilDate.ext_monthIndex (inMonth_spec.1.trans spec.1.symm)
          (inMonth_spec.2.trans spec.2.symm)
      rw [sameDate]

theorem pushed_eq_some_iff {day nextMonthWithin : ℕ}
    {txnDate onOrAfter due : NaiveDate} (fromFirst : 1 ≤ day)
    (onOrAfter_spec : OnDueDay day (firstDueMonth day txnDate) onOrAfter)
    (onOrAfter_before : firstDueMonth day txnDate < NaiveDate.lastMonth) :
    (if onOrAfter.dayNumber - txnDate.dayNumber ≤ nextMonthWithin then
        NaiveDate.dayInNextMonth onOrAfter day
      else some onOrAfter) = some due ↔
      OnDueDay day (dueMonth day nextMonthWithin txnDate) due ∧
        dueMonth day nextMonthWithin txnDate < NaiveDate.lastMonth := by
  rw [onOrAfter_spec.dayNumber_eq]
  unfold dueMonth
  split_ifs with near
  · rw [NaiveDate.dayInNextMonth_eq_some_iff fromFirst, onOrAfter_spec.1]
    constructor
    · rintro ⟨spec, before⟩
      exact ⟨spec, spec.1 ▸ before⟩
    · rintro ⟨spec, before⟩
      exact ⟨spec, spec.1.symm ▸ before⟩
  · constructor
    · intro same
      cases same
      exact ⟨onOrAfter_spec, onOrAfter_before⟩
    · rintro ⟨spec, -⟩
      have sameDate : onOrAfter = due :=
        CivilDate.ext_monthIndex (onOrAfter_spec.1.trans spec.1.symm)
          (onOrAfter_spec.2.trans spec.2.symm)
      rw [sameDate]

theorem dueOn_dayOfMonth_eq_some_iff {day nextMonthWithin : ℕ}
    {txnDate due : NaiveDate} (fromFirst : 1 ≤ day) :
    (Terms.dayOfMonth day nextMonthWithin).dueOn txnDate = some due ↔
      OnDueDay day (dueMonth day nextMonthWithin txnDate) due ∧
        dueMonth day nextMonthWithin txnDate < NaiveDate.lastMonth := by
  simp only [Terms.dueOn, Option.bind_eq_bind, Option.bind_eq_some_iff,
    NaiveDate.dayInMonth_eq_some_iff txnDate.inYear fromFirst]
  constructor
  · rintro ⟨inMonth, ⟨inMonth_spec, inMonth_before⟩, onOrAfter, reached, pushed⟩
    obtain ⟨onOrAfter_spec, onOrAfter_before⟩ :=
      (onOrAfter_eq_some_iff fromFirst inMonth_spec inMonth_before).mp reached
    exact (pushed_eq_some_iff fromFirst onOrAfter_spec onOrAfter_before).mp pushed
  · rintro ⟨due_spec, due_before⟩
    have first_before : firstDueMonth day txnDate < NaiveDate.lastMonth :=
      lt_of_le_of_lt (firstDueMonth_le_dueMonth day nextMonthWithin txnDate)
        due_before
    have own_before : txnDate.monthIndex < NaiveDate.lastMonth :=
      lt_of_le_of_lt (le_firstDueMonth day txnDate) first_before
    have own_after := txnDate.monthIndex_bounds.1
    obtain ⟨inMonth, inMonth_spec⟩ :=
      exists_onDueDay fromFirst own_after own_before
    obtain ⟨onOrAfter, onOrAfter_spec⟩ :=
      exists_onDueDay fromFirst (own_after.trans (le_firstDueMonth day txnDate))
        first_before
    have inMonth_before : inMonth.monthIndex < NaiveDate.lastMonth :=
      inMonth_spec.1 ▸ own_before
    refine ⟨inMonth, ⟨inMonth_spec, inMonth_before⟩, onOrAfter, ?_, ?_⟩
    · exact (onOrAfter_eq_some_iff fromFirst inMonth_spec inMonth_before).mpr
        ⟨onOrAfter_spec, first_before⟩
    · exact (pushed_eq_some_iff fromFirst onOrAfter_spec first_before).mpr
        ⟨due_spec, due_before⟩

namespace Terms

/-- Where a due date belongs: the net days later, or on the due day of the due
month. -/
def DueAsConfigured : Terms → NaiveDate → NaiveDate → Prop
  | net days, txnDate, due => due.dayNumber = txnDate.dayNumber + days
  | dayOfMonth day nextMonthWithin, txnDate, due =>
    OnDueDay day (dueMonth day nextMonthWithin txnDate) due

/-- A document has a due date that is not before its own date and is where the
terms put it, and an earlier document is due no later. -/
def DueProperly (terms : Terms) (txnDate : NaiveDate) : Prop :=
  ∃ due, terms.dueOn txnDate = some due ∧ txnDate ≤ due ∧
    terms.DueAsConfigured txnDate due ∧
      ∀ earlier ≤ txnDate, ∃ earlierDue,
        terms.dueOn earlier = some earlierDue ∧ earlierDue ≤ due

/-- The days after the date end in the calendar, or the due month is before
the calendar's last. -/
def InCalendar : Terms → NaiveDate → Prop
  | net days, txnDate => txnDate.dayNumber + days ≤ NaiveDate.last.dayNumber
  | dayOfMonth day nextMonthWithin, txnDate =>
    dueMonth day nextMonthWithin txnDate < NaiveDate.lastMonth

theorem InCalendar.earlier {terms : Terms} {earlier later : NaiveDate}
    (accepted : terms.check = .ok ()) (inCalendar : terms.InCalendar later)
    (inOrder : earlier ≤ later) : terms.InCalendar earlier := by
  cases terms with
  | net days =>
    rw [CivilDate.le_iff_dayNumber] at inOrder
    simp only [InCalendar] at inCalendar ⊢
    omega
  | dayOfMonth day nextMonthWithin =>
    have inRange := check_dayOfMonth_iff.mp accepted
    exact lt_of_le_of_lt
      (dueMonth_mono inRange.1.1 nextMonthWithin inOrder) inCalendar

theorem exists_dueOn_iff {terms : Terms} {txnDate : NaiveDate}
    (accepted : terms.check = .ok ()) :
    (∃ due, terms.dueOn txnDate = some due) ↔ terms.InCalendar txnDate := by
  cases terms with
  | net days =>
    have notNegative := check_net_iff.mp accepted
    constructor
    · rintro ⟨due, found⟩
      have number := (dueOn_net_eq_some_iff notNegative).mp found
      have atMost := CivilDate.le_iff_dayNumber.mp due.le_last
      rw [number] at atMost
      exact atMost
    · intro inCalendar
      simp only [InCalendar] at inCalendar
      have upTo : txnDate.dayNumber + ((max days 0).toNat : ℤ) ≤
          NaiveDate.last.dayNumber := by
        omega
      exact CivilDate.exists_addDays upTo
  | dayOfMonth day nextMonthWithin =>
    have inRange := check_dayOfMonth_iff.mp accepted
    constructor
    · rintro ⟨due, found⟩
      exact ((dueOn_dayOfMonth_eq_some_iff inRange.1.1).mp found).2
    · intro inCalendar
      have ownAfter := txnDate.monthIndex_bounds.1
      obtain ⟨due, due_spec⟩ :=
        exists_onDueDay inRange.1.1
          (ownAfter.trans ((le_firstDueMonth day txnDate).trans
            (firstDueMonth_le_dueMonth day nextMonthWithin txnDate)))
          inCalendar
      exact ⟨due,
        (dueOn_dayOfMonth_eq_some_iff inRange.1.1).mpr ⟨due_spec, inCalendar⟩⟩

theorem dueAsConfigured_of_dueOn {terms : Terms} {txnDate due : NaiveDate}
    (accepted : terms.check = .ok ()) (found : terms.dueOn txnDate = some due) :
    terms.DueAsConfigured txnDate due := by
  cases terms with
  | net days => exact (dueOn_net_eq_some_iff (check_net_iff.mp accepted)).mp found
  | dayOfMonth day nextMonthWithin =>
    have inRange := check_dayOfMonth_iff.mp accepted
    exact ((dueOn_dayOfMonth_eq_some_iff inRange.1.1).mp found).1

theorem dueOn_mono {terms : Terms} {earlier later earlierDue laterDue : NaiveDate}
    (accepted : terms.check = .ok ()) (inOrder : earlier ≤ later)
    (found : terms.dueOn earlier = some earlierDue)
    (foundLater : terms.dueOn later = some laterDue) : earlierDue ≤ laterDue := by
  have configured := dueAsConfigured_of_dueOn accepted found
  have configuredLater := dueAsConfigured_of_dueOn accepted foundLater
  rw [CivilDate.le_iff_dayNumber]
  cases terms with
  | net days =>
    rw [CivilDate.le_iff_dayNumber] at inOrder
    simp only [DueAsConfigured] at configured configuredLater
    omega
  | dayOfMonth day nextMonthWithin =>
    have inRange := check_dayOfMonth_iff.mp accepted
    rw [OnDueDay.dayNumber_eq configured, OnDueDay.dayNumber_eq configuredLater]
    exact (dueNumber_strictMono inRange.1.1).monotone
      (dueMonth_mono inRange.1.1 nextMonthWithin inOrder)

theorem le_of_dueOn {terms : Terms} {txnDate due : NaiveDate}
    (accepted : terms.check = .ok ()) (found : terms.dueOn txnDate = some due) :
    txnDate ≤ due := by
  have configured := dueAsConfigured_of_dueOn accepted found
  rw [CivilDate.le_iff_dayNumber]
  cases terms with
  | net days =>
    have notNegative := check_net_iff.mp accepted
    simp only [DueAsConfigured] at configured
    omega
  | dayOfMonth day nextMonthWithin =>
    have inRange := check_dayOfMonth_iff.mp accepted
    rw [OnDueDay.dayNumber_eq configured]
    exact (dayNumber_le_dueNumber_iff inRange.1.1 txnDate _).mpr
      (firstDueMonth_le_dueMonth day nextMonthWithin txnDate)

/-- Accepted terms give every document a proper due date, when the calendar
reaches that far. -/
theorem dueProperly_iff_inCalendar (terms : Terms) (txnDate : NaiveDate)
    (accepted : terms.check = .ok ()) :
    terms.DueProperly txnDate ↔ terms.InCalendar txnDate := by
  constructor
  · rintro ⟨due, found, -⟩
    exact (exists_dueOn_iff accepted).mp ⟨due, found⟩
  · intro inCalendar
    obtain ⟨due, found⟩ := (exists_dueOn_iff accepted).mpr inCalendar
    refine ⟨due, found, le_of_dueOn accepted found,
      dueAsConfigured_of_dueOn accepted found, ?_⟩
    intro earlier inOrder
    obtain ⟨earlierDue, foundEarlier⟩ :=
      (exists_dueOn_iff accepted).mpr (inCalendar.earlier accepted inOrder)
    exact ⟨earlierDue, foundEarlier,
      dueOn_mono accepted inOrder foundEarlier found⟩

end Terms

namespace NaiveDate

def newYear2026 : NaiveDate :=
  ⟨2026, 1, 1, Eq.refl true⟩

end NaiveDate

namespace Terms

theorem dueProperly_net_thirty :
    (net 30).DueProperly NaiveDate.newYear2026 :=
  (dueProperly_iff_inCalendar (net 30) NaiveDate.newYear2026 rfl).mpr (by
    change NaiveDate.newYear2026.dayNumber + 30 ≤ NaiveDate.last.dayNumber
    decide)

/-- A hundred million net days are accepted, and have no due date. -/
theorem net_hundred_million_leaves_calendar :
    ¬ ∀ (terms : Terms) (txnDate : NaiveDate), terms.check = .ok () →
      terms.DueProperly txnDate := by
  intro always
  obtain ⟨due, found, -⟩ :=
    always (net 100000000) NaiveDate.newYear2026 rfl
  have number := (dueOn_net_eq_some_iff (by decide)).mp found
  have atMost := CivilDate.le_iff_dayNumber.mp due.le_last
  rw [number] at atMost
  exact absurd atMost (by decide)

end Terms

end QuickBooks
