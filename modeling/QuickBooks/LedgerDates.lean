import Mathlib.Tactic.NormNum

/-!
# Calendar dates

A date is a valid day of the Gregorian calendar in the years 1 to 9999.  Its
eight-digit code, year before month before day, is what the textual form
spells out, so comparing codes is comparing the stored texts.
-/

namespace QuickBooks

def isLeapYear (year : Nat) : Bool :=
  (year % 4 = 0 ∧ year % 100 ≠ 0) ∨ year % 400 = 0

def daysInMonth (year month : Nat) : Nat :=
  if month = 2 then (if isLeapYear year then 29 else 28)
  else if month = 4 ∨ month = 6 ∨ month = 9 ∨ month = 11 then 30
  else 31

def isValidDay (year month day : Nat) : Bool :=
  1 ≤ year ∧ year ≤ 9999 ∧ 1 ≤ month ∧ month ≤ 12 ∧
    1 ≤ day ∧ day ≤ daysInMonth year month

/-- A calendar date in the years 1 to 9999. -/
structure Date where
  year : Nat
  month : Nat
  day : Nat
  valid : isValidDay year month day = true
deriving DecidableEq

namespace Date

theorem bounds (date : Date) :
    1 ≤ date.year ∧ date.year ≤ 9999 ∧ 1 ≤ date.month ∧ date.month ≤ 12 ∧
      1 ≤ date.day ∧ date.day ≤ 31 := by
  have valid := date.valid
  have longest : daysInMonth date.year date.month ≤ 31 := by
    unfold daysInMonth
    split_ifs <;> omega
  simp only [isValidDay, decide_eq_true_eq] at valid
  omega

def code (date : Date) : Nat :=
  (date.year * 100 + date.month) * 100 + date.day

theorem code_injective : Function.Injective code := by
  intro first second sameCode
  have firstBounds := first.bounds
  have secondBounds := second.bounds
  unfold code at sameCode
  cases first
  cases second
  simp only [mk.injEq]
  simp only at firstBounds secondBounds sameCode
  omega

instance : LinearOrder Date :=
  LinearOrder.lift' code code_injective

theorem le_iff_code {first second : Date} :
    first ≤ second ↔ first.code ≤ second.code :=
  Iff.rfl

/-- The first of January of the year of a date. -/
def startOfYear (date : Date) : Date :=
  ⟨date.year, 1, 1, by
    have inRange := date.bounds
    simp only [isValidDay, daysInMonth]
    norm_num
    omega⟩

theorem startOfYear_le (date : Date) : date.startOfYear ≤ date := by
  have inRange := date.bounds
  rw [le_iff_code]
  simp only [startOfYear, code]
  omega

def last : Date :=
  ⟨9999, 12, 31, by decide⟩

theorem le_last (date : Date) : date ≤ last := by
  have inRange := date.bounds
  rw [le_iff_code]
  simp only [last, code]
  omega

def padded (width number : Nat) : String :=
  let digits := toString number
  String.ofList (List.replicate (width - digits.length) '0') ++ digits

def render (date : Date) : String :=
  padded 4 date.year ++ "-" ++ padded 2 date.month ++ "-" ++ padded 2 date.day

end Date

end QuickBooks
