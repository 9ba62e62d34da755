/-!
Days of the Gregorian calendar, carried back and forward without end. A date is always a real one:
its day lies within its month, and 29 February exists in leap years only.
-/
namespace TopicLog

def isLeapYear (year : Int) : Bool := year % 4 = 0 && (year % 100 ≠ 0 || year % 400 = 0)

def daysIn (year : Int) (month : Nat) : Nat :=
  if month = 2 then (if isLeapYear year then 29 else 28)
  else if month = 4 ∨ month = 6 ∨ month = 9 ∨ month = 11 then 30
  else 31

theorem daysIn_bounds (year : Int) (month : Nat) :
    28 ≤ daysIn year month ∧ daysIn year month ≤ 31 := by
  unfold daysIn
  repeat' split
  all_goals omega

structure Date where
  year : Int
  month : Nat
  day : Nat
  real : 1 ≤ month ∧ month ≤ 12 ∧ 1 ≤ day ∧ day ≤ daysIn year month
  deriving DecidableEq

namespace Date

def ofParts? (year : Int) (month day : Nat) : Option Date :=
  if real : 1 ≤ month ∧ month ≤ 12 ∧ 1 ≤ day ∧ day ≤ daysIn year month then
    some ⟨year, month, day, real⟩
  else none

def next (date : Date) : Date :=
  if within : date.day < daysIn date.year date.month then
    { date with day := date.day + 1, real := ⟨date.real.1, date.real.2.1, by omega, within⟩ }
  else if inYear : date.month < 12 then
    { date with
      month := date.month + 1
      day := 1
      real := ⟨by omega, inYear, Nat.le_refl 1, by
        have := daysIn_bounds date.year (date.month + 1)
        omega⟩ }
  else
    { year := date.year + 1
      month := 1
      day := 1
      real := ⟨by omega, by omega, by omega, by
        have := daysIn_bounds (date.year + 1) 1
        omega⟩ }

def previous (date : Date) : Date :=
  if within : 1 < date.day then
    { date with
      day := date.day - 1
      real := ⟨date.real.1, date.real.2.1, by omega, by have := date.real; omega⟩ }
  else if inYear : 1 < date.month then
    { date with
      month := date.month - 1
      day := daysIn date.year (date.month - 1)
      real := ⟨by omega, by have := date.real; omega, by
        have := daysIn_bounds date.year (date.month - 1)
        omega, Nat.le_refl _⟩ }
  else
    { year := date.year - 1
      month := 12
      day := 31
      real := ⟨by omega, by omega, by omega, by simp [daysIn]⟩ }

end Date
end TopicLog
