import Mathlib.Algebra.BigOperators.Group.List.Basic
import Mathlib.Tactic.IntervalCases
import TopicLog.Calendar

/-!
The days of the Gregorian calendar, counted. The count has a table of month lengths and a leap year
rule of its own, and reaches into years before the first. The day after a date counts one more and
the day before one less, and no two dates have the same count.
-/
namespace TopicLog

/-- Every fourth year, and of the full centuries only every fourth. -/
def Leap (year : Int) : Prop := 4 ∣ year ∧ (100 ∣ year → 400 ∣ year)

instance (year : Int) : Decidable (Leap year) := inferInstanceAs (Decidable (_ ∧ _))

def monthLengths (year : Int) : List Nat :=
  [31, if Leap year then 29 else 28, 31, 30, 31, 30, 31, 31, 30, 31, 30, 31]

def daysBeforeMonth (year : Int) (month : Nat) : Nat := ((monthLengths year).take (month - 1)).sum

/-- The days from the beginning of year 1 until a year begins, below zero for earlier years. -/
def daysBeforeYear (year : Int) : Int :=
  365 * (year - 1) + (year - 1) / 4 - (year - 1) / 100 + (year - 1) / 400

/-- The first of January of year 1 is day 1. -/
def Date.dayNumber (date : Date) : Int :=
  daysBeforeYear date.year + daysBeforeMonth date.year date.month + date.day

/-! Months and years. -/

theorem isLeapYear_iff (year : Int) : isLeapYear year = true ↔ Leap year := by
  simp only [isLeapYear, Leap, Bool.and_eq_true, Bool.or_eq_true, decide_eq_true_eq]
  omega

theorem monthLengths_get {year : Int} {month : Nat} (first : 1 ≤ month) (last : month ≤ 12) :
    (monthLengths year)[month - 1]? = some (daysIn year month) := by
  have february : daysIn year 2 = if Leap year then 29 else 28 := by
    simp only [daysIn, ↓reduceIte, isLeapYear_iff]
  interval_cases month
  all_goals first
    | exact congrArg some february.symm
    | rfl

theorem daysBeforeMonth_succ (year : Int) {month : Nat} (first : 1 ≤ month) (last : month ≤ 12) :
    daysBeforeMonth year (month + 1) = daysBeforeMonth year month + daysIn year month := by
  have index : month + 1 - 1 = month - 1 + 1 := by omega
  rw [daysBeforeMonth, index, List.take_add_one, monthLengths_get first last, List.sum_append]
  rfl

theorem daysBeforeMonth_le (year : Int) {first second : Nat} (order : first ≤ second) :
    daysBeforeMonth year first ≤ daysBeforeMonth year second := by
  induction order with
  | refl => exact Nat.le_refl _
  | @step month _ ih =>
      cases month with
      | zero => exact ih
      | succ before =>
          have grows : daysBeforeMonth year (before + 1) ≤ daysBeforeMonth year (before + 2) := by
            rw [daysBeforeMonth, daysBeforeMonth, show before + 2 - 1 = before + 1 - 1 + 1 from rfl,
              List.take_add_one, List.sum_append]
            exact Nat.le_add_right _ _
          exact Nat.le_trans ih grows

theorem daysBeforeYear_succ (year : Int) :
    daysBeforeYear (year + 1) = daysBeforeYear year + daysBeforeMonth year 13 := by
  have length : daysBeforeMonth year 13 = if Leap year then 366 else 365 := by
    by_cases leap : Leap year
    · simp [daysBeforeMonth, monthLengths, leap]
    · simp [daysBeforeMonth, monthLengths, leap]
  have cycle : Leap year ↔ year % 4 = 0 ∧ (year % 100 = 0 → year % 400 = 0) := by
    simp only [Leap]
    omega
  rw [length, daysBeforeYear, daysBeforeYear]
  clear length
  split
  · rename_i leap
    rw [cycle] at leap
    omega
  · rename_i common
    rw [cycle] at common
    omega

theorem daysBeforeYear_le {first second : Int} (order : first ≤ second) :
    daysBeforeYear first ≤ daysBeforeYear second := by
  simp only [daysBeforeYear]
  omega

namespace Date

variable (date : Date)

theorem day_in_month :
    daysBeforeMonth date.year date.month + date.day ≤ daysBeforeMonth date.year (date.month + 1) := by
  rw [daysBeforeMonth_succ date.year date.real.1 date.real.2.1]
  exact Nat.add_le_add_left date.real.2.2.2 _

theorem dayNumber_in_year :
    daysBeforeYear date.year < date.dayNumber ∧
      date.dayNumber ≤ daysBeforeYear (date.year + 1) := by
  have real := date.real
  have ofMonth := date.day_in_month
  have ofYear := daysBeforeMonth_le date.year (show date.month + 1 ≤ 13 by omega)
  rw [dayNumber, daysBeforeYear_succ]
  omega

theorem year_next : date.year ≤ date.next.year ∧ date.next.year ≤ date.year + 1 := by
  rw [next]
  split
  · dsimp only
    omega
  · split
    · dsimp only
      omega
    · dsimp only
      omega

theorem year_previous : date.year - 1 ≤ date.previous.year ∧ date.previous.year ≤ date.year := by
  rw [previous]
  split
  · dsimp only
    omega
  · split
    · dsimp only
      omega
    · dsimp only
      omega

theorem dayNumber_next : date.next.dayNumber = date.dayNumber + 1 := by
  have real := date.real
  -- The next day is of the same month, of the next month, or the first one of the next year.
  rw [next]
  split
  · simp only [dayNumber]
    omega
  · rename_i last
    have ends := daysBeforeMonth_succ date.year real.1 real.2.1
    split
    · simp only [dayNumber, ends]
      omega
    · have december : date.month = 12 := by omega
      rw [december] at ends last real
      have newYear := daysBeforeYear_succ date.year
      have january : daysBeforeMonth (date.year + 1) 1 = 0 := rfl
      rw [ends] at newYear
      simp only [dayNumber, january, december, newYear]
      omega

theorem dayNumber_previous : date.previous.dayNumber = date.dayNumber - 1 := by
  have real := date.real
  rw [previous]
  split
  · simp only [dayNumber]
    omega
  · split
    · have ends := daysBeforeMonth_succ date.year (show 1 ≤ date.month - 1 by omega) (by omega)
      rw [Nat.sub_add_cancel real.1] at ends
      simp only [dayNumber, ends]
      omega
    · have january : date.month = 1 := by omega
      have ends := daysBeforeMonth_succ (date.year - 1) (show 1 ≤ 12 by decide) (by decide)
      have newYear := daysBeforeYear_succ (date.year - 1)
      have december : daysIn (date.year - 1) 12 = 31 := rfl
      have begins : daysBeforeMonth date.year 1 = 0 := rfl
      rw [Int.sub_add_cancel, ends, december] at newYear
      simp only [dayNumber, january, begins, newYear]
      omega

variable {date} {other : Date}

theorem year_le (same : date.dayNumber = other.dayNumber) : date.year ≤ other.year := by
  by_contra later
  have begins := daysBeforeYear_le (show other.year + 1 ≤ date.year by omega)
  have first := date.dayNumber_in_year
  have second := other.dayNumber_in_year
  omega

theorem month_le (sameYear : date.year = other.year) (same : date.dayNumber = other.dayNumber) :
    date.month ≤ other.month := by
  by_contra later
  have begins := daysBeforeMonth_le other.year (show other.month + 1 ≤ date.month by omega)
  have ends := other.day_in_month
  have positive := date.real.2.2.1
  rw [dayNumber, dayNumber, sameYear] at same
  omega

theorem dayNumber_injective (same : date.dayNumber = other.dayNumber) : date = other := by
  have sameYear := Int.le_antisymm (year_le same) (year_le same.symm)
  have sameMonth := Nat.le_antisymm (month_le sameYear same) (month_le sameYear.symm same.symm)
  have sameDay : date.day = other.day := by
    rw [dayNumber, dayNumber, sameYear, sameMonth] at same
    omega
  cases date
  cases other
  simp only [mk.injEq]
  exact ⟨sameYear, sameMonth, sameDay⟩

end Date
end TopicLog
