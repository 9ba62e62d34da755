import TopicLog.Calendar
import TopicLog.Text.Decimal

/-!
A date and a time of day to the nanosecond. The sixtieth second is admitted in every minute, so that
leap seconds can be kept as they are written. The text of a timestamp gives the shortest of no,
three, six and nine digits of its fraction that is exact, and a sign to years outside four digits.
-/
namespace TopicLog

structure Timestamp where
  date : Date
  hour : Nat
  minute : Nat
  second : Nat
  nanosecond : Nat
  real : hour < 24 ∧ minute < 60 ∧ second ≤ 60 ∧ nanosecond < 1000000000
  deriving DecidableEq

namespace Timestamp

def ofParts? (year : Int) (month day hour minute second nanosecond : Nat) : Option Timestamp := do
  let date ← Date.ofParts? year month day
  if real : hour < 24 ∧ minute < 60 ∧ second ≤ 60 ∧ nanosecond < 1000000000 then
    some ⟨date, hour, minute, second, nanosecond, real⟩
  else none

/-- The timestamp so many minutes before, for less than a day either way. Seconds and their fraction
are kept. -/
def minusMinutes (moment : Timestamp) (minutes : Int) : Timestamp :=
  let total : Int := moment.hour * 60 + moment.minute - minutes
  let ofDay := (total % 1440).toNat
  { moment with
    date :=
      if total < 0 then moment.date.previous
      else if 1440 ≤ total then moment.date.next
      else moment.date
    hour := ofDay / 60
    minute := ofDay % 60
    real := ⟨by omega, by omega, moment.real.2.2.1, moment.real.2.2.2⟩ }

def yearText (year : Int) : List Char :=
  if 0 ≤ year ∧ year ≤ 9999 then Decimal.padded 4 year.toNat
  else (if year < 0 then '-' else '+') :: Decimal.padded 4 year.natAbs

def fractionText (nanosecond : Nat) : List Char :=
  if nanosecond = 0 then []
  else if nanosecond % 1000000 = 0 then '.' :: Decimal.padded 3 (nanosecond / 1000000)
  else if nanosecond % 1000 = 0 then '.' :: Decimal.padded 6 (nanosecond / 1000)
  else '.' :: Decimal.padded 9 nanosecond

def dateText (date : Date) : List Char :=
  yearText date.year ++ '-' :: Decimal.padded 2 date.month ++ '-' :: Decimal.padded 2 date.day

def timeText (moment : Timestamp) : List Char :=
  Decimal.padded 2 moment.hour ++ ':' :: Decimal.padded 2 moment.minute ++
    ':' :: Decimal.padded 2 moment.second ++ fractionText moment.nanosecond

def textWith (separator : Char) (moment : Timestamp) : String :=
  String.ofList (dateText moment.date ++ separator :: timeText moment)

def toText (moment : Timestamp) : String := moment.textWith ' '

end Timestamp
end TopicLog
