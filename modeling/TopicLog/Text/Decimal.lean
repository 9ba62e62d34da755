/-!
Decimal digits: a natural number in at least so many digits, and the number that a run of digits
stands for. Only the ten ASCII digits count as digits.
-/
namespace TopicLog.Decimal

def padded (width number : Nat) : List Char :=
  let digits := Nat.toDigits 10 number
  List.replicate (width - digits.length) '0' ++ digits

def digit? (c : Char) : Option Nat :=
  if '0' ≤ c ∧ c ≤ '9' then some (c.toNat - '0'.toNat) else none

def isDigit (c : Char) : Bool := (digit? c).isSome

/-- The number that digits stand for, the most significant first; other characters count nothing. -/
def value (digits : List Char) : Nat :=
  digits.foldl (fun number c => number * 10 + (digit? c).getD 0) 0

/-- The leading digits of a text, at most so many, and what follows them. -/
def span (most : Nat) (text : List Char) : List Char × List Char :=
  let digits := (text.take most).takeWhile isDigit
  (digits, text.drop digits.length)

end TopicLog.Decimal
