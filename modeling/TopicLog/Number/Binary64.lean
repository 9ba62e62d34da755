/-!
Rounding to double precision in exact arithmetic. A positive number is rounded to the nearest
multiple of a power of two that leaves 53 significant bits, a tie going to the even multiple; below
the least normal number the multiples stop shrinking. The range is left open at the top, so that
whoever asks can say where a number becomes too large.
-/
namespace TopicLog.Binary64

/-- A quotient rounded to the nearest whole number, a tie to the even one. -/
def divideEven (num den : Nat) : Nat :=
  let quotient := num / den
  let twice := 2 * (num % den)
  if twice < den then quotient
  else if den < twice then quotient + 1
  else quotient + quotient % 2

/-- A whole number rounded to 53 significant bits. -/
def roundNat (n : Nat) : Nat :=
  let excess := n.log2 - 52
  divideEven n (1 <<< excess) <<< excess

/-- The least whole number that is too large for a finite double: half a step past the largest. -/
def overflow : Nat := 1 <<< 1024 - 1 <<< 970

def exponent (num den : Nat) : Int :=
  let guess : Int := num.log2 - den.log2
  if 0 ≤ guess then
    if den <<< guess.toNat ≤ num then guess else guess - 1
  else
    if den ≤ num <<< (-guess).toNat then guess else guess - 1

def roundQuotient (num den : Nat) : Rat :=
  let step : Int := max (exponent num den - 52) (-1074)
  if 0 ≤ step then
    (divideEven num (den <<< step.toNat) <<< step.toNat : Nat)
  else
    mkRat (divideEven (num <<< (-step).toNat) den) (1 <<< (-step).toNat)

end TopicLog.Binary64
