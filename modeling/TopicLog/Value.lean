import TopicLog.Text.Utf8
import TopicLog.Text.Decimal
import TopicLog.Number.Binary64

/-!
Values of database columns, and how a column's affinity converts what is put into it. Integers have
64 bits where they come from outside; a number written as text in an integer column becomes an
integer if it denotes one, else a double.
-/
namespace TopicLog

inductive Value where
  | null
  | int (n : Int)
  | real (q : Rat)
  | text (s : String)
  | blob (bytes : Bytes)
  deriving DecidableEq

namespace Value

def leastInteger : Int := -0x8000000000000000
def greatestInteger : Int := 0x7FFFFFFFFFFFFFFF

/-! Numbers written as text. -/

/-- The blanks that may surround a number: space, tab, line feed, vertical tab, form feed and
carriage return. -/
def isPad (c : Char) : Bool := c = ' ' || (0x09 ≤ c.toNat && c.toNat ≤ 0x0D)

structure Numeral where
  negative : Bool
  whole : List Char
  fraction : Option (List Char)
  power : Option Int

/-- The power of ten at the end of a number; more than ten thousand counts as ten thousand. -/
def power? : List Char → Option Int
  | [] => none
  | c :: rest =>
      let digits := if c = '+' ∨ c = '-' then rest else c :: rest
      if digits.isEmpty ∨ !digits.all Decimal.isDigit then none
      else
        let size : Int := min (Decimal.value digits) 10000
        some (if c = '-' then -size else size)

/-- Reads a number that fills the text up to surrounding blanks. -/
def numeral? (text : List Char) : Option Numeral := do
  let text := ((text.dropWhile isPad).reverse.dropWhile isPad).reverse
  let negative := text.head? = some '-'
  let text := if negative ∨ text.head? = some '+' then text.tail else text
  let whole := text.takeWhile Decimal.isDigit
  let text := text.drop whole.length
  let (fraction, text) := match text with
    | '.' :: rest =>
        let digits := rest.takeWhile Decimal.isDigit
        (some digits, rest.drop digits.length)
    | _ => (none, text)
  if whole.isEmpty ∧ (fraction.getD []).isEmpty then none
  match text with
  | [] => return ⟨negative, whole, fraction, none⟩
  | c :: rest =>
      if c ≠ 'e' ∧ c ≠ 'E' then none
      return ⟨negative, whole, fraction, some (← power? rest)⟩

def Numeral.double (numeral : Numeral) : Rat :=
  let fraction := numeral.fraction.getD []
  let digits := Decimal.value (numeral.whole ++ fraction)
  let power := numeral.power.getD 0 - fraction.length
  let size : Rat :=
    if digits = 0 then 0
    else if 0 ≤ power then Binary64.roundQuotient (digits * Nat.pow 10 power.toNat) 1
    else Binary64.roundQuotient digits (Nat.pow 10 (-power).toNat)
  if numeral.negative then -size else size

/-- The integer that a number is spelled as, if it has 64 bits. -/
def Numeral.spelled? (numeral : Numeral) : Option Int :=
  if numeral.fraction.isSome ∨ numeral.power.isSome then none
  else
    let size : Int := Decimal.value numeral.whole
    let n := if numeral.negative then -size else size
    if leastInteger ≤ n ∧ n ≤ greatestInteger then some n else none

/-- A whole double strictly within the integers becomes one. -/
def ofDouble (q : Rat) : Value :=
  if q.den = 1 ∧ leastInteger < q.num ∧ q.num < greatestInteger then .int q.num else .real q

def ofNumeral (numeral : Numeral) : Value :=
  match numeral.spelled? with
  | some n => .int n
  | none => ofDouble numeral.double

/-! Affinity. -/

def inIntegerColumn : Value → Value
  | .text s => ((numeral? s.toList).map ofNumeral).getD (.text s)
  | value => value

def inTextColumn : Value → Value
  | .int n => .text (toString n)
  | value => value

/-! Order against integers and text, as a comparison in a statement sees it: null compares with
nothing, numbers come before text, and text before blobs. -/

def belowInteger (value : Value) (n : Int) : Bool :=
  match value with
  | .int m => m < n
  | .real q => q < n
  | _ => false

def belowText (value : Value) (s : String) : Bool :=
  match value with
  | .int _ => true
  | .real _ => true
  | .text t => t < s
  | _ => false

end Value
end TopicLog
