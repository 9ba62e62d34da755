import TopicLog.Timestamp
import TopicLog.Text.Blank

/-!
Three ways to read a timestamp. An instant is written with fixed widths and an offset from universal
time, to which it is converted. A spaced and a joined form carry no offset and are laxer: numbers may
be shorter and have blanks before them, and the year may have a sign. Nothing may follow any of them.
-/
namespace TopicLog.Timestamp

/-- A text reader gives what it read and the characters after it. -/
abbrev Scan (α : Type) := List Char → Option (α × List Char)

def scanExactly (width : Nat) : Scan Nat := fun text =>
  let (digits, rest) := Decimal.span width text
  if digits.length = width then some (Decimal.value digits, rest) else none

def expect (c : Char) : List Char → Option (List Char)
  | [] => none
  | d :: rest => if d = c then some rest else none

/-- A point and at least one digit, or nothing. Digits after the ninth are passed over. -/
def scanFraction : Scan Nat
  | '.' :: rest =>
      let digits := rest.takeWhile Decimal.isDigit
      if digits.isEmpty then none
      else some (Decimal.value ((digits ++ List.replicate 9 '0').take 9), rest.drop digits.length)
  | text => some (0, text)

/-- Minutes east of universal time: the letter Z, or a sign with hours and minutes. The sign may be
the mathematical minus. -/
def scanOffset : Scan Int
  | [] => none
  | c :: rest => do
      if c = 'Z' ∨ c = 'z' then return (0, rest)
      let west ← if c = '+' then some false
        else if c = '-' ∨ c = '\u2212' then some true
        else none
      let (hours, rest) ← scanExactly 2 rest
      let rest ← expect ':' rest
      let (minutes, rest) ← scanExactly 2 rest
      if 24 ≤ hours ∨ 60 ≤ minutes then none
      let total : Int := hours * 60 + minutes
      return (if west then -total else total, rest)

def scanClock : Scan (Nat × Nat × Nat × Nat) := fun text => do
  let (hour, text) ← scanExactly 2 text
  let text ← expect ':' text
  let (minute, text) ← scanExactly 2 text
  let text ← expect ':' text
  let (second, text) ← scanExactly 2 text
  let (nanosecond, text) ← scanFraction text
  return ((hour, minute, second, nanosecond), text)

def ofInstant? (text : List Char) : Option Timestamp := do
  let (year, text) ← scanExactly 4 text
  let text ← expect '-' text
  let (month, text) ← scanExactly 2 text
  let text ← expect '-' text
  let (day, text) ← scanExactly 2 text
  let separator :: text := text | none
  if separator ≠ 'T' ∧ separator ≠ 't' ∧ separator ≠ ' ' then none
  let ((hour, minute, second, nanosecond), text) ← scanClock text
  let (offset, text) ← scanOffset text
  if !text.isEmpty then none
  let moment ← ofParts? year month day hour minute second nanosecond
  return moment.minusMinutes offset

def scanLax (width : Nat) : Scan Nat := fun text =>
  let (digits, rest) := Decimal.span width (text.dropWhile isBlank)
  if digits.isEmpty then none else some (Decimal.value digits, rest)

/-- Blanks and then a year: any number of digits after a sign, else at most four. -/
def scanYear : Scan Int := fun text =>
  match text.dropWhile isBlank with
  | [] => none
  | c :: rest =>
      if c = '+' ∨ c = '-' then
        let digits := rest.takeWhile Decimal.isDigit
        if digits.isEmpty then none
        else
          let size : Int := Decimal.value digits
          some (if c = '-' then -size else size, rest.drop digits.length)
      else (scanLax 4 (c :: rest)).map fun (year, rest) => ((year : Int), rest)

/-- The years that a timestamp without offset may have. -/
def inEra (year : Int) : Bool := -262143 ≤ year && year ≤ 262142

def ofLocal? (separate : List Char → Option (List Char)) (text : List Char) :
    Option Timestamp := do
  let (year, text) ← scanYear text
  let text ← expect '-' text
  let (month, text) ← scanLax 2 text
  let text ← expect '-' text
  let (day, text) ← scanLax 2 text
  let text ← separate text
  let (hour, text) ← scanLax 2 text
  let text ← expect ':' text
  let (minute, text) ← scanLax 2 text
  let text ← expect ':' text
  let (second, text) ← scanLax 2 text
  let (nanosecond, text) ← scanFraction text
  if !text.isEmpty ∨ !inEra year then none
  ofParts? year month day hour minute second nanosecond

/-- Any blanks between date and time, also none. -/
def ofSpaced? : List Char → Option Timestamp :=
  ofLocal? fun text => some (text.dropWhile isBlank)

def ofJoined? : List Char → Option Timestamp := ofLocal? (expect 'T')

def ofText? (text : String) : Option Timestamp :=
  (ofInstant? text.toList).orElse fun _ =>
    (ofSpaced? text.toList).orElse fun _ => ofJoined? text.toList

end TopicLog.Timestamp
