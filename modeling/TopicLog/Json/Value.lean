import TopicLog.Json.Text
import TopicLog.Json.Number

/-!
Values of a wanted type, and the commas and colons around them. Where a value of another type stands,
its start is read first, so a fault in that start is reported before the mismatch; of an array or an
object the opening bracket is all of the start.
-/
namespace TopicLog.Json

def readLiteral : List Char → Bytes → Except Fault Bytes
  | [], bytes => .ok bytes
  | _ :: _, [] => .error .truncated
  | c :: expected, b :: rest =>
      if b = c.toUInt8 then readLiteral expected rest else .error .malformed

theorem readLiteral_length {expected : List Char} {bytes rest : Bytes}
    (read : readLiteral expected bytes = .ok rest) : rest.length ≤ bytes.length := by
  induction expected generalizing bytes with
  | nil => cases read; exact Nat.le_refl _
  | cons c expected ih =>
      cases bytes with
      | nil => cases read
      | cons b bytes =>
          simp only [readLiteral] at read
          split at read
          · exact Nat.le_succ_of_le (ih read)
          · cases read

/-- The literal that starts with a letter, without that letter. -/
def literalTail? (b : UInt8) : Option (List Char) :=
  if b = 'n'.toUInt8 then some ['u', 'l', 'l']
  else if b = 't'.toUInt8 then some ['r', 'u', 'e']
  else if b = 'f'.toUInt8 then some ['a', 'l', 's', 'e']
  else none

def startsNumber (b : UInt8) : Bool := b = '-'.toUInt8 || isDigitByte b

/-- The fault of a value that starts here and has another type than the wanted one. -/
def mismatch : Bytes → Fault
  | [] => .truncated
  | b :: rest =>
      match literalTail? b with
      | some expected =>
          match readLiteral expected rest with
          | .ok _ => .mistyped
          | .error fault => fault
      | none =>
          if startsNumber b then
            match readNumber (b :: rest) with
            | .ok _ => .mistyped
            | .error fault => fault
          else if b = '"'.toUInt8 then
            match readString rest with
            | .ok _ => .mistyped
            | .error fault => fault
          else if b = '['.toUInt8 ∨ b = '\x7b'.toUInt8 then .mistyped
          else .malformed

def readText (bytes : Bytes) : Reading String :=
  match skipBlanks bytes with
  | [] => .error .truncated
  | b :: rest => if b = '"'.toUInt8 then readString rest else .error (mismatch (b :: rest))

def readNatural (limit : Nat) (bytes : Bytes) : Reading (Fin limit) :=
  match skipBlanks bytes with
  | [] => .error .truncated
  | b :: rest =>
      if startsNumber b then
        match readNumber (b :: rest) with
        | .error fault => .error fault
        | .ok (number, rest) =>
            match number.natural? with
            | none => .error .mistyped
            | some n => if fits : n < limit then .ok (⟨n, fits⟩, rest) else .error .mistyped
      else .error (mismatch (b :: rest))

/-- The next key of an object, or nothing at its closing brace. The first key has no comma before
it. -/
def nextKey (first : Bool) (bytes : Bytes) : Reading (Option String) :=
  match skipBlanks bytes with
  | [] => .error .truncated
  | b :: rest =>
      if b = '\x7d'.toUInt8 then .ok (none, rest)
      else if first then
        if b = '"'.toUInt8 then (readString rest).map fun (key, rest) => (some key, rest)
        else .error .malformed
      else if b = ','.toUInt8 then
        match skipBlanks rest with
        | [] => .error .truncated
        | c :: rest =>
            if c = '"'.toUInt8 then (readString rest).map fun (key, rest) => (some key, rest)
            else .error .malformed
      else .error .malformed

def readColon (bytes : Bytes) : Except Fault Bytes :=
  match skipBlanks bytes with
  | [] => .error .truncated
  | b :: rest => if b = ':'.toUInt8 then .ok rest else .error .malformed

/-- Where the next element of an array starts; an array that ends there is too short. -/
def nextElement (first : Bool) (bytes : Bytes) : Except Fault Bytes :=
  match skipBlanks bytes with
  | [] => .error .truncated
  | b :: rest =>
      if b = ']'.toUInt8 then .error .mistyped
      else if first then .ok (b :: rest)
      else if b = ','.toUInt8 then
        match skipBlanks rest with
        | [] => .error .truncated
        | c :: rest => if c = ']'.toUInt8 then .error .malformed else .ok (c :: rest)
      else .error .malformed

def endArray (bytes : Bytes) : Except Fault Bytes :=
  match skipBlanks bytes with
  | [] => .error .truncated
  | b :: rest => if b = ']'.toUInt8 then .ok rest else .error .malformed

theorem readText_length {bytes rest : Bytes} {text : String}
    (read : readText bytes = .ok (text, rest)) : rest.length < bytes.length := by
  unfold readText at read
  repeat' split at read
  all_goals first
    | contradiction
    | exact Nat.lt_trans (readString_length read) (skipBlanks_tail ‹_›)

theorem readNatural_length {limit : Nat} {n : Fin limit} {bytes rest : Bytes}
    (read : readNatural limit bytes = .ok (n, rest)) : rest.length < bytes.length := by
  unfold readNatural at read
  repeat' split at read
  all_goals first
    | contradiction
    | have inside := skipBlanks_tail ‹_›
      have bound := readNumber_length ‹_›
      obtain ⟨_, rfl⟩ := Prod.mk.inj (Except.ok.inj read)
      simp only [List.length_cons] at bound
      omega

theorem mapKey_length {bytes rest : Bytes} {key : Option String}
    (read : ((readString bytes).map fun (key, rest) => (some key, rest)) = .ok (key, rest)) :
    rest.length < bytes.length := by
  cases found : readString bytes with
  | error fault => simp [found, Except.map] at read
  | ok pair =>
      simp only [found, Except.map] at read
      obtain ⟨_, rfl⟩ := Prod.mk.inj (Except.ok.inj read)
      exact readString_length found

theorem nextKey_length {first : Bool} {bytes rest : Bytes} {key : Option String}
    (read : nextKey first bytes = .ok (key, rest)) : rest.length < bytes.length := by
  unfold nextKey at read
  repeat' split at read
  · contradiction
  · obtain ⟨_, rfl⟩ := Prod.mk.inj (Except.ok.inj read)
    exact skipBlanks_tail ‹_›
  · exact Nat.lt_trans (mapKey_length read) (skipBlanks_tail ‹_›)
  · contradiction
  · contradiction
  · exact Nat.lt_trans (mapKey_length read)
      (Nat.lt_trans (skipBlanks_tail ‹_›) (skipBlanks_tail ‹_›))
  · contradiction
  · contradiction

theorem readColon_length {bytes rest : Bytes} (read : readColon bytes = .ok rest) :
    rest.length < bytes.length := by
  unfold readColon at read
  repeat' split at read
  · contradiction
  · cases read
    exact skipBlanks_tail ‹_›
  · contradiction

end TopicLog.Json
