import TopicLog.Json.Fault
import TopicLog.Number.Binary64

/-!
JSON numbers. A number is read as a significand that fits 64 bits and a power of ten; digits that no
longer fit move the power and are otherwise dropped. A number is malformed if its spelling is, or if
it lies outside the range of doubles.
-/
namespace TopicLog.Json

structure Number where
  negative : Bool
  significand : Nat
  exponent : Int
  /-- Written without a fraction or an exponent, and kept in full. -/
  whole : Bool
  deriving DecidableEq, Repr

def isDigitByte (b : UInt8) : Bool := 0x30 ≤ b.toNat && b.toNat ≤ 0x39

/-- Takes up digits while the significand fits 64 bits; the rest is what no longer fits. -/
def absorb (significand : Nat) : Bytes → Nat × Bytes
  | [] => (significand, [])
  | b :: rest =>
      let next := significand * 10 + (b.toNat - 0x30)
      if next < UInt64.size then absorb next rest else (significand, b :: rest)

/-- Too large for a double: the product of the rounded significand and power of ten is. -/
def outOfRange (significand : Nat) (exponent : Int) : Bool :=
  significand ≠ 0 &&
    (308 < exponent ||
      (0 ≤ exponent && Binary64.overflow ≤
        Binary64.roundNat significand * Binary64.roundNat (Nat.pow 10 exponent.toNat)))

def finishNumber (number : Number) (rest : Bytes) : Reading Number :=
  if !number.whole && outOfRange number.significand number.exponent then .error .malformed
  else .ok (number, rest)

def readExponent (number : Number) : Bytes → Reading Number
  | [] => finishNumber number []
  | b :: rest =>
      if b ≠ 'e'.toUInt8 ∧ b ≠ 'E'.toUInt8 then finishNumber number (b :: rest) else
      let falling := rest.head? = some '-'.toUInt8
      let rest := if falling ∨ rest.head? = some '+'.toUInt8 then rest.tail else rest
      match rest with
      | [] => .error .truncated
      | d :: _ =>
          if !isDigitByte d then .error .malformed else
          let digits := rest.takeWhile isDigitByte
          let power : Nat := digits.foldl (fun n b => n * 10 + (b.toNat - 0x30)) 0
          let exponent := if falling then number.exponent - power else number.exponent + power
          finishNumber { number with exponent, whole := false } (rest.drop digits.length)

def readFraction (number : Number) : Bytes → Reading Number
  | [] => finishNumber number []
  | b :: rest =>
      if b ≠ '.'.toUInt8 then readExponent number (b :: rest) else
      match rest with
      | [] => .error .truncated
      | d :: _ =>
          if !isDigitByte d then .error .malformed else
          let digits := rest.takeWhile isDigitByte
          let (significand, dropped) := absorb number.significand digits
          let exponent := number.exponent - (digits.length - dropped.length : Nat)
          readExponent { number with significand, exponent, whole := false }
            (rest.drop digits.length)

def readUnsigned (negative : Bool) : Bytes → Reading Number
  | [] => .error .truncated
  | d :: rest =>
      if !isDigitByte d then .error .malformed
      else if d = '0'.toUInt8 ∧ rest.head?.any isDigitByte then .error .malformed
      else
        let digits := d :: rest.takeWhile isDigitByte
        let (significand, dropped) := absorb 0 digits
        readFraction ⟨negative, significand, dropped.length, dropped.isEmpty⟩
          (rest.drop (digits.length - 1))

def readNumber : Bytes → Reading Number
  | [] => .error .truncated
  | b :: rest =>
      if b = '-'.toUInt8 then readUnsigned true rest else readUnsigned false (b :: rest)

/-- The natural number that a number denotes by its spelling; a sign spoils it, also before zero. -/
def Number.natural? (number : Number) : Option Nat :=
  if number.whole && !number.negative then some number.significand else none

theorem finishNumber_rest {number result : Number} {bytes rest : Bytes}
    (read : finishNumber number bytes = .ok (result, rest)) : rest = bytes := by
  unfold finishNumber at read
  split at read
  · contradiction
  · exact (Prod.mk.inj (Except.ok.inj read)).2.symm

theorem readExponent_length {number result : Number} {bytes rest : Bytes}
    (read : readExponent number bytes = .ok (result, rest)) : rest.length ≤ bytes.length := by
  unfold readExponent at read
  split at read
  · exact Nat.le_of_eq (congrArg _ (finishNumber_rest read))
  · simp only at read
    repeat' split at read
    all_goals first
      | contradiction
      | exact Nat.le_of_eq (congrArg _ (finishNumber_rest read))
      | have same := finishNumber_rest read
        simp only [same, List.length_drop, List.length_cons, List.length_tail]
        omega

theorem readFraction_length {number result : Number} {bytes rest : Bytes}
    (read : readFraction number bytes = .ok (result, rest)) : rest.length ≤ bytes.length := by
  unfold readFraction at read
  repeat' split at read
  all_goals first
    | contradiction
    | exact Nat.le_of_eq (congrArg _ (finishNumber_rest read))
    | exact readExponent_length read
    | have bound := readExponent_length read
      simp only [List.length_drop, List.length_cons] at bound ⊢
      omega

theorem readUnsigned_length {negative : Bool} {result : Number} {bytes rest : Bytes}
    (read : readUnsigned negative bytes = .ok (result, rest)) : rest.length < bytes.length := by
  unfold readUnsigned at read
  repeat' split at read
  all_goals first
    | contradiction
    | have bound := readFraction_length read
      simp only [List.length_drop, List.length_cons] at bound ⊢
      omega

theorem readNumber_length {result : Number} {bytes rest : Bytes}
    (read : readNumber bytes = .ok (result, rest)) : rest.length < bytes.length := by
  unfold readNumber at read
  repeat' split at read
  · contradiction
  · exact Nat.lt_succ_of_lt (readUnsigned_length read)
  · exact readUnsigned_length read

end TopicLog.Json
