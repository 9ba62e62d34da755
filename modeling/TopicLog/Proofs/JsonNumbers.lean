import Mathlib.Data.List.TakeWhile
import TopicLog.Json.Skip
import TopicLog.Proofs.MetadataGrammar

/-!
JSON numbers, as a grammar over bytes. A number that is read is refused only for its range, and a
number that is passed over is never refused. Of the numbers in range, the plain decimals below a limit
are read as natural numbers and all others are found to have another type.
-/
namespace TopicLog.Json

/-! The grammar. -/

structure Digits where
  bytes : Bytes
  digit : ∀ b ∈ bytes, isDigitByte b = true
  any : bytes ≠ []

def Digits.ofAll (bytes : Bytes) (all : bytes.all isDigitByte = true) (any : bytes ≠ []) : Digits :=
  ⟨bytes, List.all_eq_true.mp all, any⟩

/-- The number that digits stand for after those of a number, the most significant first. -/
def digitsFrom (number : Nat) (digits : Bytes) : Nat :=
  digits.foldl (fun n b => n * 10 + (b.toNat - 0x30)) number

/-- A zero at the beginning stands alone. -/
def Digits.Trimmed (digits : Digits) : Prop :=
  digits.bytes.head? = some '0'.toUInt8 → digits.bytes.length = 1

inductive Sign where
  | none
  | plus
  | minus

def Sign.bytes : Sign → Bytes
  | none => []
  | plus => ['+'.toUInt8]
  | minus => ['-'.toUInt8]

structure Power where
  mark : Char
  either : mark = 'e' ∨ mark = 'E'
  sign : Sign
  digits : Digits

namespace Power

def bytes (power : Power) : Bytes :=
  power.mark.toUInt8 :: (power.sign.bytes ++ power.digits.bytes)

def value (power : Power) : Int :=
  match power.sign with
  | .minus => -(digitsFrom 0 power.digits.bytes : Int)
  | _ => digitsFrom 0 power.digits.bytes

end Power

structure Numeral where
  negative : Bool
  whole : Digits
  trimmed : whole.Trimmed
  fraction : Option Digits
  power : Option Power

def fractionBytes : Option Digits → Bytes
  | none => []
  | some digits => '.'.toUInt8 :: digits.bytes

def powerBytes : Option Power → Bytes
  | none => []
  | some power => power.bytes

namespace Numeral

def bytes (numeral : Numeral) : Bytes :=
  (if numeral.negative then ['-'.toUInt8] else []) ++
    (numeral.whole.bytes ++ (fractionBytes numeral.fraction ++ powerBytes numeral.power))

end Numeral

/-- A natural number in plain decimal: no sign, no point and no power of ten. -/
inductive Natural : Nat → Bytes → Prop where
  | digits (digits : Digits) (trimmed : digits.Trimmed) :
      Natural (digitsFrom 0 digits.bytes) digits.bytes

/-- What follows is no more of a number. -/
def Ended (rest : Bytes) : Prop :=
  ∀ b, rest.head? = some b →
    isDigitByte b = false ∧ b ≠ '.'.toUInt8 ∧ b ≠ 'e'.toUInt8 ∧ b ≠ 'E'.toUInt8

/-! What is made of a number that is read. -/

namespace Number

def withFraction (number : Number) : Option Digits → Number
  | none => number
  | some digits =>
      let (significand, dropped) := absorb number.significand digits.bytes
      let exponent := number.exponent - (digits.bytes.length - dropped.length : Nat)
      { number with significand, exponent, whole := false }

def withPower (number : Number) : Option Power → Number
  | none => number
  | some power => { number with exponent := number.exponent + power.value, whole := false }

end Number

def Numeral.number (numeral : Numeral) : Number :=
  let (significand, dropped) := absorb 0 numeral.whole.bytes
  let start : Number := ⟨numeral.negative, significand, dropped.length, dropped.isEmpty⟩
  (start.withFraction numeral.fraction).withPower numeral.power

/-- The product of significand and power of ten, both rounded to doubles, is a double. -/
def Numeral.Finite (numeral : Numeral) : Prop :=
  outOfRange numeral.number.significand numeral.number.exponent = false

/-! Digits. -/

theorem le_digitsFrom (number : Nat) (digits : Bytes) : number ≤ digitsFrom number digits := by
  induction digits generalizing number with
  | nil => exact Nat.le_refl number
  | cons b rest ih => exact Nat.le_trans (by omega) (ih (number * 10 + (b.toNat - 0x30)))

theorem digits_cons (digits : Digits) :
    ∃ d tail, digits.bytes = d :: tail ∧ isDigitByte d = true ∧ ∀ b ∈ tail, isDigitByte b = true := by
  obtain ⟨bytes, digit, any⟩ := digits
  cases bytes with
  | nil => exact absurd rfl any
  | cons d tail =>
      exact ⟨d, tail, rfl, digit d List.mem_cons_self,
        fun b member => digit b (List.mem_cons_of_mem d member)⟩

def NoDigit (rest : Bytes) : Prop := ∀ b, rest.head? = some b → isDigitByte b = false

section
variable {digits rest : Bytes}

theorem takeWhile_digits (all : ∀ b ∈ digits, isDigitByte b = true) (last : NoDigit rest) :
    (digits ++ rest).takeWhile isDigitByte = digits := by
  rw [List.takeWhile_append_of_pos all]
  cases rest with
  | nil => exact List.append_nil digits
  | cons b tail =>
      rw [List.takeWhile_cons_of_neg (by simp [last b rfl]), List.append_nil]

theorem dropWhile_digits (all : ∀ b ∈ digits, isDigitByte b = true) (last : NoDigit rest) :
    (digits ++ rest).dropWhile isDigitByte = rest := by
  rw [List.dropWhile_append_of_pos all]
  cases rest with
  | nil => rfl
  | cons b tail => rw [List.dropWhile_cons_of_neg (by simp [last b rfl])]

end

theorem noDigit_head {rest : Bytes} (last : NoDigit rest) :
    rest.head?.any isDigitByte = false := by
  cases rest with
  | nil => rfl
  | cons b tail => exact last b rfl

theorem trimmed_zero {digits : Digits} (trimmed : digits.Trimmed) {tail : Bytes}
    (made : digits.bytes = '0'.toUInt8 :: tail) : tail = [] := by
  have single := trimmed (by rw [made]; rfl)
  rw [made, List.length_cons] at single
  exact List.eq_nil_of_length_eq_zero (Nat.succ.inj single)

theorem Ended.noDigit {rest : Bytes} (ended : Ended rest) : NoDigit rest :=
  fun b next => (ended b next).1

theorem noDigit_power {rest : Bytes} (power : Option Power) (ended : Ended rest) :
    NoDigit (powerBytes power ++ rest) := by
  cases power with
  | none => exact ended.noDigit
  | some power =>
      obtain ⟨mark, either, -, -⟩ := power
      intro b next
      rcases either with rfl | rfl <;> cases next <;> rfl

theorem noDigit_fraction {rest : Bytes} (fraction : Option Digits) (power : Option Power)
    (ended : Ended rest) : NoDigit (fractionBytes fraction ++ powerBytes power ++ rest) := by
  cases fraction with
  | none => exact noDigit_power power ended
  | some digits =>
      intro b next
      cases next
      rfl

theorem sign_of_digit {d : UInt8} (digit : isDigitByte d = true) :
    d ≠ '-'.toUInt8 ∧ d ≠ '+'.toUInt8 := by
  constructor <;> rintro rfl <;> cases digit

theorem noPoint_power {rest : Bytes} (power : Option Power) (ended : Ended rest) :
    (powerBytes power ++ rest).head? ≠ some '.'.toUInt8 := by
  cases power with
  | none => exact fun next => (ended _ next).2.1 rfl
  | some power =>
      obtain ⟨mark, either, -, -⟩ := power
      have marked : mark.toUInt8 ≠ '.'.toUInt8 := by
        rcases either with rfl | rfl <;> decide
      exact fun next => marked (Option.some.inj next)

theorem readFraction_pass {number : Number} {rest : Bytes} (none : rest.head? ≠ some '.'.toUInt8) :
    readFraction number rest = readExponent number rest := by
  cases rest with
  | nil => rfl
  | cons b tail => exact if_pos fun point => none (congrArg some point)

theorem skipFraction_pass {rest : Bytes} (none : rest.head? ≠ some '.'.toUInt8) :
    skipFraction rest = skipExponent rest := by
  cases rest with
  | nil => rfl
  | cons b tail => exact if_neg fun point => none (congrArg some point)

/-! Reading. -/

section
variable {rest : Bytes} (ended : Ended rest) (number : Number)
include ended

theorem readExponent_end : readExponent number rest = finishNumber number rest := by
  cases rest with
  | nil => rfl
  | cons b tail =>
      obtain ⟨-, -, small, large⟩ := ended b rfl
      rw [readExponent, if_pos ⟨small, large⟩]

theorem readExponent_power (power : Option Power) :
    readExponent number (powerBytes power ++ rest) =
      finishNumber (number.withPower power) rest := by
  cases power with
  | none => exact readExponent_end ended number
  | some power =>
      obtain ⟨mark, either, sign, digits⟩ := power
      obtain ⟨d, tail, made, digit, all⟩ := digits_cons digits
      have taken : (d :: tail ++ rest).takeWhile isDigitByte = d :: tail :=
        takeWhile_digits (made ▸ digits.digit) ended.noDigit
      have marked : ¬ (mark.toUInt8 ≠ 'e'.toUInt8 ∧ mark.toUInt8 ≠ 'E'.toUInt8) := by
        rcases either with rfl | rfl <;> decide
      have next := sign_of_digit digit
      have minus : '+'.toUInt8 ≠ '-'.toUInt8 := by decide
      rw [List.cons_append] at taken
      cases sign <;>
        simp [powerBytes, Power.bytes, Sign.bytes, readExponent, marked, made, next, digit, taken,
          minus, Number.withPower, Power.value, digitsFrom, Int.sub_eq_add_neg, List.drop_left']

theorem readFraction_fraction (fraction : Option Digits) (power : Option Power) :
    readFraction number (fractionBytes fraction ++ powerBytes power ++ rest) =
      finishNumber ((number.withFraction fraction).withPower power) rest := by
  cases fraction with
  | none =>
      have none : readFraction number (powerBytes power ++ rest) = readExponent number _ :=
        readFraction_pass (noPoint_power power ended)
      exact none.trans (readExponent_power ended number power)
  | some digits =>
      obtain ⟨d, tail, made, digit, all⟩ := digits_cons digits
      have last := noDigit_power power ended
      have taken : (d :: tail ++ (powerBytes power ++ rest)).takeWhile isDigitByte = d :: tail :=
        takeWhile_digits (made ▸ digits.digit) last
      rw [List.cons_append] at taken
      have later := readExponent_power ended (number.withFraction (some digits)) power
      rw [← later]
      simp [fractionBytes, readFraction, made, digit, taken, Number.withFraction, List.drop_left']

end

/-- Reading a number comes to its end, where the range is checked. -/
theorem readNumber_numeral (numeral : Numeral) {rest : Bytes} (ended : Ended rest) :
    readNumber (numeral.bytes ++ rest) = finishNumber numeral.number rest := by
  obtain ⟨negative, whole, trimmed, fraction, power⟩ := numeral
  obtain ⟨d, tail, made, digit, all⟩ := digits_cons whole
  have last := noDigit_fraction fraction power ended
  have taken : (tail ++ (fractionBytes fraction ++ powerBytes power ++ rest)).takeWhile isDigitByte =
      tail := takeWhile_digits all last
  have alone : ¬ (d = '0'.toUInt8 ∧
      (tail ++ (fractionBytes fraction ++ powerBytes power ++ rest)).head?.any isDigitByte) := by
    rintro ⟨zero, more⟩
    have none : tail = [] := trimmed_zero trimmed (zero ▸ made)
    rw [none, List.nil_append, noDigit_head last] at more
    cases more
  have unsigned : readUnsigned negative
      (d :: (tail ++ (fractionBytes fraction ++ powerBytes power ++ rest))) =
        finishNumber (Numeral.number ⟨negative, whole, trimmed, fraction, power⟩) rest := by
    rw [readUnsigned, if_neg (by simp [digit]), if_neg alone, taken]
    simp only [List.length_cons, Nat.add_sub_cancel, List.drop_left']
    rw [readFraction_fraction ended]
    simp only [Numeral.number, made]
  have minus : d ≠ '-'.toUInt8 := by
    rintro rfl
    cases digit
  cases negative with
  | true => simpa [Numeral.bytes, readNumber, made] using unsigned
  | false => simpa [Numeral.bytes, readNumber, made, minus] using unsigned

theorem readNumber_finite {numeral : Numeral} (finite : numeral.Finite) {rest : Bytes}
    (ended : Ended rest) :
    readNumber (numeral.bytes ++ rest) = .ok (numeral.number, rest) := by
  have range : outOfRange numeral.number.significand numeral.number.exponent = false := finite
  rw [readNumber_numeral numeral ended, finishNumber, range, Bool.and_false]
  rfl

/-! Passing over. -/

theorem skipDigits_digits (digits : Digits) {rest : Bytes} (last : NoDigit rest) :
    skipDigits (digits.bytes ++ rest) = .ok rest := by
  obtain ⟨d, tail, made, digit, all⟩ := digits_cons digits
  rw [made, List.cons_append, skipDigits, if_pos digit, dropWhile_digits all last]

section
variable {rest : Bytes} (ended : Ended rest)
include ended

theorem skipExponent_power (power : Option Power) :
    skipExponent (powerBytes power ++ rest) = .ok rest := by
  cases power with
  | none =>
      cases rest with
      | nil => rfl
      | cons b tail =>
          obtain ⟨-, -, small, large⟩ := ended b rfl
          exact if_neg (not_or.mpr ⟨small, large⟩)
  | some power =>
      obtain ⟨mark, either, sign, digits⟩ := power
      obtain ⟨d, tail, made, digit, all⟩ := digits_cons digits
      have skipped := skipDigits_digits digits ended.noDigit
      have marked : mark.toUInt8 = 'e'.toUInt8 ∨ mark.toUInt8 = 'E'.toUInt8 := by
        rcases either with rfl | rfl <;> decide
      have next := sign_of_digit digit
      rw [made, List.cons_append] at skipped
      cases sign <;> simp [powerBytes, Power.bytes, Sign.bytes, skipExponent, marked, made, next, skipped]

theorem skipFraction_fraction (fraction : Option Digits) (power : Option Power) :
    skipFraction (fractionBytes fraction ++ powerBytes power ++ rest) = .ok rest := by
  cases fraction with
  | none =>
      have none := skipFraction_pass (noPoint_power power ended)
      exact none.trans (skipExponent_power ended power)
  | some digits =>
      have skipped := skipDigits_digits digits (noDigit_power power ended)
      rw [fractionBytes, List.cons_append, List.cons_append, skipFraction, if_pos rfl,
        List.append_assoc, skipped]
      exact skipExponent_power ended power

end

theorem skipUnsigned_numeral {whole : Digits} (trimmed : whole.Trimmed)
    (fraction : Option Digits) (power : Option Power) {rest : Bytes} (ended : Ended rest) :
    skipUnsigned (whole.bytes ++ (fractionBytes fraction ++ powerBytes power ++ rest)) =
      .ok rest := by
  obtain ⟨d, tail, made, digit, all⟩ := digits_cons whole
  have last := noDigit_fraction fraction power ended
  have skipped := skipFraction_fraction ended fraction power
  rw [made, List.cons_append, skipUnsigned]
  split
  · rename_i zero
    have none : tail = [] := trimmed_zero trimmed (zero ▸ made)
    rw [none, List.nil_append, noDigit_head last]
    exact skipped
  · simp only [dropWhile_digits all last]
    exact skipped

/-! Where a number starts. -/

theorem numeral_cons (numeral : Numeral) :
    ∃ b tail, numeral.bytes = b :: tail ∧ startsNumber b = true := by
  obtain ⟨d, tail, made, digit, -⟩ := digits_cons numeral.whole
  obtain ⟨negative, whole, trimmed, fraction, power⟩ := numeral
  cases negative with
  | true => exact ⟨_, _, rfl, rfl⟩
  | false =>
      refine ⟨d, tail ++ (fractionBytes fraction ++ powerBytes power), ?_, ?_⟩
      · rw [Numeral.bytes, made]
        rfl
      · rw [startsNumber, digit, Bool.or_true]

theorem other_of_startsNumber {b : UInt8} (start : startsNumber b = true) :
    isBlankByte b = false ∧ literalTail? b = none ∧
      b ≠ '"'.toUInt8 ∧ b ≠ '['.toUInt8 ∧ b ≠ '\x7b'.toUInt8 := by
  have all : ∀ n : Fin 256, startsNumber (.ofNat n) = true →
      isBlankByte (.ofNat n) = false ∧ literalTail? (.ofNat n) = none ∧
        UInt8.ofNat n ≠ '"'.toUInt8 ∧ UInt8.ofNat n ≠ '['.toUInt8 ∧
        UInt8.ofNat n ≠ '\x7b'.toUInt8 := by
    decide +kernel
  have some := all ⟨b.toNat, b.toNat_lt⟩
  simp only [UInt8.ofNat_toNat] at some
  exact some start

theorem skipScalar_numeral (numeral : Numeral) {rest : Bytes} (ended : Ended rest) :
    skipScalar (numeral.bytes ++ rest) = .ok rest := by
  obtain ⟨negative, whole, trimmed, fraction, power⟩ := numeral
  obtain ⟨d, tail, made, digit, -⟩ := digits_cons whole
  have skipped := skipUnsigned_numeral trimmed fraction power ended
  have literal : literalTail? d = none :=
    (other_of_startsNumber (by rw [startsNumber, digit, Bool.or_true])).2.1
  have minus := (sign_of_digit digit).1
  cases negative with
  | true =>
      have literal : literalTail? '-'.toUInt8 = none := rfl
      simpa [Numeral.bytes, skipScalar, literal] using skipped
  | false =>
      rw [made] at skipped
      simpa [Numeral.bytes, skipScalar, made, literal, minus, digit] using skipped

/-! Plain decimals. -/

/-- What is taken up of some digits, and why no more. -/
theorem absorb_spec (start : Nat) (digits : Bytes) :
    ∃ taken, digits = taken ++ (absorb start digits).2 ∧
      (absorb start digits).1 = digitsFrom start taken ∧
      ∀ b rest, (absorb start digits).2 = b :: rest →
        UInt64.size ≤ (absorb start digits).1 * 10 + (b.toNat - 0x30) := by
  induction digits generalizing start with
  | nil => exact ⟨[], rfl, rfl, fun b rest more => by cases more⟩
  | cons b rest ih =>
      by_cases fits : start * 10 + (b.toNat - 0x30) < UInt64.size
      · obtain ⟨taken, made, value, full⟩ := ih (start * 10 + (b.toNat - 0x30))
        simp only [absorb, fits, ↓reduceIte]
        exact ⟨b :: taken, congrArg (b :: ·) made, value, full⟩
      · simp only [absorb, fits, ↓reduceIte]
        refine ⟨[], rfl, rfl, ?_⟩
        rintro c later same
        cases same
        exact Nat.not_lt.mp fits

theorem absorb_small {start : Nat} {digits : Bytes} (small : digitsFrom start digits < UInt64.size) :
    absorb start digits = (digitsFrom start digits, []) := by
  induction digits generalizing start with
  | nil => rfl
  | cons b rest ih =>
      have next : start * 10 + (b.toNat - 0x30) < UInt64.size :=
        Nat.lt_of_le_of_lt (le_digitsFrom _ rest) small
      rw [absorb, if_pos next]
      exact ih small

theorem natural_of_number {numeral : Numeral} {n : Nat}
    (denoted : numeral.number.natural? = some n) : Natural n numeral.bytes := by
  obtain ⟨negative, whole, trimmed, fraction, power⟩ := numeral
  cases power with
  | some power => cases denoted
  | none =>
      cases fraction with
      | some digits => cases denoted
      | none =>
          cases negative with
          | true => simp [Numeral.number, Number.withFraction, Number.withPower, Number.natural?] at denoted
          | false =>
              obtain ⟨taken, made, value, -⟩ := absorb_spec 0 whole.bytes
              simp only [Numeral.number, Number.withFraction, Number.withPower, Number.natural?,
                Bool.not_false, Bool.and_true, Option.ite_none_right_eq_some, List.isEmpty_iff,
                Option.some.injEq] at denoted
              obtain ⟨none, rfl⟩ := denoted
              rw [none, List.append_nil] at made
              have spelled := Natural.digits whole trimmed
              rw [value, ← made]
              simpa [Numeral.bytes, fractionBytes, powerBytes] using spelled

theorem readNumber_natural {n : Nat} {bytes rest : Bytes} (natural : Natural n bytes)
    (small : n < UInt64.size) (ended : Ended rest) :
    readNumber (bytes ++ rest) = .ok (⟨false, n, 0, true⟩, rest) := by
  obtain ⟨digits, trimmed⟩ := natural
  have spelled : (Numeral.mk false digits trimmed none none).bytes = digits.bytes := by
    simp [Numeral.bytes, fractionBytes, powerBytes]
  have number : (Numeral.mk false digits trimmed none none).number =
      ⟨false, digitsFrom 0 digits.bytes, 0, true⟩ := by
    simp [Numeral.number, absorb_small small, Number.withFraction, Number.withPower]
  have read := readNumber_numeral (Numeral.mk false digits trimmed none none) ended
  rw [spelled, number] at read
  exact read

theorem natural_cons {n : Nat} {bytes : Bytes} (natural : Natural n bytes) :
    ∃ b tail, bytes = b :: tail ∧ startsNumber b = true := by
  obtain ⟨digits, -⟩ := natural
  obtain ⟨d, tail, made, digit, -⟩ := digits_cons digits
  exact ⟨d, tail, made, by rw [startsNumber, digit, Bool.or_true]⟩

section
variable {limit : Nat} {before rest : Bytes} (blank : Blanks before) (ended : Ended rest)
include blank ended

theorem readNatural_natural {n : Nat} {bytes : Bytes} (natural : Natural n bytes)
    (fits : n < limit) (word : limit ≤ UInt64.size) :
    readNatural limit (before ++ (bytes ++ rest)) = .ok (⟨n, fits⟩, rest) := by
  have read := readNumber_natural natural (Nat.lt_of_lt_of_le fits word) ended
  obtain ⟨b, tail, rfl, start⟩ := natural_cons natural
  rw [List.cons_append] at read ⊢
  rw [readNatural, skipBlanks_solid blank (other_of_startsNumber start).1]
  simp only [start, ↓reduceIte, read, Number.natural?, Bool.not_false, Bool.and_self, fits, ↓reduceDIte]

/-- A number in range that is no natural one below the limit is found to have another type. -/
theorem readNatural_numeral {numeral : Numeral} (finite : numeral.Finite)
    (unfit : ∀ n < limit, ¬ Natural n numeral.bytes) :
    readNatural limit (before ++ (numeral.bytes ++ rest)) = .error .mistyped := by
  have read := readNumber_finite finite ended
  have denoted {n : Nat} (some : numeral.number.natural? = some n) : ¬ n < limit :=
    fun fits => unfit n fits (natural_of_number some)
  obtain ⟨b, tail, made, start⟩ := numeral_cons numeral
  rw [made, List.cons_append] at read ⊢
  rw [readNatural, skipBlanks_solid blank (other_of_startsNumber start).1]
  simp only [start, ↓reduceIte, read]
  cases found : numeral.number.natural? with
  | none => rfl
  | some n => simp only [denoted found, ↓reduceDIte]

end

end TopicLog.Json
