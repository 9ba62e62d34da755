import Mathlib.Algebra.Order.Field.Power
import Mathlib.Tactic.Linarith
import Mathlib.Tactic.NormNum
import Mathlib.Tactic.Ring
import TopicLog.Proofs.JsonNumbers

/-!
How large a JSON number may be. The range is checked in double arithmetic, on a significand that is cut
to 64 bits and a power of ten: the cut and the two roundings together are less than three steps at the
top of the doubles. So a number is certain to be in range up to the third double from the top, but not
up to the last.
-/
namespace TopicLog.Binary64

/-! Rounding. -/

theorem divideEven_le (num : Nat) {den : Nat} (positive : 0 < den) :
    divideEven num den * den * 2 ≤ num * 2 + den := by
  have parts := Nat.div_add_mod num den
  have left := Nat.mod_lt num positive
  have even : num / den % 2 ≤ 1 := by omega
  unfold divideEven
  dsimp only
  rw [Nat.mul_comm den] at parts
  split
  · omega
  · split
    · rw [Nat.add_mul]
      omega
    · have bound : (num / den + num / den % 2) * den ≤ num / den * den + den := by
        rw [Nat.add_mul]
        exact Nat.add_le_add_left (by simpa using Nat.mul_le_mul_right den even) _
      omega

theorem divideEven_one (n : Nat) : divideEven n 1 = n := by
  simp [divideEven, Nat.mod_one]

theorem roundNat_le (n : Nat) : roundNat n * 2 ^ 53 ≤ n * (2 ^ 53 + 1) := by
  have rounded : roundNat n = divideEven n (2 ^ (n.log2 - 52)) * 2 ^ (n.log2 - 52) := by
    rw [roundNat, Nat.one_shiftLeft, Nat.shiftLeft_eq]
  rw [rounded]
  by_cases small : n.log2 ≤ 52
  · rw [Nat.sub_eq_zero_of_le small, Nat.pow_zero, divideEven_one]
    omega
  · have positive : n ≠ 0 := by
      rintro rfl
      exact small (by decide)
    -- The number has 53 bits before those that are dropped.
    have reached : 2 ^ (n.log2 - 52) * 2 ^ 52 ≤ n := by
      rw [← Nat.pow_add, Nat.sub_add_cancel (by omega)]
      exact Nat.log2_self_le positive
    have bound := divideEven_le n (Nat.two_pow_pos (n.log2 - 52))
    calc divideEven n (2 ^ (n.log2 - 52)) * 2 ^ (n.log2 - 52) * 2 ^ 53
        = divideEven n (2 ^ (n.log2 - 52)) * 2 ^ (n.log2 - 52) * 2 * 2 ^ 52 := by
          rw [Nat.mul_assoc _ 2, ← Nat.pow_succ']
      _ ≤ (n * 2 + 2 ^ (n.log2 - 52)) * 2 ^ 52 := Nat.mul_le_mul_right _ bound
      _ = n * 2 ^ 53 + 2 ^ (n.log2 - 52) * 2 ^ 52 := by
          rw [Nat.add_mul, Nat.mul_assoc n, ← Nat.pow_succ']
      _ ≤ n * (2 ^ 53 + 1) := Nat.add_le_add_left reached _

end TopicLog.Binary64

namespace TopicLog.Json

/-! Magnitudes. -/

namespace Numeral

def digits (numeral : Numeral) : Bytes :=
  numeral.whole.bytes ++ numeral.fraction.elim [] Digits.bytes

/-- The power of ten that the digits, taken without their point, are multiplied with. -/
def scale (numeral : Numeral) : Int :=
  numeral.power.elim 0 Power.value - (numeral.fraction.elim [] Digits.bytes).length

def magnitude (numeral : Numeral) : ℚ := digitsFrom 0 numeral.digits * 10 ^ numeral.scale

end Numeral

def greatestDouble : Nat := (2 ^ 53 - 1) * 2 ^ 971

/-- The greatest double but two. -/
def thirdDouble : Nat := (2 ^ 53 - 3) * 2 ^ 971

theorem magnitude_le {numeral : Numeral} {power limit : Nat} (scale : numeral.scale = power)
    (below : digitsFrom 0 numeral.digits * 10 ^ power ≤ limit) : numeral.magnitude ≤ limit := by
  rw [Numeral.magnitude, scale, zpow_natCast]
  exact_mod_cast below

theorem digitsFrom_append (number : Nat) (first second : Bytes) :
    digitsFrom number (first ++ second) = digitsFrom (digitsFrom number first) second :=
  List.foldl_append

theorem mul_pow_le_digitsFrom (number : Nat) (digits : Bytes) :
    number * 10 ^ digits.length ≤ digitsFrom number digits := by
  induction digits generalizing number with
  | nil => simp [digitsFrom]
  | cons b rest ih =>
      calc number * 10 ^ (rest.length + 1) = number * 10 * 10 ^ rest.length := by
            rw [Nat.pow_succ', Nat.mul_assoc]
        _ ≤ (number * 10 + (b.toNat - 0x30)) * 10 ^ rest.length :=
            Nat.mul_le_mul_right _ (Nat.le_add_right _ _)
        _ ≤ digitsFrom number (b :: rest) := ih _

theorem digitsFrom_lt (number : Nat) {digits : Bytes} (all : ∀ b ∈ digits, isDigitByte b = true) :
    digitsFrom number digits < (number + 1) * 10 ^ digits.length := by
  induction digits generalizing number with
  | nil => simp [digitsFrom]
  | cons b rest ih =>
      have digit := all b List.mem_cons_self
      simp only [isDigitByte, Bool.and_eq_true, decide_eq_true_eq] at digit
      have small : number * 10 + (b.toNat - 0x30) + 1 ≤ (number + 1) * 10 := by omega
      calc digitsFrom number (b :: rest) <
            (number * 10 + (b.toNat - 0x30) + 1) * 10 ^ rest.length :=
            ih _ fun c member => all c (List.mem_cons_of_mem b member)
        _ ≤ (number + 1) * 10 * 10 ^ rest.length := Nat.mul_le_mul_right _ small
        _ = (number + 1) * 10 ^ (rest.length + 1) := by rw [Nat.pow_succ', Nat.mul_assoc]

/-! What is cut off. -/

theorem absorb_le (start : Nat) (digits : Bytes) :
    (absorb start digits).1 * 10 ^ (absorb start digits).2.length ≤ digitsFrom start digits := by
  obtain ⟨taken, made, value, -⟩ := absorb_spec start digits
  have bound := mul_pow_le_digitsFrom (absorb start digits).1 (absorb start digits).2
  rwa [value, ← digitsFrom_append, ← made, ← value] at bound

theorem absorb_large {start : Nat} {digits : Bytes} (all : ∀ b ∈ digits, isDigitByte b = true)
    (cut : (absorb start digits).2 ≠ []) : 2 ^ 60 ≤ (absorb start digits).1 := by
  obtain ⟨taken, made, -, full⟩ := absorb_spec start digits
  obtain ⟨b, rest, dropped⟩ := List.exists_cons_of_ne_nil cut
  have digit := all b (by rw [made, dropped]; simp)
  have large := full b rest dropped
  have size : UInt64.size = 2 ^ 64 := rfl
  simp only [isDigitByte, Bool.and_eq_true, decide_eq_true_eq] at digit
  omega

/-- The digits after the point, after those before it were cut, add no more than the last of these
counts. -/
theorem absorb_cut {whole fraction : Bytes} (wholeDigits : ∀ b ∈ whole, isDigitByte b = true)
    (fractionDigits : ∀ b ∈ fraction, isDigitByte b = true) {significand further : Nat}
    {dropped lost : Bytes} (first : absorb 0 whole = (significand, dropped))
    (second : absorb significand fraction = (further, lost)) :
    further * 10 ^ (lost.length + dropped.length) * 2 ^ 60 ≤
      digitsFrom 0 (whole ++ fraction) * (2 ^ 60 + 1) := by
  have later := absorb_le significand fraction
  have head := absorb_le 0 whole
  rw [first] at head
  rw [second] at later
  simp only at head later
  have all := mul_pow_le_digitsFrom (digitsFrom 0 whole) fraction
  rw [← digitsFrom_append] at all
  cases dropped with
  | nil =>
      obtain ⟨taken, made, value, -⟩ := absorb_spec 0 whole
      rw [first, List.append_nil] at made
      rw [first, ← made] at value
      simp only at value
      rw [value, ← digitsFrom_append] at later
      have same : further * 10 ^ (lost.length + ([] : Bytes).length) ≤
          digitsFrom 0 (whole ++ fraction) := later
      omega
  | cons b rest =>
      have large : 2 ^ 60 ≤ significand := by
        have bound := absorb_large wholeDigits (by rw [first]; exact List.cons_ne_nil b rest)
        rwa [first] at bound
      have below := Nat.le_of_lt (Nat.lt_of_le_of_lt later (digitsFrom_lt significand fractionDigits))
      -- One unit of the significand, in units of the last digit after the point.
      obtain ⟨unit, made⟩ : ∃ unit, unit = 10 ^ fraction.length * 10 ^ (b :: rest).length := ⟨_, rfl⟩
      have total : further * 10 ^ (lost.length + (b :: rest).length) ≤ (significand + 1) * unit := by
        calc further * 10 ^ (lost.length + (b :: rest).length)
            = further * 10 ^ lost.length * 10 ^ (b :: rest).length := by
              rw [Nat.pow_add, Nat.mul_assoc]
          _ ≤ (significand + 1) * 10 ^ fraction.length * 10 ^ (b :: rest).length :=
              Nat.mul_le_mul_right _ below
          _ = (significand + 1) * unit := by rw [made, Nat.mul_assoc]
      have spelled : significand * unit ≤ digitsFrom 0 (whole ++ fraction) := by
        calc significand * unit
            = significand * 10 ^ (b :: rest).length * 10 ^ fraction.length := by
              rw [made, Nat.mul_comm (10 ^ fraction.length), Nat.mul_assoc]
          _ ≤ digitsFrom 0 whole * 10 ^ fraction.length := Nat.mul_le_mul_right _ head
          _ ≤ digitsFrom 0 (whole ++ fraction) := all
      have share : 2 ^ 60 * unit ≤ significand * unit := Nat.mul_le_mul_right unit large
      rw [Nat.add_mul, Nat.one_mul] at total
      omega

theorem significand_cut (numeral : Numeral) :
    ∃ lost : Nat, numeral.number.exponent = lost + numeral.scale ∧
      numeral.number.significand * 10 ^ lost * 2 ^ 60 ≤
        digitsFrom 0 numeral.digits * (2 ^ 60 + 1) := by
  obtain ⟨negative, whole, trimmed, fraction, power⟩ := numeral
  have raised (number : Number) :
      (number.withPower power).significand = number.significand ∧
        (number.withPower power).exponent = number.exponent + power.elim 0 Power.value := by
    cases power with
    | none => exact ⟨rfl, (Int.add_zero _).symm⟩
    | some power => exact ⟨rfl, rfl⟩
  cases first : absorb 0 whole.bytes with
  | mk significand dropped =>
      cases fraction with
      | none =>
          have bound := absorb_cut whole.digit (fun b member => by cases member) first
            (rfl : absorb significand [] = (significand, []))
          refine ⟨dropped.length, ?_, ?_⟩
          · simp only [Numeral.number, first, Number.withFraction, raised, Numeral.scale,
              Option.elim, List.length_nil, Int.natCast_zero, Int.sub_zero]
          · simp only [List.length_nil, Nat.zero_add] at bound
            simp only [Numeral.number, first, Number.withFraction, raised, Numeral.digits, Option.elim]
            exact bound
      | some digits =>
          cases second : absorb significand digits.bytes with
          | mk further lost =>
              have bound := absorb_cut whole.digit digits.digit first second
              obtain ⟨taken, made, -⟩ := absorb_spec significand digits.bytes
              rw [second] at made
              have shorter : lost.length ≤ digits.bytes.length := by
                rw [made, List.length_append]
                exact Nat.le_add_left _ _
              refine ⟨lost.length + dropped.length, ?_, ?_⟩
              · simp only [Numeral.number, first, second, Number.withFraction, raised, Numeral.scale,
                  Option.elim]
                omega
              · simp only [Numeral.number, first, second, Number.withFraction, raised, Numeral.digits,
                  Option.elim]
                exact bound

theorem read_magnitude_le (numeral : Numeral) :
    (numeral.number.significand : ℚ) * 10 ^ numeral.number.exponent * 2 ^ 60 ≤
      numeral.magnitude * (2 ^ 60 + 1) := by
  obtain ⟨lost, exponent, bound⟩ := significand_cut numeral
  have cast : (numeral.number.significand : ℚ) * 10 ^ lost * 2 ^ 60 ≤
      digitsFrom 0 numeral.digits * (2 ^ 60 + 1) := by
    exact_mod_cast bound
  have positive : (0 : ℚ) ≤ 10 ^ numeral.scale := zpow_nonneg (by norm_num) _
  have scaled := mul_le_mul_of_nonneg_right cast positive
  rw [exponent, zpow_add₀ (by norm_num), zpow_natCast, Numeral.magnitude]
  linarith

/-! The range. -/

theorem thirdDouble_lt_power {power : Nat} (high : 309 ≤ power) :
    thirdDouble * (2 ^ 60 + 1) < 10 ^ power * 2 ^ 60 := by
  have least : thirdDouble * (2 ^ 60 + 1) < 10 ^ 309 * 2 ^ 60 := by decide +kernel
  have larger : ∀ lower ≤ power, 10 ^ lower ≤ 10 ^ power :=
    fun lower below => Nat.pow_le_pow_right (by decide) below
  exact Nat.lt_of_lt_of_le least (Nat.mul_le_mul_right _ (larger 309 high))

theorem thirdDouble_lt_overflow :
    thirdDouble * (2 ^ 60 + 1) * ((2 ^ 53 + 1) * (2 ^ 53 + 1)) <
      Binary64.overflow * (2 ^ 53 * 2 ^ 53 * 2 ^ 60) := by
  decide +kernel

/-- Neither the significand nor the power of ten is rounded up by so much that it matters. -/
theorem roundNat_mul_lt {significand power : Nat}
    (small : significand * power * 2 ^ 60 ≤ thirdDouble * (2 ^ 60 + 1)) :
    Binary64.roundNat significand * Binary64.roundNat power < Binary64.overflow := by
  have rounded := Nat.mul_le_mul (Binary64.roundNat_le significand) (Binary64.roundNat_le power)
  apply Nat.lt_of_mul_lt_mul_right (a := 2 ^ 53 * 2 ^ 53 * 2 ^ 60)
  calc Binary64.roundNat significand * Binary64.roundNat power * (2 ^ 53 * 2 ^ 53 * 2 ^ 60)
      = Binary64.roundNat significand * 2 ^ 53 * (Binary64.roundNat power * 2 ^ 53) * 2 ^ 60 := by ring
    _ ≤ significand * (2 ^ 53 + 1) * (power * (2 ^ 53 + 1)) * 2 ^ 60 :=
        Nat.mul_le_mul_right _ rounded
    _ = significand * power * 2 ^ 60 * ((2 ^ 53 + 1) * (2 ^ 53 + 1)) := by ring
    _ ≤ thirdDouble * (2 ^ 60 + 1) * ((2 ^ 53 + 1) * (2 ^ 53 + 1)) := Nat.mul_le_mul_right _ small
    _ < Binary64.overflow * (2 ^ 53 * 2 ^ 53 * 2 ^ 60) := thirdDouble_lt_overflow

theorem not_outOfRange {significand power : Nat}
    (small : significand * 10 ^ power * 2 ^ 60 ≤ thirdDouble * (2 ^ 60 + 1)) :
    outOfRange significand power = false := by
  by_cases zero : significand = 0
  · simp [outOfRange, zero]
  · have top : ¬ 308 < (power : Int) := by
      intro high
      have least : 10 ^ power ≤ significand * 10 ^ power :=
        Nat.le_mul_of_pos_left _ (Nat.pos_of_ne_zero zero)
      have reached := Nat.le_trans (Nat.mul_le_mul_right (2 ^ 60) least) small
      exact Nat.not_le.mpr (thirdDouble_lt_power (by omega)) reached
    have below : ¬ Binary64.overflow ≤
        Binary64.roundNat significand * Binary64.roundNat (10 ^ power) :=
      Nat.not_le.mpr (roundNat_mul_lt small)
    simp only [outOfRange, top, Int.toNat_natCast, Nat.pow_eq, below, decide_false, Bool.and_false,
      Bool.or_false]

theorem finite_of_magnitude {numeral : Numeral} (small : numeral.magnitude ≤ thirdDouble) :
    numeral.Finite := by
  have cut := read_magnitude_le numeral
  have bound : (numeral.number.significand : ℚ) * 10 ^ numeral.number.exponent * 2 ^ 60 ≤
      thirdDouble * (2 ^ 60 + 1) := by linarith
  rw [Numeral.Finite]
  cases raised : numeral.number.exponent with
  | ofNat power =>
      rw [raised, Int.ofNat_eq_natCast, zpow_natCast] at bound
      exact not_outOfRange (by exact_mod_cast bound)
  | negSucc power =>
      have low : ¬ 308 < Int.negSucc power := by omega
      have falling : ¬ 0 ≤ Int.negSucc power := by omega
      simp only [outOfRange, low, falling, decide_false, Bool.false_and, Bool.or_false, Bool.and_false]

end TopicLog.Json
