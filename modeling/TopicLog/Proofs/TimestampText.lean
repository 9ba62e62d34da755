import Mathlib.Algebra.Group.Nat.Defs
import TopicLog.Timestamp.Reading

/-!
The text of a timestamp is read back as that timestamp, for every year that a timestamp without
offset may have. The reading with an offset comes first and fails for want of one; the spaced reading
then finds every number in as many digits as it is written in.
-/
namespace TopicLog.Decimal

/-! Numbers in a fixed number of digits. -/

theorem isDigit_eq (c : Char) : isDigit c = c.isDigit := by
  simp only [isDigit, digit?, Char.isDigit, ge_iff_le]
  split
  · rename_i digit
    exact (decide_eq_true digit).symm.trans (Bool.decide_and ..)
  · rename_i other
    exact (decide_eq_false other).symm.trans (Bool.decide_and ..)

theorem digit_bounds {c : Char} (digit : isDigit c) : 0x30 ≤ c.toNat ∧ c.toNat ≤ 0x39 := by
  rw [isDigit_eq, Char.isDigit, Bool.and_eq_true, decide_eq_true_iff, decide_eq_true_iff] at digit
  exact digit

theorem digit_value {c : Char} (digit : isDigit c) : digit? c = some (c.toNat - '0'.toNat) := by
  rw [isDigit, digit?] at digit
  rw [digit?]
  split
  · rfl
  · rename_i other
    rw [if_neg other] at digit
    cases digit

theorem digits_padded (width number : Nat) {c : Char} (member : c ∈ padded width number) :
    isDigit c := by
  rcases List.mem_append.mp member with filled | digit
  · rw [(List.mem_replicate.mp filled).2]
    rfl
  · rw [isDigit_eq]
    exact Nat.isDigit_of_mem_toDigits (by decide) (by decide) digit

theorem length_padded {width number : Nat} (positive : 0 < width) (fits : number < 10 ^ width) :
    (padded width number).length = width := by
  have short := (Nat.length_toDigits_le_iff (b := 10) (by decide) positive).mpr fits
  rw [padded, List.length_append, List.length_replicate]
  omega

theorem value_append (first second : List Char) :
    value (first ++ second) = second.foldl
      (fun number c => number * 10 + (digit? c).getD 0) (value first) :=
  List.foldl_append

theorem value_append_zeros (digits : List Char) (count : Nat) :
    value (digits ++ List.replicate count '0') = value digits * 10 ^ count := by
  induction count with
  | zero => simp
  | succ count ih =>
      have zero : (digit? '0').getD 0 = 0 := rfl
      rw [List.replicate_succ', ← List.append_assoc, value_append, ih, List.foldl_cons,
        List.foldl_nil, zero, Nat.add_zero, Nat.pow_succ, Nat.mul_assoc]

theorem foldl_digits {digits : List Char} (all : ∀ c ∈ digits, isDigit c) (start : Nat) :
    digits.foldl (fun number c => number * 10 + (digit? c).getD 0) start =
      Nat.ofDigitChars 10 digits start := by
  induction digits generalizing start with
  | nil => rfl
  | cons c rest ih =>
      rw [List.foldl_cons, Nat.ofDigitChars_cons, digit_value (all c List.mem_cons_self),
        Option.getD_some, Nat.mul_comm, ih fun d member => all d (List.mem_cons_of_mem c member)]

theorem value_padded (width number : Nat) : value (padded width number) = number := by
  have zeros : ∀ count, value (List.replicate count '0') = 0 := fun count =>
    (value_append_zeros [] count).trans (Nat.zero_mul _)
  rw [padded, value_append, zeros, foldl_digits, Nat.ofDigitChars_ten_toDigits]
  intro c member
  rw [isDigit_eq]
  exact Nat.isDigit_of_mem_toDigits (by decide) (by decide) member

theorem span_filled {width : Nat} {digits : List Char} (all : ∀ c ∈ digits, isDigit c)
    (filled : digits.length = width) (rest : List Char) :
    span width (digits ++ rest) = (digits, rest) := by
  have taken : ((digits ++ rest).take width).takeWhile isDigit = digits := by
    have whole : (digits ++ []).takeWhile isDigit = digits ++ [].takeWhile isDigit :=
      List.takeWhile_append_of_pos all
    rw [← filled, List.take_left]
    simpa using whole
  rw [span, taken, List.drop_left]

theorem padded_ne_nil (width number : Nat) : padded width number ≠ [] := by
  intro none
  exact Nat.toDigits_ne_nil (List.append_eq_nil_iff.mp none).2

end TopicLog.Decimal

namespace TopicLog.Timestamp

/-! Reading what was written, part by part. -/

theorem isBlank_of_digit {c : Char} (digit : Decimal.isDigit c) : isBlank c = false := by
  have bounds := Decimal.digit_bounds digit
  simp only [isBlank, blankRanges, List.any_cons, List.any_nil, Bool.or_false, Bool.or_eq_false_iff,
    Bool.and_eq_false_iff, decide_eq_false_iff_not]
  omega

theorem expect_self (c : Char) (rest : List Char) : expect c (c :: rest) = some rest := by
  rw [expect, if_pos rfl]

theorem dropBlanks_digits {digits : List Char} (all : ∀ c ∈ digits, Decimal.isDigit c)
    (nonempty : digits ≠ []) (rest : List Char) :
    (digits ++ rest).dropWhile isBlank = digits ++ rest := by
  cases digits with
  | nil => exact absurd rfl nonempty
  | cons c later =>
      have solid := isBlank_of_digit (all c List.mem_cons_self)
      rw [List.cons_append, List.dropWhile_cons_of_neg (by simp [solid])]

variable {width number : Nat}

theorem scanExactly_padded (positive : 0 < width) (fits : number < 10 ^ width)
    (rest : List Char) :
    scanExactly width (Decimal.padded width number ++ rest) = some (number, rest) := by
  have length := Decimal.length_padded positive fits
  have read := Decimal.span_filled (fun _ => Decimal.digits_padded width number) length rest
  simp only [scanExactly, read, length, ↓reduceIte, Decimal.value_padded]

theorem scanLax_padded (positive : 0 < width) (fits : number < 10 ^ width) (rest : List Char) :
    scanLax width (Decimal.padded width number ++ rest) = some (number, rest) := by
  have all := fun c => Decimal.digits_padded width number (c := c)
  have nonempty := Decimal.padded_ne_nil width number
  have read := Decimal.span_filled all (Decimal.length_padded positive fits) rest
  simp only [scanLax, dropBlanks_digits all nonempty, read, List.isEmpty_iff, nonempty, ↓reduceIte,
    Decimal.value_padded]

theorem scanFraction_digits {digits rest : List Char} (all : ∀ c ∈ digits, Decimal.isDigit c)
    (nonempty : digits ≠ []) (short : digits.length ≤ 9)
    (ends : rest.takeWhile Decimal.isDigit = []) :
    scanFraction ('.' :: (digits ++ rest)) =
      some (Decimal.value digits * 10 ^ (9 - digits.length), rest) := by
  have whole : (digits ++ rest).takeWhile Decimal.isDigit = digits := by
    rw [List.takeWhile_append_of_pos all, ends, List.append_nil]
  have filled : (digits ++ List.replicate 9 '0').take 9 =
      digits ++ List.replicate (9 - digits.length) '0' := by
    rw [List.take_append, List.take_of_length_le short, List.take_replicate,
      Nat.min_eq_left (by omega)]
  simp only [scanFraction, whole, List.isEmpty_iff, nonempty, ↓reduceIte, filled,
    Decimal.value_append_zeros, List.drop_left]

theorem scanFraction_padded (positive : 0 < width) (short : width ≤ 9)
    (fits : number < 10 ^ width) :
    scanFraction ('.' :: Decimal.padded width number) = some (number * 10 ^ (9 - width), []) := by
  have length := Decimal.length_padded positive fits
  have read := scanFraction_digits (fun _ => Decimal.digits_padded width number)
    (Decimal.padded_ne_nil width number) (by omega) (List.takeWhile_nil (p := Decimal.isDigit))
  rwa [List.append_nil, length, Decimal.value_padded] at read

theorem scanFraction_fractionText {nanosecond : Nat} (real : nanosecond < 1000000000) :
    scanFraction (fractionText nanosecond) = some (nanosecond, []) := by
  rw [fractionText]
  split
  · rename_i zero
    rw [zero]
    rfl
  · split
    · rw [scanFraction_padded (by decide) (by decide) (by omega)]
      exact congrArg (fun n => some (n, [])) (by omega)
    · split
      · rw [scanFraction_padded (by decide) (by decide) (by omega)]
        exact congrArg (fun n => some (n, [])) (by omega)
      · rw [scanFraction_padded (by decide) (by decide) (by omega)]
        exact congrArg (fun n => some (n, [])) (by omega)

/-! Years. -/

theorem padded_cons (width number : Nat) :
    ∃ c rest, Decimal.padded width number = c :: rest ∧ Decimal.isDigit c := by
  cases digits : Decimal.padded width number with
  | nil => exact absurd digits (Decimal.padded_ne_nil width number)
  | cons c rest =>
      exact ⟨c, rest, rfl, Decimal.digits_padded width number (digits ▸ List.mem_cons_self)⟩

theorem scanYear_signed (negative : Bool) (number : Nat) (rest : List Char) :
    scanYear ((if negative then '-' else '+') :: Decimal.padded 4 number ++ '-' :: rest) =
      some (if negative then -(number : Int) else number, '-' :: rest) := by
  have all := fun c => Decimal.digits_padded 4 number (c := c)
  have nonempty := Decimal.padded_ne_nil 4 number
  have digits : (Decimal.padded 4 number ++ '-' :: rest).takeWhile Decimal.isDigit =
      Decimal.padded 4 number := by
    rw [List.takeWhile_append_of_pos all, List.takeWhile_cons_of_neg (by decide), List.append_nil]
  have solid : isBlank (if negative then '-' else '+') = false := by cases negative <;> decide
  rw [scanYear, List.cons_append, List.dropWhile_cons_of_neg (by simp [solid])]
  cases negative with
  | true => simp [digits, nonempty, Decimal.value_padded]
  | false => simp [digits, nonempty, Decimal.value_padded]

theorem scanYear_yearText (year : Int) (rest : List Char) :
    scanYear (yearText year ++ '-' :: rest) = some (year, '-' :: rest) := by
  by_cases plain : 0 ≤ year ∧ year ≤ 9999
  · have fits : year.toNat < 10 ^ 4 := by omega
    have read := scanLax_padded (by decide) fits ('-' :: rest)
    obtain ⟨c, later, digits, digit⟩ := padded_cons 4 year.toNat
    have unsigned : ¬ (c = '+' ∨ c = '-') := by
      rintro (rfl | rfl) <;> cases digit
    rw [yearText, if_pos plain]
    rw [digits, List.cons_append] at read ⊢
    have solid := isBlank_of_digit digit
    rw [scanYear, List.dropWhile_cons_of_neg (by simp [solid])]
    simp only [unsigned, ↓reduceIte, read, Option.map_some, Int.toNat_of_nonneg plain.1]
  · have read := scanYear_signed (decide (year < 0)) year.natAbs rest
    rw [yearText, if_neg plain]
    simp only [decide_eq_true_eq] at read
    rw [read]
    exact congrArg (fun n => some (n, '-' :: rest)) (by split <;> omega)

/-! The whole text. -/

variable (moment : Timestamp)

theorem parts_fit : moment.date.month < 10 ^ 2 ∧ moment.date.day < 10 ^ 2 ∧ moment.hour < 10 ^ 2 ∧
    moment.minute < 10 ^ 2 ∧ moment.second < 10 ^ 2 := by
  have ofDate := moment.date.real
  have ofDay := moment.real
  have month := daysIn_bounds moment.date.year moment.date.month
  omega

theorem scanClock_timeText : scanClock moment.timeText =
    some ((moment.hour, moment.minute, moment.second, moment.nanosecond), []) := by
  obtain ⟨-, -, hour, minute, second⟩ := moment.parts_fit
  have two : 0 < 2 := by decide
  simp [scanClock, timeText, List.append_assoc, scanExactly_padded two hour,
    scanExactly_padded two minute, scanExactly_padded two second, expect_self,
    scanFraction_fractionText moment.real.2.2.2]

/-- No instant begins with a signed year, and none ends without an offset. -/
theorem ofInstant_text (separator : Char) :
    ofInstant? (dateText moment.date ++ separator :: timeText moment) = none := by
  obtain ⟨month, day, -⟩ := moment.parts_fit
  have two : 0 < 2 := by decide
  by_cases plain : 0 ≤ moment.date.year ∧ moment.date.year ≤ 9999
  · have fits : moment.date.year.toNat < 10 ^ 4 := by omega
    simp [ofInstant?, dateText, yearText, plain, List.append_assoc,
      scanExactly_padded (show 0 < 4 by decide) fits, scanExactly_padded two month,
      scanExactly_padded two day, expect_self, scanClock_timeText, scanOffset]
  · have sign : ∀ rest : List Char,
        scanExactly 4 ((if moment.date.year < 0 then '-' else '+') :: rest) = none := by
      intro rest
      split <;> simp [scanExactly, Decimal.span, Decimal.isDigit, Decimal.digit?]
    simp only [ofInstant?, dateText, yearText, plain, ↓reduceIte, List.cons_append, sign]
    rfl

theorem ofParts_parts :
    ofParts? moment.date.year moment.date.month moment.date.day moment.hour moment.minute
      moment.second moment.nanosecond = some moment := by
  obtain ⟨date, hour, minute, second, nanosecond, real⟩ := moment
  obtain ⟨year, month, day, real'⟩ := date
  simp [ofParts?, Date.ofParts?, real, real']

variable {moment}

theorem ofLocal_text {separate : List Char → Option (List Char)} {separator : Char}
    (separated : separate (separator :: timeText moment) = some (timeText moment))
    (era : inEra moment.date.year) :
    ofLocal? separate (dateText moment.date ++ separator :: timeText moment) = some moment := by
  obtain ⟨month, day, hour, minute, second⟩ := moment.parts_fit
  have two : 0 < 2 := by decide
  simp [ofLocal?, dateText, List.append_assoc, scanYear_yearText, expect_self,
    scanLax_padded two month, scanLax_padded two day, separated, era]
  simp [timeText, List.append_assoc, scanLax_padded two hour, scanLax_padded two minute,
    scanLax_padded two second, expect_self, scanFraction_fractionText moment.real.2.2.2,
    ofParts_parts]

theorem ofSpaced_text (era : inEra moment.date.year) :
    ofSpaced? (dateText moment.date ++ ' ' :: timeText moment) = some moment := by
  have clock : (' ' :: timeText moment).dropWhile isBlank = timeText moment := by
    have all := fun c => Decimal.digits_padded 2 moment.hour (c := c)
    rw [List.dropWhile_cons_of_pos (by decide), timeText, List.append_assoc, List.append_assoc]
    exact dropBlanks_digits all (Decimal.padded_ne_nil 2 _) _
  exact ofLocal_text (congrArg some clock) era

theorem ofJoined_text (era : inEra moment.date.year) :
    ofJoined? (dateText moment.date ++ 'T' :: timeText moment) = some moment :=
  ofLocal_text (expect_self 'T' _) era

/-- The spaced form has no place for a letter between date and time. -/
theorem ofSpaced_joined_text :
    ofSpaced? (dateText moment.date ++ 'T' :: timeText moment) = none := by
  obtain ⟨month, day, -⟩ := moment.parts_fit
  have two : 0 < 2 := by decide
  have letter : ∀ rest, scanLax 2 (('T' :: rest).dropWhile isBlank) = none := by
    intro rest
    have solid : isBlank 'T' = false := by decide
    have other : Decimal.isDigit 'T' = false := by decide
    simp [solid, scanLax, Decimal.span, other]
  simp [ofSpaced?, ofLocal?, dateText, List.append_assoc, scanYear_yearText, expect_self,
    scanLax_padded two month, scanLax_padded two day, letter]

/-- A timestamp is read back with a space and with the letter T between date and time. -/
theorem ofText_textWith {separator : Char} (between : separator = ' ' ∨ separator = 'T')
    (era : inEra moment.date.year) : ofText? (moment.textWith separator) = some moment := by
  rw [ofText?, textWith, String.toList_ofList, ofInstant_text]
  rcases between with rfl | rfl
  · rw [ofSpaced_text era]
    rfl
  · rw [ofSpaced_joined_text, ofJoined_text era]
    rfl

theorem ofText_toText (era : inEra moment.date.year) : ofText? moment.toText = some moment :=
  ofText_textWith (.inl rfl) era

end TopicLog.Timestamp
