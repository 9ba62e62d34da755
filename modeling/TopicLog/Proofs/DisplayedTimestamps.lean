import Mathlib.Data.List.TakeWhile
import TopicLog.Proofs.DayNumbers
import TopicLog.Proofs.TimestampText

/-!
What a timestamp is displayed as, told by its parts and not by how they are produced, and what
becomes of it when it is read again. Every timestamp that any text is read as lies on the calendar
and in a range of years; all of them are displayed in one way, and that text, with a space or the
letter T in it, is read as the same timestamp.
-/
namespace TopicLog.Decimal

/-- Digits that stand for a number: as many as asked for, and more only where the number has more. -/
structure Digits (width number : Nat) (text : List Char) : Prop where
  digits : ∀ c ∈ text, isDigit c
  stands : value text = number
  filled : width ≤ text.length
  needed : width < text.length → 10 ^ (text.length - 1) ≤ number

structure FixedDigits (width number : Nat) (text : List Char) : Prop where
  digits : ∀ c ∈ text, isDigit c
  stands : value text = number
  length : text.length = width

theorem foldl_lt {digits : List Char} (all : ∀ c ∈ digits, isDigit c) (start : Nat) :
    digits.foldl (fun number c => number * 10 + (digit? c).getD 0) start <
      (start + 1) * 10 ^ digits.length := by
  induction digits generalizing start with
  | nil => simp
  | cons c rest ih =>
      have digit := all c List.mem_cons_self
      have bounds := digit_bounds digit
      have small : start * 10 + (c.toNat - 48) + 1 ≤ (start + 1) * 10 := by omega
      rw [List.foldl_cons, digit_value digit, Option.getD_some, List.length_cons, Nat.pow_succ']
      calc _ < (start * 10 + (c.toNat - 48) + 1) * 10 ^ rest.length :=
              ih (fun d member => all d (List.mem_cons_of_mem c member)) _
        _ ≤ (start + 1) * 10 * 10 ^ rest.length := Nat.mul_le_mul_right _ small
        _ = (start + 1) * (10 * 10 ^ rest.length) := Nat.mul_assoc ..

theorem value_lt {digits : List Char} (all : ∀ c ∈ digits, isDigit c) :
    value digits < 10 ^ digits.length := by
  have bound := foldl_lt all 0
  rwa [Nat.zero_add, Nat.one_mul] at bound

theorem foldl_injective {first second : List Char} (length : first.length = second.length)
    (firstDigits : ∀ c ∈ first, isDigit c) (secondDigits : ∀ c ∈ second, isDigit c)
    {start other : Nat}
    (same : first.foldl (fun number c => number * 10 + (digit? c).getD 0) start =
      second.foldl (fun number c => number * 10 + (digit? c).getD 0) other) :
    start = other ∧ first = second := by
  induction first generalizing second start other with
  | nil =>
      rw [List.eq_nil_of_length_eq_zero length.symm] at same ⊢
      exact ⟨same, rfl⟩
  | cons c rest ih =>
      cases second with
      | nil => cases length
      | cons d later =>
          have left := firstDigits c List.mem_cons_self
          have right := secondDigits d List.mem_cons_self
          have leftBounds := digit_bounds left
          have rightBounds := digit_bounds right
          rw [List.foldl_cons, List.foldl_cons, digit_value left, digit_value right,
            Option.getD_some, Option.getD_some] at same
          obtain ⟨starts, rests⟩ := ih (Nat.succ.inj length)
            (fun e member => firstDigits e (List.mem_cons_of_mem c member))
            (fun e member => secondDigits e (List.mem_cons_of_mem d member)) same
          have zero : '0'.toNat = 48 := rfl
          have chars : c = d := Char.toNat_inj.mp (by omega)
          exact ⟨by omega, congrArg₂ _ chars rests⟩

namespace Digits

variable {width number : Nat} {first second : List Char}

theorem length_le (left : Digits width number first) (right : Digits width number second) :
    second.length ≤ first.length := by
  -- The longer text would be of a number too large for the shorter one.
  by_contra longer
  have more := right.needed (Nat.lt_of_le_of_lt left.filled (Nat.lt_of_not_le longer))
  have less := value_lt left.digits
  have powers := Nat.pow_le_pow_right (show 0 < 10 by decide)
    (show first.length ≤ second.length - 1 by omega)
  rw [left.stands] at less
  omega

theorem unique (left : Digits width number first) (right : Digits width number second) :
    first = second := by
  have length := Nat.le_antisymm (right.length_le left) (left.length_le right)
  have same := left.stands.trans right.stands.symm
  exact (foldl_injective length left.digits right.digits same).2

theorem of_padded (positive : 0 < width) (number : Nat) :
    Digits width number (padded width number) := by
  have length : (padded width number).length = max width (Nat.toDigits 10 number).length := by
    rw [padded, List.length_append, List.length_replicate]
    omega
  constructor
  · exact fun c => digits_padded width number
  · exact value_padded width number
  · exact length ▸ Nat.le_max_left ..
  · intro wider
    have several : 0 < (padded width number).length - 1 := by omega
    by_contra small
    have short := (Nat.length_toDigits_le_iff (b := 10) (by decide) several).mpr
      (Nat.lt_of_not_le small)
    omega

end Digits

namespace FixedDigits

variable {width number : Nat} {text : List Char}

theorem of_padded (positive : 0 < width) (fits : number < 10 ^ width) :
    FixedDigits width number (padded width number) :=
  ⟨fun _ => digits_padded width number, value_padded width number, length_padded positive fits⟩

theorem eq_padded (positive : 0 < width) (written : FixedDigits width number text) :
    text = padded width number := by
  have loose : Digits width number text := by
    constructor
    · exact written.digits
    · exact written.stands
    · exact Nat.le_of_eq written.length.symm
    · exact fun longer => absurd written.length (Nat.ne_of_gt longer)
  exact loose.unique (.of_padded positive number)

end FixedDigits
end TopicLog.Decimal

namespace TopicLog.Timestamp

/-! The calendar and the format. -/

/-- The day lies within its month by the table of month lengths, and the time within the day. -/
structure OnCalendar (moment : Timestamp) : Prop where
  month : 1 ≤ moment.date.month
  day : ∃ length, (monthLengths moment.date.year)[moment.date.month - 1]? = some length ∧
    1 ≤ moment.date.day ∧ moment.date.day ≤ length
  hour : moment.hour < 24
  minute : moment.minute < 60
  second : moment.second ≤ 60
  nanosecond : moment.nanosecond < 10 ^ 9

/-- A year has a sign when it is not within four digits. -/
inductive YearDigits (year : Int) : List Char → Prop
  | plain {digits : List Char} :
      0 ≤ year → year ≤ 9999 → Decimal.Digits 4 year.natAbs digits → YearDigits year digits
  | above {digits : List Char} :
      9999 < year → Decimal.Digits 4 year.natAbs digits → YearDigits year ('+' :: digits)
  | below {digits : List Char} :
      year < 0 → Decimal.Digits 4 year.natAbs digits → YearDigits year ('-' :: digits)

/-- A fraction is exact and in the least number of digits, which is three times a count. -/
inductive FractionDigits (nanosecond : Nat) : List Char → Prop
  | whole : nanosecond = 0 → FractionDigits nanosecond []
  | counted {count number : Nat} {digits : List Char} :
      1 ≤ count → count ≤ 3 → Decimal.FixedDigits (3 * count) number digits →
      nanosecond = number * 10 ^ (9 - 3 * count) →
      ¬ 10 ^ (9 - 3 * (count - 1)) ∣ nanosecond → FractionDigits nanosecond ('.' :: digits)

inductive Displayed (separator : Char) (moment : Timestamp) : String → Prop
  | parts {year month day hour minute second fraction : List Char} :
      YearDigits moment.date.year year →
      Decimal.FixedDigits 2 moment.date.month month →
      Decimal.FixedDigits 2 moment.date.day day →
      Decimal.FixedDigits 2 moment.hour hour →
      Decimal.FixedDigits 2 moment.minute minute →
      Decimal.FixedDigits 2 moment.second second →
      FractionDigits moment.nanosecond fraction →
      Displayed separator moment (String.ofList
        (year ++ '-' :: month ++ '-' :: day ++ separator ::
          (hour ++ ':' :: minute ++ ':' :: second ++ fraction)))

theorem onCalendar (moment : Timestamp) : moment.OnCalendar := by
  have ofDate := moment.date.real
  have ofDay := moment.real
  constructor
  · exact ofDate.1
  · exact ⟨_, monthLengths_get ofDate.1 ofDate.2.1, ofDate.2.2⟩
  · exact ofDay.1
  · exact ofDay.2.1
  · exact ofDay.2.2.1
  · exact ofDay.2.2.2

theorem yearDigits_iff {year : Int} {text : List Char} :
    YearDigits year text ↔ text = yearText year := by
  have written := Decimal.Digits.of_padded (show 0 < 4 by decide) year.natAbs
  constructor
  · rintro (⟨least, most, digits⟩ | ⟨above, digits⟩ | ⟨below, digits⟩)
    · rw [yearText, if_pos ⟨least, most⟩, digits.unique written]
      exact congrArg _ (by omega)
    · rw [yearText, if_neg (by omega), if_neg (by omega), digits.unique written]
    · rw [yearText, if_neg (by omega), if_pos below, digits.unique written]
  · rintro rfl
    rw [yearText]
    split
    · rename_i plain
      rw [show year.toNat = year.natAbs by omega]
      exact .plain plain.1 plain.2 written
    · split
      · exact .below ‹_› written
      · exact .above (by omega) written

theorem fractionDigits_counted {nanosecond : Nat} (count : Nat) (least : 1 ≤ count) (most : count ≤ 3)
    (real : nanosecond < 10 ^ 9) (exactly : 10 ^ (9 - 3 * count) ∣ nanosecond)
    (shortest : ¬ 10 ^ (9 - 3 * (count - 1)) ∣ nanosecond) :
    FractionDigits nanosecond
      ('.' :: Decimal.padded (3 * count) (nanosecond / 10 ^ (9 - 3 * count))) := by
  have fits : nanosecond / 10 ^ (9 - 3 * count) < 10 ^ (3 * count) := by
    apply Nat.div_lt_of_lt_mul
    rwa [← Nat.pow_add, Nat.sub_add_cancel (by omega)]
  have positive : 0 < 3 * count := by omega
  exact .counted least most (.of_padded positive fits) (Nat.div_mul_cancel exactly).symm shortest

theorem fractionDigits_iff {nanosecond : Nat} {text : List Char} (real : nanosecond < 10 ^ 9) :
    FractionDigits nanosecond text ↔ text = fractionText nanosecond := by
  constructor
  · rintro (zero | @⟨count, number, digits, least, most, written, exactly, shortest⟩)
    · rw [fractionText, if_pos zero]
    · rw [written.eq_padded (by omega), fractionText]
      -- No shorter count is exact, which leads past the branches before its own.
      interval_cases count
      · rw [if_neg (by omega), if_pos (by omega)]
        exact congrArg (fun n => '.' :: Decimal.padded 3 n) (by omega)
      · rw [if_neg (by omega), if_neg (by omega), if_pos (by omega)]
        exact congrArg (fun n => '.' :: Decimal.padded 6 n) (by omega)
      · rw [if_neg (by omega), if_neg (by omega), if_neg (by omega)]
        exact congrArg (fun n => '.' :: Decimal.padded 9 n) (by omega)
  · rintro rfl
    rw [fractionText]
    split
    · exact .whole ‹_›
    · split
      · exact fractionDigits_counted 1 (by decide) (by decide) real (by omega) (by omega)
      · split
        · exact fractionDigits_counted 2 (by decide) (by decide) real (by omega) (by omega)
        · have all := fractionDigits_counted 3 (by decide) (by decide) real (by omega)
            (by omega)
          rwa [show 9 - 3 * 3 = 0 from rfl, Nat.pow_zero, Nat.div_one] at all

theorem displayed_iff {separator : Char} {moment : Timestamp} {text : String} :
    Displayed separator moment text ↔ text = moment.textWith separator := by
  have two : 0 < 2 := by decide
  constructor
  · rintro ⟨year, month, day, hour, minute, second, fraction⟩
    rw [yearDigits_iff.mp year, month.eq_padded two, day.eq_padded two, hour.eq_padded two,
      minute.eq_padded two, second.eq_padded two,
      (fractionDigits_iff moment.real.2.2.2).mp fraction]
    rfl
  · rintro rfl
    have fit := moment.parts_fit
    exact .parts (yearDigits_iff.mpr rfl) (.of_padded two fit.1) (.of_padded two fit.2.1)
      (.of_padded two fit.2.2.1) (.of_padded two fit.2.2.2.1) (.of_padded two fit.2.2.2.2)
      ((fractionDigits_iff moment.real.2.2.2).mpr rfl)

/-! The years of what is read. -/

theorem ofParts_date {year : Int} {month day hour minute second nanosecond : Nat}
    {moment : Timestamp}
    (read : ofParts? year month day hour minute second nanosecond = some moment) :
    moment.date.year = year := by
  simp only [ofParts?, Date.ofParts?, Option.bind_eq_bind, Option.bind_eq_some_iff] at read
  obtain ⟨date, dated, timed⟩ := read
  split at dated
  · cases dated
    split at timed
    · cases timed
      rfl
    · cases timed
  · cases dated

theorem ofLocal_era {separate : List Char → Option (List Char)} {text : List Char}
    {moment : Timestamp} (read : ofLocal? separate text = some moment) :
    inEra moment.date.year := by
  obtain ⟨⟨year, _⟩, -, read⟩ := Option.bind_eq_some_iff.mp read
  -- What is read between the year and the check of the year does not matter.
  iterate 11 obtain ⟨_, -, read⟩ := Option.bind_eq_some_iff.mp read
  dsimp only at read
  split at read
  · cases read
  · rename_i accepted
    simp only [Bool.not_eq_true', not_or, Bool.not_eq_false] at accepted
    rw [ofParts_date read]
    exact accepted.2

/-- Less than a day never leaves the years next to a moment's own. -/
theorem minusMinutes_year (moment : Timestamp) (minutes : Int) :
    moment.date.year - 1 ≤ (moment.minusMinutes minutes).date.year ∧
      (moment.minusMinutes minutes).date.year ≤ moment.date.year + 1 := by
  have before := moment.date.year_previous
  have after := moment.date.year_next
  simp only [minusMinutes]
  split
  · omega
  · split
    · omega
    · omega

theorem scanExactly_lt {width number : Nat} {text rest : List Char}
    (read : scanExactly width text = some (number, rest)) : number < 10 ^ width := by
  simp only [scanExactly] at read
  split at read
  · rename_i filled
    cases read
    have all : ∀ c ∈ (Decimal.span width text).1, Decimal.isDigit c :=
      fun c member => List.mem_takeWhile_imp member
    have bound := Decimal.value_lt all
    rwa [filled] at bound
  · cases read

theorem ofInstant_era {text : List Char} {moment : Timestamp}
    (read : ofInstant? text = some moment) : inEra moment.date.year := by
  obtain ⟨⟨year, _⟩, ofYear, read⟩ := Option.bind_eq_some_iff.mp read
  iterate 4 obtain ⟨_, -, read⟩ := Option.bind_eq_some_iff.mp read
  dsimp only at read
  split at read
  · split at read
    · cases read
    · obtain ⟨_, -, read⟩ := Option.bind_eq_some_iff.mp read
      obtain ⟨⟨offset, _⟩, -, read⟩ := Option.bind_eq_some_iff.mp read
      dsimp only at read
      split at read
      · cases read
      · obtain ⟨zoned, parts, same⟩ := Option.bind_eq_some_iff.mp read
        cases same
        have digits := scanExactly_lt ofYear
        have ofLocal := ofParts_date parts
        have near := zoned.minusMinutes_year offset
        simp only [inEra, Bool.and_eq_true, decide_eq_true_eq]
        omega
  · cases read

/-- Whatever is read is of a year that a timestamp without offset may have. -/
theorem ofText_era {text : String} {moment : Timestamp} (read : ofText? text = some moment) :
    inEra moment.date.year := by
  rw [ofText?] at read
  cases instant : ofInstant? text.toList with
  | some found =>
      rw [instant] at read
      cases read
      exact ofInstant_era instant
  | none =>
      rw [instant] at read
      cases spaced : ofSpaced? text.toList with
      | some found =>
          rw [spaced] at read
          cases read
          exact ofLocal_era spaced
      | none =>
          rw [spaced] at read
          have joined : ofLocal? (expect 'T') text.toList = some moment := read
          exact ofLocal_era joined

/-- Every timestamp that a text can be read as lies on the calendar, is displayed in the one way that
its format allows, and is given back exactly by that text, with a space or the letter T in it. These
are all the timestamps of the years from -262143 to 262142. -/
theorem displays_read_back :
    (∀ text moment, ofText? text = some moment →
      moment.OnCalendar ∧
      ∀ separator, separator = ' ' ∨ separator = 'T' →
        Displayed separator moment (moment.textWith separator) ∧
        ∀ shown, Displayed separator moment shown → ofText? shown = some moment) ∧
    (∀ text, ((ofText? text).map toText).bind ofText? = ofText? text) ∧
    ∀ moment : Timestamp, (∃ text, ofText? text = some moment) ↔
      -262143 ≤ moment.date.year ∧ moment.date.year ≤ 262142 := by
  constructor
  · intro text moment read
    constructor
    · exact moment.onCalendar
    · intro separator between
      constructor
      · exact displayed_iff.mpr rfl
      · intro shown displayed
        rw [displayed_iff.mp displayed]
        exact ofText_textWith between (ofText_era read)
  · constructor
    · intro text
      cases read : ofText? text with
      | none => rfl
      | some moment =>
          rw [Option.map_some, Option.bind_some]
          exact ofText_toText (ofText_era read)
    · intro moment
      have era : inEra moment.date.year ↔
          -262143 ≤ moment.date.year ∧ moment.date.year ≤ 262142 := by
        rw [inEra, Bool.and_eq_true, decide_eq_true_iff, decide_eq_true_iff]
      constructor
      · rintro ⟨text, read⟩
        exact era.mp (ofText_era read)
      · intro within
        exact ⟨moment.toText, ofText_toText (era.mpr within)⟩

/-- A leap second on the leap day of a year before the first. -/
theorem displays_read_back_leap : ∃ moment,
    ofText? "-0400-02-29T23:59:60.25" = some moment ∧ moment.OnCalendar ∧
      moment.toText = "-0400-02-29 23:59:60.250" ∧
      Displayed 'T' moment "-0400-02-29T23:59:60.250" ∧
      ofText? "-0400-02-29T23:59:60.250" = some moment ∧
      ofText? "-0400-02-29 23:59:60.250" = some moment := by
  have read : ofText? "-0400-02-29T23:59:60.25" =
      some ⟨⟨-400, 2, 29, by decide⟩, 23, 59, 60, 250000000, by decide⟩ := by decide +kernel
  obtain ⟨calendar, displays⟩ := displays_read_back.1 _ _ read
  obtain ⟨spaced, spacedBack⟩ := displays ' ' (.inl rfl)
  obtain ⟨joined, joinedBack⟩ := displays 'T' (.inr rfl)
  have spacedText : textWith ' ' ⟨⟨-400, 2, 29, by decide⟩, 23, 59, 60, 250000000, by decide⟩ =
      "-0400-02-29 23:59:60.250" := by decide +kernel
  have joinedText : textWith 'T' ⟨⟨-400, 2, 29, by decide⟩, 23, 59, 60, 250000000, by decide⟩ =
      "-0400-02-29T23:59:60.250" := by decide +kernel
  rw [spacedText] at spaced
  rw [joinedText] at joined
  exact ⟨_, read, calendar, spacedText, joined, joinedBack _ joined, spacedBack _ spaced⟩

end TopicLog.Timestamp
