import TopicLog.Proofs.DisplayedTimestamps
import TopicLog.Row

/-!
Local times with their offset from universal time. Days, hours and minutes are counted through in one
number, which says what instant a local time names whatever its offset: reading it takes the offset
away and keeps seconds and their fraction, across the ends of days, months and years. Two texts that
name one instant are therefore read alike.
-/
namespace TopicLog.Timestamp

/-! Instants as numbers. -/

/-- Minutes since the day before the first of January of year 1 began. -/
def minuteNumber (moment : Timestamp) : Int :=
  moment.date.dayNumber * 1440 + moment.hour * 60 + moment.minute

/-- Nanoseconds since the day before the first of January of year 1 began. -/
def instant (moment : Timestamp) : Int :=
  (moment.minuteNumber * 60 + moment.second) * 10 ^ 9 + moment.nanosecond

theorem minuteNumber_minusMinutes (moment : Timestamp) {minutes : Int} (after : -1440 < minutes)
    (before : minutes < 1440) :
    (moment.minusMinutes minutes).minuteNumber = moment.minuteNumber - minutes := by
  have ofDay := moment.real
  have yesterday := moment.date.dayNumber_previous
  have tomorrow := moment.date.dayNumber_next
  -- Less than a day is taken away, so at most one midnight is crossed.
  simp only [minuteNumber, minusMinutes]
  split
  · omega
  · split
    · omega
    · omega

theorem instant_injective {first second : Timestamp} (firstPlain : first.second < 60)
    (secondPlain : second.second < 60) (same : first.instant = second.instant) :
    first = second := by
  have firstReal := first.real
  have secondReal := second.real
  -- Without leap seconds every part lies below the unit of the one before it.
  simp only [instant, minuteNumber] at same
  have sameDay : first.date = second.date := Date.dayNumber_injective (by omega)
  rw [sameDay] at same
  have sameHour : first.hour = second.hour := by omega
  have sameMinute : first.minute = second.minute := by omega
  have sameSecond : first.second = second.second := by omega
  have sameFraction : first.nanosecond = second.nanosecond := by omega
  cases first
  cases second
  simp only [mk.injEq]
  exact ⟨sameDay, sameHour, sameMinute, sameSecond, sameFraction⟩

/-! Local times. -/

/-- The distance of a local time from universal time, as it is written. -/
inductive Zone
  | universal (letter : Char) (either : letter = 'Z' ∨ letter = 'z')
  | east (hours minutes : Nat) (real : hours < 24 ∧ minutes < 60)
  | west (sign : Char) (hours minutes : Nat) (minus : sign = '-' ∨ sign = '\u2212')
      (real : hours < 24 ∧ minutes < 60)

namespace Zone

def text : Zone → List Char
  | universal letter _ => [letter]
  | east hours minutes _ => '+' :: Decimal.padded 2 hours ++ ':' :: Decimal.padded 2 minutes
  | west sign hours minutes _ _ =>
      sign :: Decimal.padded 2 hours ++ ':' :: Decimal.padded 2 minutes

def minutes : Zone → Int
  | universal _ _ => 0
  | east hours minutes _ => hours * 60 + minutes
  | west _ hours minutes _ _ => -(hours * 60 + minutes)

theorem minutes_bounds (zone : Zone) : -1440 < zone.minutes ∧ zone.minutes < 1440 := by
  cases zone with
  | universal =>
      simp only [minutes]
      omega
  | east hours past real =>
      simp only [minutes]
      omega
  | west sign hours past minus real =>
      simp only [minutes]
      omega

theorem scanOffset_text (zone : Zone) : scanOffset zone.text = some (zone.minutes, []) := by
  have two : 0 < 2 := by decide
  have minutesRead : ∀ {past : Nat}, past < 60 →
      scanExactly 2 (Decimal.padded 2 past) = some (past, []) := by
    intro past small
    have read := scanExactly_padded two (show past < 10 ^ 2 by omega) []
    rwa [List.append_nil] at read
  cases zone with
  | universal letter either => simp [text, minutes, scanOffset, either]
  | east hours past real =>
      have fits : hours < 10 ^ 2 := by omega
      simp [text, minutes, scanOffset, scanExactly_padded two fits, expect_self,
        minutesRead real.2, real]
  | west sign hours past minus real =>
      have fits : hours < 10 ^ 2 := by omega
      have other : sign ≠ 'Z' ∧ sign ≠ 'z' ∧ sign ≠ '+' := by
        rcases minus with rfl | rfl
        · decide
        · decide
      simp [text, minutes, scanOffset, scanExactly_padded two fits, expect_self,
        minutesRead real.2, real, minus, other]

theorem text_cons (zone : Zone) :
    ∃ c rest, zone.text = c :: rest ∧ Decimal.isDigit c = false ∧ c ≠ '.' := by
  cases zone with
  | universal letter either =>
      rcases either with rfl | rfl
      · exact ⟨_, _, rfl, by decide, by decide⟩
      · exact ⟨_, _, rfl, by decide, by decide⟩
  | east hours past real => exact ⟨_, _, rfl, by decide, by decide⟩
  | west sign hours past minus real =>
      rcases minus with rfl | rfl
      · exact ⟨_, _, rfl, by decide, by decide⟩
      · exact ⟨_, _, rfl, by decide, by decide⟩

end Zone

/-- A local date and time with its offset, as they are written: years in four digits, and up to nine
digits for the fraction of a second or none. -/
structure Zoned where
  date : Date
  separator : Char
  hour : Nat
  minute : Nat
  second : Nat
  fraction : List Char
  zone : Zone
  year : 0 ≤ date.year ∧ date.year ≤ 9999
  between : separator = 'T' ∨ separator = 't' ∨ separator = ' '
  clock : hour < 24 ∧ minute < 60 ∧ second < 60
  digits : ∀ c ∈ fraction, Decimal.isDigit c
  short : fraction.length ≤ 9

namespace Zoned

variable (zoned : Zoned)

def fractionText : List Char := if zoned.fraction = [] then [] else '.' :: zoned.fraction

def clockText : List Char :=
  Decimal.padded 2 zoned.hour ++ ':' :: Decimal.padded 2 zoned.minute ++
    ':' :: Decimal.padded 2 zoned.second ++ (zoned.fractionText ++ zoned.zone.text)

def text : String :=
  String.ofList (Decimal.padded 4 zoned.date.year.toNat ++ '-' :: Decimal.padded 2 zoned.date.month ++
    '-' :: Decimal.padded 2 zoned.date.day ++ zoned.separator :: zoned.clockText)

def nanosecond : Nat := Decimal.value zoned.fraction * 10 ^ (9 - zoned.fraction.length)

theorem nanosecond_lt : zoned.nanosecond < 1000000000 := by
  have bound := Decimal.value_lt zoned.digits
  have positive := Nat.pow_pos (n := 9 - zoned.fraction.length) (show 0 < 10 by decide)
  calc zoned.nanosecond < 10 ^ zoned.fraction.length * 10 ^ (9 - zoned.fraction.length) :=
        Nat.mul_lt_mul_of_pos_right bound positive
    _ = 1000000000 := by rw [← Nat.pow_add, Nat.add_sub_cancel' zoned.short]

def wall : Timestamp :=
  { date := zoned.date
    hour := zoned.hour
    minute := zoned.minute
    second := zoned.second
    nanosecond := zoned.nanosecond
    real := ⟨zoned.clock.1, zoned.clock.2.1, Nat.le_of_lt zoned.clock.2.2, zoned.nanosecond_lt⟩ }

def instant : Int :=
  ((zoned.date.dayNumber * 1440 + zoned.hour * 60 + zoned.minute - zoned.zone.minutes) * 60 +
    zoned.second) * 10 ^ 9 + zoned.nanosecond

def universal : Timestamp := zoned.wall.minusMinutes zoned.zone.minutes

theorem scanFraction_text :
    scanFraction (zoned.fractionText ++ zoned.zone.text) =
      some (zoned.nanosecond, zoned.zone.text) := by
  obtain ⟨c, rest, begins, other, unpointed⟩ := zoned.zone.text_cons
  rw [fractionText]
  split
  · rename_i none
    rw [nanosecond, none, List.nil_append, begins, scanFraction]
    · rfl
    · rintro later same
      cases same
      exact unpointed rfl
  · rename_i some
    have ends : zoned.zone.text.takeWhile Decimal.isDigit = [] := by
      rw [begins, List.takeWhile_cons_of_neg (by simp [other])]
    exact scanFraction_digits zoned.digits some zoned.short ends

theorem scanClock_text :
    scanClock zoned.clockText =
      some ((zoned.hour, zoned.minute, zoned.second, zoned.nanosecond), zoned.zone.text) := by
  have clock := zoned.clock
  have two : 0 < 2 := by decide
  have hour : zoned.hour < 10 ^ 2 := by omega
  have minute : zoned.minute < 10 ^ 2 := by omega
  have second : zoned.second < 10 ^ 2 := by omega
  simp [scanClock, clockText, List.append_assoc, scanExactly_padded two hour,
    scanExactly_padded two minute, scanExactly_padded two second, expect_self, scanFraction_text]

theorem ofText_text : ofText? zoned.text = some zoned.universal := by
  have month : zoned.date.month < 10 ^ 2 := zoned.wall.parts_fit.1
  have day : zoned.date.day < 10 ^ 2 := zoned.wall.parts_fit.2.1
  have bounds := zoned.year
  have year : zoned.date.year.toNat < 10 ^ 4 := by omega
  have positive : max zoned.date.year 0 = zoned.date.year := by omega
  have two : 0 < 2 := by decide
  have separated : ¬ (¬ zoned.separator = 'T' ∧ ¬ zoned.separator = 't' ∧
      ¬ zoned.separator = ' ') := by
    rintro ⟨upper, lower, space⟩
    rcases zoned.between with found | found | found
    · exact upper found
    · exact lower found
    · exact space found
  have parts : ofParts? zoned.date.year zoned.date.month zoned.date.day zoned.hour zoned.minute
      zoned.second zoned.nanosecond = some zoned.wall := zoned.wall.ofParts_parts
  have read : ofInstant? zoned.text.toList = some zoned.universal := by
    simp [ofInstant?, text, universal, String.toList_ofList, List.append_assoc,
      scanExactly_padded (show 0 < 4 by decide) year, scanExactly_padded two month,
      scanExactly_padded two day, expect_self, separated, scanClock_text, Zone.scanOffset_text,
      positive, parts]
  rw [ofText?, read]
  rfl

theorem universal_second : zoned.universal.second = zoned.second := rfl

theorem universal_nanosecond : zoned.universal.nanosecond = zoned.nanosecond := rfl

theorem universal_instant : zoned.universal.instant = zoned.instant := by
  have bounds := zoned.zone.minutes_bounds
  have moved := minuteNumber_minusMinutes zoned.wall bounds.1 bounds.2
  rw [Timestamp.instant, universal, moved]
  rfl

theorem eq_universal {moment : Timestamp} (plain : moment.second < 60)
    (same : moment.instant = zoned.instant) : moment = zoned.universal := by
  have clock : zoned.universal.second < 60 := zoned.universal_second ▸ zoned.clock.2.2
  exact instant_injective plain clock (same.trans zoned.universal_instant.symm)

end Zoned

/-- A local time with any offset is read as the instant that it names, with its second and its
fraction kept, whatever midnight, end of a month or year, or leap day lies between. Two texts that
name one instant are decoded as the same time. -/
theorem offsets_taken_away :
    (∀ zoned : Zoned, ∃ moment, ofText? zoned.text = some moment ∧
      moment.instant = zoned.instant ∧ moment.second = zoned.second ∧
      moment.nanosecond = zoned.nanosecond ∧
      ∀ other : Timestamp, other.second < 60 → other.instant = zoned.instant → other = moment) ∧
    ∀ first second : Zoned, first.instant = second.instant → ∃ moment, ∀ offset,
      Row.createdAt offset first.text = .ok moment ∧
      Row.createdAt offset second.text = .ok moment := by
  constructor
  · intro zoned
    exact ⟨zoned.universal, zoned.ofText_text, zoned.universal_instant, zoned.universal_second,
      zoned.universal_nanosecond, fun _ => zoned.eq_universal⟩
  · intro first second same
    have clock : first.universal.second < 60 := first.universal_second ▸ first.clock.2.2
    have equal : first.universal = second.universal :=
      second.eq_universal clock (first.universal_instant.trans same)
    apply Exists.intro first.universal
    intro offset
    constructor
    · rw [Row.createdAt, first.ofText_text]
    · rw [Row.createdAt, second.ofText_text, equal]

/-- Early on the first day of year 0 to the east of universal time, and late on it further east: the
instant belongs to the year before. -/
theorem offsets_taken_away_new_year : ∃ first second : Zoned,
    first.text = "0000-01-01T00:30:05.25+02:00" ∧ second.text = "0000-01-01 22:29:05.250+23:59" ∧
      first.instant = second.instant ∧
      ∃ moment, moment.toText = "-0001-12-31 22:30:05.250" ∧
        Row.createdAt 7 first.text = .ok moment ∧ Row.createdAt 7 second.text = .ok moment := by
  let first : Zoned :=
    { date := ⟨0, 1, 1, by decide⟩, separator := 'T', hour := 0, minute := 30, second := 5
      fraction := ['2', '5'], zone := .east 2 0 (by decide), year := by decide
      between := .inl rfl, clock := by decide, digits := List.all_eq_true.mp (by decide)
      short := by decide }
  let second : Zoned :=
    { date := ⟨0, 1, 1, by decide⟩, separator := ' ', hour := 22, minute := 29, second := 5
      fraction := ['2', '5', '0'], zone := .east 23 59 (by decide), year := by decide
      between := .inr (.inr rfl), clock := by decide, digits := List.all_eq_true.mp (by decide)
      short := by decide }
  have same : first.instant = second.instant := by decide +kernel
  obtain ⟨moment, decoded⟩ := offsets_taken_away.2 first second same
  obtain ⟨read, shown⟩ : ∃ moment, Row.createdAt 7 first.text = .ok moment ∧
      moment.toText = "-0001-12-31 22:30:05.250" :=
    ⟨⟨⟨-1, 12, 31, by decide⟩, 22, 30, 5, 250000000, by decide⟩, by decide +kernel,
      by decide +kernel⟩
  have one : read = moment := Except.ok.inj (shown.1.symm.trans (decoded 7).1)
  exact ⟨first, second, by decide +kernel, by decide +kernel, same, moment, one ▸ shown.2,
    decoded 7⟩

end TopicLog.Timestamp
