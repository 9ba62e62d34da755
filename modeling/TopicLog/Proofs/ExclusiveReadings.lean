import TopicLog.Proofs.TimestampText

/-!
The three ways to read a timestamp exclude each other. Where a text is an instant, the forms without an
offset find the same numbers in it and then come to the offset, for which they have no place. These two
forms part after the date: the letter T that one of them wants there is neither a blank nor a digit. In
whichever order the readings are tried, a text is therefore read as the same timestamp.
-/
namespace TopicLog.Timestamp

/-! The two parts of a form without an offset. -/

def scanDate : Scan (Int × Nat × Nat) := fun text => do
  let (year, text) ← scanYear text
  let text ← expect '-' text
  let (month, text) ← scanLax 2 text
  let text ← expect '-' text
  let (day, text) ← scanLax 2 text
  return ((year, month, day), text)

def scanTime : Scan (Nat × Nat × Nat × Nat) := fun text => do
  let (hour, text) ← scanLax 2 text
  let text ← expect ':' text
  let (minute, text) ← scanLax 2 text
  let text ← expect ':' text
  let (second, text) ← scanLax 2 text
  let (nanosecond, text) ← scanFraction text
  return ((hour, minute, second, nanosecond), text)

section Parts

variable {separate : List Char → Option (List Char)} {text rest zone : List Char} {moment : Timestamp}
  {date : Int × Nat × Nat} {time : Nat × Nat × Nat × Nat} {width number : Nat}

theorem ofLocal_parts (separate : List Char → Option (List Char)) (text : List Char) :
    ofLocal? separate text = (scanDate text).bind fun (date, text) =>
      (separate text).bind fun text => (scanTime text).bind fun (time, text) =>
        if !text.isEmpty ∨ !inEra date.1 then none
        else ofParts? date.1 date.2.1 date.2.2 time.1 time.2.1 time.2.2.1 time.2.2.2 := by
  simp only [ofLocal?, scanDate, scanTime, Option.bind_eq_bind, Option.bind_assoc, Option.pure_def,
    Option.bind_some]
  rfl

theorem ofLocal_some (read : ofLocal? separate text = some moment) :
    ∃ date rest clock time, scanDate text = some (date, rest) ∧ separate rest = some clock ∧
      scanTime clock = some (time, []) := by
  rw [ofLocal_parts] at read
  obtain ⟨⟨date, rest⟩, dated, read⟩ := Option.bind_eq_some_iff.mp read
  obtain ⟨clock, separated, read⟩ := Option.bind_eq_some_iff.mp read
  obtain ⟨⟨time, left⟩, timed, read⟩ := Option.bind_eq_some_iff.mp read
  dsimp only at read
  split at read
  · cases read
  · rename_i accepted
    simp only [Bool.not_eq_true', not_or, Bool.not_eq_false, List.isEmpty_iff] at accepted
    rw [accepted.1] at timed
    exact ⟨date, rest, clock, time, dated, separated, timed⟩

/-! Fixed widths are read by the laxer forms as well. -/

theorem scanExactly_filled (read : scanExactly width text = some (number, rest)) :
    (Decimal.span width text).1.length = width ∧
      (Decimal.value (Decimal.span width text).1, (Decimal.span width text).2) = (number, rest) := by
  simp only [scanExactly] at read
  split at read
  · rename_i filled
    exact ⟨filled, Option.some.inj read⟩
  · cases read

theorem scanExactly_cons (positive : 0 < width)
    (read : scanExactly width text = some (number, rest)) :
    ∃ c later, text = c :: later ∧ Decimal.isDigit c := by
  have filled := (scanExactly_filled read).1
  obtain ⟨less, rfl⟩ := Nat.exists_eq_succ_of_ne_zero (Nat.ne_of_gt positive)
  cases text with
  | nil => cases filled
  | cons c later =>
      by_cases digit : Decimal.isDigit c
      · exact ⟨c, later, rfl, digit⟩
      · simp [Decimal.span, List.take_succ_cons, digit] at filled

theorem scanLax_of_scanExactly (positive : 0 < width)
    (read : scanExactly width text = some (number, rest)) :
    scanLax width text = some (number, rest) := by
  obtain ⟨filled, found⟩ := scanExactly_filled read
  obtain ⟨c, later, rfl, digit⟩ := scanExactly_cons positive read
  have solid := isBlank_of_digit digit
  have some : (Decimal.span width (c :: later)).1 ≠ [] := by
    intro none
    rw [none] at filled
    exact absurd filled (Nat.ne_of_lt positive)
  rw [scanLax, List.dropWhile_cons_of_neg (by simp [solid])]
  simp only [List.isEmpty_iff, some, ↓reduceIte, found]

theorem scanYear_of_scanExactly (read : scanExactly 4 text = some (number, rest)) :
    scanYear text = some ((number : Int), rest) := by
  have lax := scanLax_of_scanExactly (by decide) read
  obtain ⟨c, later, rfl, digit⟩ := scanExactly_cons (by decide) read
  have solid := isBlank_of_digit digit
  have unsigned : ¬ (c = '+' ∨ c = '-') := by
    rintro (rfl | rfl) <;> cases digit
  rw [scanYear, List.dropWhile_cons_of_neg (by simp [solid])]
  simp only [unsigned, ↓reduceIte, lax, Option.map_some]

theorem scanTime_of_scanClock (read : scanClock text = some (time, rest)) :
    scanTime text = some (time, rest) := by
  obtain ⟨⟨hour, text⟩, ofHour, read⟩ := Option.bind_eq_some_iff.mp read
  obtain ⟨text, first, read⟩ := Option.bind_eq_some_iff.mp read
  obtain ⟨⟨minute, text⟩, ofMinute, read⟩ := Option.bind_eq_some_iff.mp read
  obtain ⟨text, second, read⟩ := Option.bind_eq_some_iff.mp read
  obtain ⟨⟨_, text⟩, ofSecond, read⟩ := Option.bind_eq_some_iff.mp read
  obtain ⟨⟨_, _⟩, fraction, read⟩ := Option.bind_eq_some_iff.mp read
  have two : 0 < 2 := by decide
  dsimp only at first ofMinute second ofSecond fraction read
  simp only [scanTime, scanLax_of_scanExactly two ofHour, first, scanLax_of_scanExactly two ofMinute,
    second, scanLax_of_scanExactly two ofSecond, fraction, Option.bind_eq_bind, Option.bind_some]
  exact read

theorem scanDate_of_instant (read : ofInstant? text = some moment) :
    ∃ date separator clock time zone, scanDate text = some (date, separator :: clock) ∧
      (separator = 'T' ∨ separator = 't' ∨ separator = ' ') ∧
      scanClock clock = some (time, zone) ∧ zone ≠ [] := by
  obtain ⟨⟨year, text⟩, ofYear, read⟩ := Option.bind_eq_some_iff.mp read
  obtain ⟨text, first, read⟩ := Option.bind_eq_some_iff.mp read
  obtain ⟨⟨month, text⟩, ofMonth, read⟩ := Option.bind_eq_some_iff.mp read
  obtain ⟨text, second, read⟩ := Option.bind_eq_some_iff.mp read
  obtain ⟨⟨day, text⟩, ofDay, read⟩ := Option.bind_eq_some_iff.mp read
  dsimp only at first ofMonth second ofDay read
  split at read
  · rename_i separator clock
    split at read
    · cases read
    · rename_i between
      obtain ⟨⟨time, zone⟩, timed, read⟩ := Option.bind_eq_some_iff.mp read
      obtain ⟨⟨offset, left⟩, zoned, read⟩ := Option.bind_eq_some_iff.mp read
      have two : 0 < 2 := by decide
      refine ⟨(year, month, day), separator, clock, time, zone, ?_, ?_, timed, ?_⟩
      · simp only [scanDate, scanYear_of_scanExactly ofYear, first,
          scanLax_of_scanExactly two ofMonth, second, scanLax_of_scanExactly two ofDay,
          Option.bind_eq_bind, Option.bind_some, Option.pure_def]
      · simpa only [ne_eq, not_and, Decidable.not_not, ← Decidable.or_iff_not_imp_left] using between
      · rintro rfl
        cases zoned
  · cases read

/-- A letter between date and time is neither passed over nor read as an hour. -/
theorem scanTime_letter {c : Char} (letter : c = 'T' ∨ c = 't') (rest : List Char) :
    scanTime ((c :: rest).dropWhile isBlank) = none := by
  have solid : isBlank c = false := by
    rcases letter with rfl | rfl <;> decide
  have other : Decimal.isDigit c = false := by
    rcases letter with rfl | rfl <;> decide
  have unread : scanLax 2 (c :: rest) = none := by simp [scanLax, solid, Decimal.span, other]
  rw [List.dropWhile_cons_of_neg (by simp [solid]), scanTime, unread]
  rfl

/-! Two readings at a time. -/

theorem ofLocal_not_instant (read : ofLocal? separate text = some moment)
    (finds : ∀ separator clock time zone found,
      separator = 'T' ∨ separator = 't' ∨ separator = ' ' → scanClock clock = some (time, zone) →
      separate (separator :: clock) = some found → found = clock ∨ scanTime found = none) :
    ofInstant? text = none := by
  cases instant : ofInstant? text with
  | none => rfl
  | some other =>
      obtain ⟨date, separator, clock, time, zone, dated, between, timed, unread⟩ :=
        scanDate_of_instant instant
      obtain ⟨_, _, found, _, again, separated, whole⟩ := ofLocal_some read
      cases dated.symm.trans again
      -- The offset of the instant is what this form would have left unread.
      rcases finds separator clock time zone found between timed separated with rfl | none
      · cases (scanTime_of_scanClock timed).symm.trans whole
        exact absurd rfl unread
      · cases none.symm.trans whole

theorem spaced_not_instant (read : ofSpaced? text = some moment) : ofInstant? text = none := by
  apply ofLocal_not_instant read
  intro separator clock time zone found between timed separated
  cases separated
  rcases between with rfl | rfl | rfl
  · exact .inr (scanTime_letter (.inl rfl) clock)
  · exact .inr (scanTime_letter (.inr rfl) clock)
  · obtain ⟨⟨hour, later⟩, ofHour, _⟩ := Option.bind_eq_some_iff.mp timed
    obtain ⟨c, rest, rfl, digit⟩ := scanExactly_cons (by decide) ofHour
    have solid := isBlank_of_digit digit
    rw [List.dropWhile_cons_of_pos (by decide), List.dropWhile_cons_of_neg (by simp [solid])]
    exact .inl rfl

theorem joined_not_instant (read : ofJoined? text = some moment) : ofInstant? text = none := by
  apply ofLocal_not_instant read
  intro separator clock time zone found between timed separated
  rw [expect] at separated
  split at separated
  · exact .inl (Option.some.inj separated).symm
  · cases separated

theorem joined_not_spaced (read : ofJoined? text = some moment) : ofSpaced? text = none := by
  cases spaced : ofSpaced? text with
  | none => rfl
  | some other =>
      obtain ⟨date, rest, clock, time, dated, separated, timed⟩ := ofLocal_some read
      obtain ⟨_, _, found, _, again, blanks, whole⟩ := ofLocal_some spaced
      cases dated.symm.trans again
      cases blanks
      cases rest with
      | nil => cases separated
      | cons c later =>
          rw [expect] at separated
          split at separated
          · rename_i letter
            cases (scanTime_letter (.inl letter) later).symm.trans whole
          · cases separated

end Parts

/-! The order of the readings. -/

def Exclusive (text : List Char) (readings : List (List Char → Option Timestamp)) : Prop :=
  readings.Pairwise fun first second => first text = none ∨ second text = none

variable {text : List Char} {readings order : List (List Char → Option Timestamp)}

theorem Exclusive.findSome_iff (exclusive : Exclusive text readings) (moment : Timestamp) :
    readings.findSome? (fun reading => reading text) = some moment ↔
      ∃ reading ∈ readings, reading text = some moment := by
  induction readings with
  | nil => simp
  | cons first rest ih =>
      obtain ⟨apart, later⟩ := List.pairwise_cons.mp exclusive
      cases read : first text with
      | none => simp [read, ih later]
      | some found =>
          -- Nothing after the first reading accepts the text, so it may as well stand anywhere.
          have others : ∀ reading ∈ rest, reading text ≠ some moment := by
            intro reading member accepted
            rcases apart reading member with none | none
            · cases read.symm.trans none
            · cases accepted.symm.trans none
          simp only [List.findSome?_cons, read, List.mem_cons, exists_eq_or_imp]
          constructor
          · intro same
            exact .inl same
          · rintro (same | ⟨reading, member, accepted⟩)
            · exact same
            · exact absurd accepted (others reading member)

theorem Exclusive.perm (exclusive : Exclusive text readings) (perm : order.Perm readings) :
    Exclusive text order := by
  have symmetric : ∀ {first second : List Char → Option Timestamp},
      first text = none ∨ second text = none → second text = none ∨ first text = none := Or.symm
  exact (perm.pairwise_iff symmetric).mpr exclusive

theorem Exclusive.findSome_perm (exclusive : Exclusive text readings) (perm : order.Perm readings) :
    order.findSome? (fun reading => reading text) =
      readings.findSome? fun reading => reading text := by
  apply Option.ext
  intro moment
  rw [(exclusive.perm perm).findSome_iff, exclusive.findSome_iff]
  simp only [perm.mem_iff]

theorem readings_exclusive (text : List Char) :
    Exclusive text [ofInstant?, ofSpaced?, ofJoined?] := by
  have instant_spaced : ofInstant? text = none ∨ ofSpaced? text = none := by
    cases read : ofSpaced? text with
    | none => exact .inr rfl
    | some moment => exact .inl (spaced_not_instant read)
  have others_joined :
      (ofInstant? text = none ∧ ofSpaced? text = none) ∨ ofJoined? text = none := by
    cases read : ofJoined? text with
    | none => exact .inr rfl
    | some moment => exact .inl ⟨joined_not_instant read, joined_not_spaced read⟩
  simp only [Exclusive, List.pairwise_cons, List.mem_cons, List.not_mem_nil, or_false,
    forall_eq_or_imp, forall_eq]
  exact ⟨⟨instant_spaced, others_joined.imp_left And.left⟩, others_joined.imp_left And.right,
    nofun, .nil⟩

theorem ofText_findSome (text : String) :
    ofText? text =
      [ofInstant?, ofSpaced?, ofJoined?].findSome? fun reading => reading text.toList := by
  simp only [ofText?, List.findSome?_cons, List.findSome?_nil]
  cases ofInstant? text.toList with
  | some moment => rfl
  | none =>
      cases ofSpaced? text.toList with
      | some moment => rfl
      | none => cases ofJoined? text.toList <;> rfl

/-- No text is accepted by two of the three readings, so none is read with an offset by one and without
by another. A text is read as what any of them makes of it, and the order in which they are tried makes
no difference. -/
theorem readings_in_any_order (text : String) :
    Exclusive text.toList [ofInstant?, ofSpaced?, ofJoined?] ∧
    (∀ moment, ofText? text = some moment ↔
      ∃ reading ∈ [ofInstant?, ofSpaced?, ofJoined?], reading text.toList = some moment) ∧
    ∀ order : List (List Char → Option Timestamp), order.Perm [ofInstant?, ofSpaced?, ofJoined?] →
      order.findSome? (fun reading => reading text.toList) = ofText? text := by
  have exclusive := readings_exclusive text.toList
  rw [ofText_findSome]
  exact ⟨exclusive, exclusive.findSome_iff, fun order => exclusive.findSome_perm⟩

end TopicLog.Timestamp
