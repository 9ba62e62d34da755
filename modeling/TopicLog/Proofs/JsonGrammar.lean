import TopicLog.Proofs.MetadataText

/-!
The JSON strings, as a grammar over bytes. A character is spelled by its own UTF-8 or by an escape: a
short one, its number in four hexadecimal digits, or a surrogate pair of such numbers. Reading a string
gives a text exactly where the bytes spell it. The reader resolves escapes before it looks at the UTF-8
of the whole, so the proof that it accepts no more than the grammar has to show that no character can
begin in an escape and go on in the bytes after it, nor the other way round.
-/
namespace TopicLog.Json

/-! The grammar. -/

def HexDigit (digit : UInt8) (value : Nat) : Prop :=
  value < 10 ∧ digit.toNat = '0'.toNat + value ∨
    10 ≤ value ∧ value < 16 ∧
      (digit.toNat = 'A'.toNat + (value - 10) ∨ digit.toNat = 'a'.toNat + (value - 10))

inductive HexUnit : Nat → Bytes → Prop where
  | digits {a b c d : UInt8} {w x y z : Nat} (first : HexDigit a w) (second : HexDigit b x)
      (third : HexDigit c y) (fourth : HexDigit d z) :
      HexUnit (w * 0x1000 + x * 0x100 + y * 0x10 + z) [a, b, c, d]

def shortEscapes : List (Char × Char) :=
  [('"', '"'), ('\\', '\\'), ('/', '/'), ('b', '\x08'), ('f', '\x0c'), ('n', '\n'), ('r', '\r'),
    ('t', '\t')]

/-- The bytes by which a character can stand within a string. The number of a character is never a
surrogate, so surrogates are spelled in pairs only. -/
inductive Spelled : Char → Bytes → Prop where
  | plain {c : Char} (quote : c ≠ '"') (backslash : c ≠ '\\') (printable : 0x20 ≤ c.toNat) :
      Spelled c (Utf8.encodeChar c)
  | short {letter c : Char} (escape : (letter, c) ∈ shortEscapes) :
      Spelled c ['\\'.toUInt8, letter.toUInt8]
  | numbered {c : Char} {digits : Bytes} (unit : HexUnit c.toNat digits) :
      Spelled c ('\\'.toUInt8 :: 'u'.toUInt8 :: digits)
  | paired {c : Char} {leading trailing : Bytes} (beyond : 0x10000 ≤ c.toNat)
      (high : HexUnit (0xD800 + (c.toNat - 0x10000) / 0x400) leading)
      (low : HexUnit (0xDC00 + (c.toNat - 0x10000) % 0x400) trailing) :
      Spelled c ('\\'.toUInt8 :: 'u'.toUInt8 :: leading ++
        '\\'.toUInt8 :: 'u'.toUInt8 :: trailing)

inductive Spelling : List Char → Bytes → Prop where
  | nil : Spelling [] []
  | cons {c : Char} {chars : List Char} {first rest : Bytes} (head : Spelled c first)
      (tail : Spelling chars rest) : Spelling (c :: chars) (first ++ rest)

inductive Quoted : String → Bytes → Prop where
  | marks {text : String} {contents : Bytes} (inside : Spelling text.toList contents) :
      Quoted text ('"'.toUInt8 :: contents ++ ['"'.toUInt8])

/-! Escapes. -/

theorem hexValue_eq_some_iff {digit : UInt8} {value : Nat} :
    hexValue? digit = some value ↔ HexDigit digit value := by
  have zero : '0'.toNat = 0x30 := rfl
  have upper : 'A'.toNat = 0x41 := rfl
  have lower : 'a'.toNat = 0x61 := rfl
  simp only [hexValue?, HexDigit, zero, upper, lower]
  split
  · simp only [Option.some.injEq]
    omega
  · split
    · simp only [Option.some.injEq]
      omega
    · split
      · simp only [Option.some.injEq]
        omega
      · simp only [reduceCtorEq, false_iff]
        omega

theorem unit_eq_some_iff {a b c d : UInt8} {number : Nat} :
    unit? a b c d = some number ↔ HexUnit number [a, b, c, d] := by
  constructor
  · intro read
    simp only [unit?, Option.bind_eq_bind, Option.bind_eq_some_iff] at read
    obtain ⟨w, first, x, second, y, third, z, fourth, sum⟩ := read
    have same : w * 0x1000 + x * 0x100 + y * 0x10 + z = number := by
      have folded := Option.some.inj sum
      omega
    exact same ▸ .digits (hexValue_eq_some_iff.mp first) (hexValue_eq_some_iff.mp second)
      (hexValue_eq_some_iff.mp third) (hexValue_eq_some_iff.mp fourth)
  · rintro ⟨first, second, third, fourth⟩
    rw [unit?, hexValue_eq_some_iff.mpr first, hexValue_eq_some_iff.mpr second,
      hexValue_eq_some_iff.mpr third, hexValue_eq_some_iff.mpr fourth]
    apply congrArg some
    omega

theorem readUnit_eq_ok_iff {bytes rest : Bytes} {number : Nat} :
    readUnit bytes = .ok (number, rest) ↔
      ∃ digits, HexUnit number digits ∧ bytes = digits ++ rest := by
  constructor
  · intro read
    unfold readUnit at read
    split at read
    · rename_i a b c d after
      split at read
      · rename_i found
        cases read
        exact ⟨[a, b, c, d], unit_eq_some_iff.mp found, rfl⟩
      · cases read
    · cases read
  · rintro ⟨digits, unit, rfl⟩
    cases unit with
    | digits first second third fourth =>
        have found := unit_eq_some_iff.mpr (.digits first second third fourth)
        simp only [List.cons_append, List.nil_append, readUnit, found]

theorem readTrailing_eq_ok_iff {leading : Nat} {bytes rest : Bytes} {c : Char} :
    readTrailing leading bytes = .ok (c, rest) ↔
      ∃ low digits, HexUnit low digits ∧ (0xDC00 ≤ low ∧ low ≤ 0xDFFF) ∧
        c = .ofNat (0x10000 + (leading - 0xD800) * 0x400 + (low - 0xDC00)) ∧
        bytes = '\\'.toUInt8 :: 'u'.toUInt8 :: digits ++ rest := by
  constructor
  · intro read
    unfold readTrailing at read
    repeat' split at read
    all_goals first
      | contradiction
      | skip
    rename_i backslash _ _ _ letter _ low after found range
    obtain ⟨digits, unit, rfl⟩ := readUnit_eq_ok_iff.mp found
    obtain ⟨same, rfl⟩ := Prod.mk.inj (Except.ok.inj read)
    obtain rfl := Decidable.not_not.mp backslash
    obtain rfl := Decidable.not_not.mp letter
    exact ⟨low, digits, unit, range, same.symm, rfl⟩
  · rintro ⟨low, digits, unit, range, same, rfl⟩
    have found : readUnit (digits ++ rest) = .ok (low, rest) :=
      readUnit_eq_ok_iff.mpr ⟨digits, unit, rfl⟩
    simp only [List.cons_append, readTrailing, ne_eq, not_true_eq_false, ↓reduceIte, found,
      range, and_self, same]

theorem toNat_ofNat {number : Nat} (valid : number.isValidChar) :
    (Char.ofNat number).toNat = number := by
  rw [Char.ofNat, dif_pos valid]
  rfl

theorem spelled_of_readNumbered {bytes rest : Bytes} {c : Char}
    (read : readNumbered bytes = .ok (c, rest)) :
    ∃ escape, Spelled c ('\\'.toUInt8 :: 'u'.toUInt8 :: escape) ∧ bytes = escape ++ rest := by
  unfold readNumbered at read
  split at read
  · cases read
  · rename_i number after found
    obtain ⟨digits, unit, rfl⟩ := readUnit_eq_ok_iff.mp found
    split at read
    · cases read
    · split at read
      · rename_i high
        obtain ⟨low, _, trailing, range, same, rfl⟩ := readTrailing_eq_ok_iff.mp read
        have value : c.toNat = 0x10000 + (number - 0xD800) * 0x400 + (low - 0xDC00) := by
          rw [same, toNat_ofNat (.inr (by omega))]
        have leading : 0xD800 + (c.toNat - 0x10000) / 0x400 = number := by omega
        have second : 0xDC00 + (c.toNat - 0x10000) % 0x400 = low := by omega
        have pair := Spelled.paired (by omega) (leading.symm ▸ unit) (second.symm ▸ trailing)
        exact ⟨_, pair, (List.append_assoc digits _ rest).symm⟩
      · obtain ⟨same, rfl⟩ := Prod.mk.inj (Except.ok.inj read)
        have small : number < 0x10000 := by
          cases unit
          simp only [HexDigit] at *
          omega
        have value : c.toNat = number := by
          rw [← same, toNat_ofNat]
          by_cases low : number < 0xD800
          · exact .inl low
          · exact .inr (by omega)
        exact ⟨digits, .numbered (value ▸ unit), rfl⟩

theorem escaped_of_mem {letter c : Char} (escape : (letter, c) ∈ shortEscapes) :
    escaped? letter.toUInt8 = some c := by
  have all : ∀ pair ∈ shortEscapes, escaped? pair.1.toUInt8 = some pair.2 := by decide
  exact all _ escape

theorem mem_of_escaped {letter : UInt8} {c : Char} (escape : escaped? letter = some c) :
    ∃ name, (name, c) ∈ shortEscapes ∧ letter = name.toUInt8 := by
  unfold escaped? at escape
  repeat' split at escape
  all_goals first
    | contradiction
    | cases escape
      refine ⟨_, ?_, ‹letter = _›⟩
      decide

theorem spelled_of_readEscape {bytes rest : Bytes} {c : Char}
    (read : readEscape bytes = .ok (c, rest)) :
    ∃ escape, Spelled c ('\\'.toUInt8 :: escape) ∧ bytes = escape ++ rest := by
  cases bytes with
  | nil => cases read
  | cons letter after =>
      rw [readEscape] at read
      split at read
      · rename_i found
        cases read
        obtain ⟨name, escape, rfl⟩ := mem_of_escaped found
        exact ⟨[name.toUInt8], .short escape, rfl⟩
      · split at read
        · rename_i numbered
          obtain ⟨escape, spelled, rfl⟩ := spelled_of_readNumbered read
          exact ⟨_, spelled, congrArg (· :: (escape ++ rest)) numbered⟩
        · cases read

theorem readEscape_numbered {bytes rest : Bytes} {c : Char}
    (read : readNumbered bytes = .ok (c, rest)) :
    readEscape ('u'.toUInt8 :: bytes) = .ok (c, rest) := by
  have letter : escaped? 'u'.toUInt8 = none := rfl
  rw [readEscape, letter]
  exact read

theorem not_surrogate (c : Char) : ¬ (0xD800 ≤ c.toNat ∧ c.toNat ≤ 0xDFFF) := by
  rcases c.valid with low | high
  · exact fun range => absurd range.1 (Nat.not_le.mpr low)
  · exact fun range => absurd range.2 (Nat.not_le.mpr high.1)

/-- Reading a string takes any spelling of a character for that character. -/
theorem readContents_spelled {c : Char} {first : Bytes} (spelled : Spelled c first)
    (rest : Bytes) :
    readContents (first ++ rest) = (readContents rest).after (Utf8.encodeChar c) := by
  have scalar := not_surrogate c
  have bound := Utf8.toNat_lt c
  cases spelled with
  | plain quote backslash printable =>
      exact readContents_plain
        (fun b => isPlain_encodeChar quote backslash (Nat.not_lt.mpr printable)) rest
  | @short letter _ escape =>
      have read : readEscape (letter.toUInt8 :: rest) = .ok (c, rest) := by
        rw [readEscape, escaped_of_mem escape]
      exact readContents_escape read
  | @numbered _ digits unit =>
      have number : readUnit (digits ++ rest) = .ok (c.toNat, rest) :=
        readUnit_eq_ok_iff.mpr ⟨digits, unit, rfl⟩
      have read : readNumbered (digits ++ rest) = .ok (c, rest) := by
        simp only [readNumbered, number]
        rw [if_neg (by omega), if_neg (by omega), Char.ofNat_toNat]
      exact readContents_escape (readEscape_numbered read)
  | @paired _ leading digits beyond high low =>
      have number : readUnit (leading ++ ('\\'.toUInt8 :: 'u'.toUInt8 :: digits ++ rest)) =
          .ok (0xD800 + (c.toNat - 0x10000) / 0x400,
            '\\'.toUInt8 :: 'u'.toUInt8 :: digits ++ rest) :=
        readUnit_eq_ok_iff.mpr ⟨leading, high, rfl⟩
      have read : readNumbered (leading ++ ('\\'.toUInt8 :: 'u'.toUInt8 :: digits ++ rest)) =
          .ok (c, rest) := by
        simp only [readNumbered, number]
        rw [if_neg (by omega), if_pos (by omega)]
        apply readTrailing_eq_ok_iff.mpr
        refine ⟨_, digits, low, by omega, ?_, rfl⟩
        apply Char.toNat_inj.mp
        rw [toNat_ofNat (.inr (by omega))]
        omega
      rw [List.append_assoc]
      exact readContents_escape (readEscape_numbered read)

/-! Strings. -/

theorem after_eq_ok_iff {first contents rest : Bytes} {remaining : Reading Bytes} :
    remaining.after first = .ok (contents, rest) ↔
      ∃ later, remaining = .ok (later, rest) ∧ contents = first ++ later := by
  cases remaining with
  | error fault => simp [Reading.after, Except.map]
  | ok pair =>
      obtain ⟨later, left⟩ := pair
      simp only [Reading.after, Except.map, Except.ok.injEq, Prod.mk.injEq]
      grind

theorem readContents_cases {bytes contents rest : Bytes}
    (read : readContents bytes = .ok (contents, rest)) :
    (bytes = '"'.toUInt8 :: rest ∧ contents = []) ∨
    (∃ c first tail later, Spelled c first ∧ bytes = first ++ tail ∧
      readContents tail = .ok (later, rest) ∧ contents = Utf8.encodeChar c ++ later) ∨
    ∃ b tail later, IsPlain b ∧ bytes = b :: tail ∧
      readContents tail = .ok (later, rest) ∧ contents = b :: later := by
  cases bytes with
  | nil => simp [readContents] at read
  | cons b tail =>
      by_cases quote : b = '"'.toUInt8
      · rw [readContents, if_pos quote] at read
        cases read
        exact .inl ⟨by rw [quote], rfl⟩
      · by_cases backslash : b = '\\'.toUInt8
        · subst backslash
          cases escape : readEscape tail with
          | error fault =>
              rw [readContents, if_neg quote, if_pos rfl] at read
              split at read
              · cases read
              · simp_all
          | ok pair =>
              obtain ⟨c, after⟩ := pair
              obtain ⟨first, spelled, rfl⟩ := spelled_of_readEscape escape
              rw [readContents_escape escape] at read
              obtain ⟨later, remaining, rfl⟩ := after_eq_ok_iff.mp read
              exact .inr (.inl ⟨c, _, after, later, spelled, rfl, remaining, rfl⟩)
        · by_cases printable : b.toNat < 0x20
          · rw [readContents, if_neg quote, if_neg backslash, if_pos printable] at read
            cases read
          · have plain : IsPlain b := ⟨quote, backslash, printable⟩
            have step := readContents_plain (List.forall_mem_singleton.mpr plain) tail
            rw [List.singleton_append] at step
            rw [step] at read
            obtain ⟨later, remaining, rfl⟩ := after_eq_ok_iff.mp read
            exact .inr (.inr ⟨b, tail, later, plain, rfl, remaining, rfl⟩)

/-- Continuation bytes among the contents stood in the string as they are: an escape gives a whole
character, which begins with no such byte. -/
theorem readContents_tails {tails bytes later rest : Bytes}
    (continued : ∀ b ∈ tails, 0x80 ≤ b.toNat ∧ b.toNat < 0xC0)
    (read : readContents bytes = .ok (tails ++ later, rest)) :
    ∃ after, bytes = tails ++ after ∧ readContents after = .ok (later, rest) := by
  induction tails generalizing bytes with
  | nil => exact ⟨bytes, rfl, read⟩
  | cons next tails ih =>
      rcases readContents_cases read with ⟨-, none⟩ | escape | plain
      · cases none
      · obtain ⟨c, -, -, remaining, -, -, -, same⟩ := escape
        obtain ⟨lead, others, encoded, start, -⟩ := Utf8.encodeChar_eq_cons c
        rw [encoded] at same
        have first := (List.cons.inj same).1
        exact absurd (first ▸ continued next List.mem_cons_self) start
      · obtain ⟨b, after, remaining, -, rfl, inside, same⟩ := plain
        obtain ⟨rfl, rfl⟩ := List.cons.inj same
        have fewer := fun other member => continued other (List.mem_cons_of_mem next member)
        obtain ⟨left, rfl, last⟩ := ih fewer inside
        exact ⟨left, rfl, last⟩

theorem readContents_char {c : Char} {bytes later rest : Bytes}
    (read : readContents bytes = .ok (Utf8.encodeChar c ++ later, rest)) :
    ∃ first after, Spelled c first ∧ bytes = first ++ after ∧
      readContents after = .ok (later, rest) := by
  obtain ⟨lead, tails, encoded, -, continued⟩ := Utf8.encodeChar_eq_cons c
  rcases readContents_cases read with ⟨-, none⟩ | escape | plain
  · rw [encoded] at none
    cases none
  · obtain ⟨other, first, after, remaining, spelled, rfl, inside, same⟩ := escape
    have decoded := Utf8.decodeChar_encodeChar c later
    rw [same, Utf8.decodeChar_encodeChar] at decoded
    simp only [Option.some.injEq, Prod.mk.injEq] at decoded
    obtain ⟨rfl, rfl⟩ := decoded
    exact ⟨first, after, spelled, rfl, inside⟩
  · obtain ⟨b, tail, remaining, plain, rfl, inside, same⟩ := plain
    rw [encoded] at same
    obtain ⟨rfl, rfl⟩ := List.cons.inj same
    obtain ⟨after, rfl, last⟩ := readContents_tails continued inside
    have spelled : Spelled c (Utf8.encodeChar c) := by
      -- A character below 0x80 is its own byte, and that byte was plain.
      have small : c.toNat < 0x80 → lead.toNat = c.toNat := by
        intro small
        rw [Utf8.encodeChar, if_pos small] at encoded
        rw [← (List.cons.inj encoded).1, Utf8.lead_toNat (by omega)]
      refine .plain ?_ ?_ ?_
      · rintro rfl
        exact plain.1 (UInt8.toNat_inj.mp (small (by decide)))
      · rintro rfl
        exact plain.2.1 (UInt8.toNat_inj.mp (small (by decide)))
      · have printable := plain.2.2
        omega
    exact ⟨_, after, spelled, by rw [encoded]; rfl, last⟩

theorem spelling_of_readContents {chars : List Char} {bytes rest : Bytes}
    (read : readContents bytes = .ok (Utf8.encodeChars chars, rest)) :
    ∃ contents, Spelling chars contents ∧ bytes = contents ++ '"'.toUInt8 :: rest := by
  induction chars generalizing bytes with
  | nil =>
      rcases readContents_cases read with ⟨rfl, -⟩ | escape | plain
      · exact ⟨[], .nil, rfl⟩
      · obtain ⟨c, -, -, remaining, -, -, -, same⟩ := escape
        obtain ⟨lead, others, encoded, -, -⟩ := Utf8.encodeChar_eq_cons c
        rw [encoded] at same
        cases same
      · obtain ⟨b, -, remaining, -, -, -, same⟩ := plain
        cases same
  | cons c chars ih =>
      obtain ⟨first, after, spelled, rfl, inside⟩ := readContents_char read
      obtain ⟨contents, spelling, rfl⟩ := ih inside
      exact ⟨first ++ contents, .cons spelled spelling, by rw [List.append_assoc]⟩

theorem readContents_spelling {chars : List Char} {contents : Bytes}
    (spelling : Spelling chars contents) (rest : Bytes) :
    readContents (contents ++ '"'.toUInt8 :: rest) = .ok (Utf8.encodeChars chars, rest) := by
  induction spelling with
  | nil => rw [List.nil_append, readContents, if_pos rfl]; rfl
  | cons head tail ih =>
      rw [List.append_assoc, readContents_spelled head, ih]
      rfl

theorem readString_eq_ok_iff {text : String} {bytes rest : Bytes} :
    readString bytes = .ok (text, rest) ↔
      ∃ quoted, Quoted text quoted ∧ '"'.toUInt8 :: bytes = quoted ++ rest := by
  constructor
  · intro read
    unfold readString at read
    split at read
    · cases read
    · rename_i contents after found
      split at read
      · rename_i decoded
        cases read
        obtain ⟨chars, whole, rfl⟩ := Option.map_eq_some_iff.mp decoded
        rw [Utf8.encodeChars_of_decodeChars whole] at found
        obtain ⟨inner, spelling, rfl⟩ := spelling_of_readContents found
        have inside : Spelling (String.ofList chars).toList inner := by
          rwa [String.toList_ofList]
        refine ⟨_, .marks inside, ?_⟩
        simp only [List.cons_append, List.append_assoc, List.nil_append]
      · cases read
  · rintro ⟨_, ⟨spelling⟩, same⟩
    simp only [List.cons_append, List.append_assoc, List.nil_append, List.cons.injEq,
      true_and] at same
    have decoded : Utf8.decode? (Utf8.encodeChars text.toList) = some text := Utf8.decode_encode text
    rw [same, readString, readContents_spelling spelling]
    simp only [decoded]

end TopicLog.Json
