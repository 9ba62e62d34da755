import TopicLog.Text.Utf8

/-!
Text written as UTF-8 is read back as it was. Each character gives back itself and leaves what
follows it alone, so a text may be read out of a longer run of bytes; a byte below 0x80 is read as
the character of its own number. Nothing else is read: bytes that give a character are the ones that
are written for it.
-/
namespace TopicLog.Utf8

theorem continuation_toNat (bits : Nat) : (continuation bits).toNat = 0x80 + bits % 0x40 := by
  simp only [continuation, UInt8.toNat_ofNat']
  omega

theorem gather_continuation (tails number bits : Nat) (rest : Bytes) :
    gather (tails + 1) number (continuation bits :: rest) =
      gather tails (number * 0x40 + bits % 0x40) rest := by
  have isTail : 0x80 ≤ (continuation bits).toNat ∧ (continuation bits).toNat < 0xC0 := by
    rw [continuation_toNat]
    omega
  rw [gather, if_pos isTail, continuation_toNat, Nat.add_sub_cancel_left]

theorem scalar_char (c : Char) {least : Nat} (enough : least ≤ c.toNat) (rest : Bytes) :
    scalar? least (some (c.toNat, rest)) = some (c, rest) := by
  have valid : c.toNat.isValidChar := c.valid
  have same : Char.ofNatAux c.toNat valid = c := by
    apply Char.ext
    apply UInt32.toNat_inj.mp
    rfl
  rw [scalar?, dif_pos ⟨enough, valid⟩, same]

theorem toNat_lt (c : Char) : c.toNat < 0x110000 := by
  rcases c.valid with low | high
  · exact Nat.lt_trans low (by decide)
  · exact high.2

theorem lead_toNat {number : Nat} (small : number < 0x100) :
    (UInt8.ofNat number).toNat = number := by
  rw [UInt8.toNat_ofNat', Nat.mod_eq_of_lt small]

theorem decodeChar_encodeChar (c : Char) (rest : Bytes) :
    decodeChar? (encodeChar c ++ rest) = some (c, rest) := by
  have bound := toNat_lt c
  by_cases one : c.toNat < 0x80
  · simp only [encodeChar, one, ↓reduceIte, List.singleton_append, decodeChar?,
      lead_toNat (Nat.lt_trans one (by decide))]
    exact scalar_char c (Nat.zero_le _) rest
  · by_cases two : c.toNat < 0x800
    · have lead := @lead_toNat (0xC0 + c.toNat / 0x40) (by omega)
      have number : c.toNat / 0x40 * 0x40 + c.toNat % 0x40 = c.toNat := by omega
      simp only [encodeChar, one, two, ↓reduceIte, List.cons_append, List.nil_append,
        decodeChar?, lead]
      rw [if_neg (by omega), if_neg (by omega), if_pos (by omega), Nat.add_sub_cancel_left,
        gather_continuation, gather, number]
      exact scalar_char c (Nat.not_lt.mp one) rest
    · by_cases three : c.toNat < 0x10000
      · have lead := @lead_toNat (0xE0 + c.toNat / 0x1000) (by omega)
        have number : (c.toNat / 0x1000 * 0x40 + c.toNat / 0x40 % 0x40) * 0x40 +
            c.toNat % 0x40 = c.toNat := by omega
        simp only [encodeChar, one, two, three, ↓reduceIte, List.cons_append, List.nil_append,
          decodeChar?, lead]
        rw [if_neg (by omega), if_neg (by omega), if_neg (by omega), if_pos (by omega),
          Nat.add_sub_cancel_left, gather_continuation, gather_continuation, gather, number]
        exact scalar_char c (Nat.not_lt.mp two) rest
      · have lead := @lead_toNat (0xF0 + c.toNat / 0x40000) (by omega)
        have number : ((c.toNat / 0x40000 * 0x40 + c.toNat / 0x1000 % 0x40) * 0x40 +
            c.toNat / 0x40 % 0x40) * 0x40 + c.toNat % 0x40 = c.toNat := by omega
        simp only [encodeChar, one, two, three, ↓reduceIte, List.cons_append, List.nil_append,
          decodeChar?, lead]
        rw [if_neg (by omega), if_neg (by omega), if_neg (by omega), if_neg (by omega),
          if_pos (by omega), Nat.add_sub_cancel_left, gather_continuation, gather_continuation,
          gather_continuation, gather, number]
        exact scalar_char c (Nat.not_lt.mp three) rest

theorem decodeChars_of_char {bytes rest : Bytes} {c : Char}
    (read : decodeChar? bytes = some (c, rest)) :
    decodeChars? bytes = (decodeChars? rest).map (c :: ·) := by
  cases bytes with
  | nil => simp [decodeChar?] at read
  | cons b tail =>
      rw [decodeChars?]
      split
      · rename_i d after found
        rw [read] at found
        cases found
        rfl
      · rename_i missing
        rw [read] at missing
        cases missing

theorem decodeChars_encodeChars (chars : List Char) :
    decodeChars? (encodeChars chars) = some chars := by
  induction chars with
  | nil => simp [encodeChars, decodeChars?]
  | cons c rest ih =>
      have read := decodeChar_encodeChar c (encodeChars rest)
      rw [encodeChars, List.flatMap_cons, ← encodeChars, decodeChars_of_char read, ih]
      rfl

theorem decode_encode (text : String) : decode? (encode text) = some text := by
  rw [decode?, encode, decodeChars_encodeChars, Option.map_some, String.ofList_toList]

/-! What is read was written. -/

/-- What was gathered ends in the bits of the last continuation bytes. -/
theorem gather_succ {tails number result : Nat} {bytes rest : Bytes}
    (gathered : gather (tails + 1) number bytes = some (result, rest)) :
    ∃ bits later, bits < 0x40 ∧ bytes = continuation bits :: later ∧
      gather tails (number * 0x40 + bits) later = some (result, rest) := by
  cases bytes with
  | nil => cases gathered
  | cons b later =>
      rw [gather] at gathered
      split at gathered
      · rename_i isTail
        have bits : b.toNat - 0x80 < 0x40 := by omega
        have same : b = continuation (b.toNat - 0x80) := by
          apply UInt8.toNat_inj.mp
          rw [continuation_toNat]
          omega
        exact ⟨b.toNat - 0x80, later, bits, congrArg (· :: later) same, gathered⟩
      · cases gathered

theorem scalar_value {least : Nat} {found : Option (Nat × Bytes)} {c : Char} {rest : Bytes}
    (read : scalar? least found = some (c, rest)) :
    found = some (c.toNat, rest) ∧ least ≤ c.toNat := by
  obtain ⟨number, rfl⟩ := scalar_rest read
  rw [scalar?] at read
  by_cases valid : least ≤ number ∧ number.isValidChar
  · rw [dif_pos valid] at read
    cases read
    exact ⟨rfl, valid.1⟩
  · rw [dif_neg valid] at read
    cases read

theorem continuation_mod {bits other : Nat} (same : bits % 0x40 = other % 0x40) :
    continuation bits = continuation other := by
  rw [continuation, continuation, same]

/-- Reading a character leaves just the bytes after the ones that are written for it. -/
theorem encodeChar_of_decodeChar {bytes rest : Bytes} {c : Char}
    (read : decodeChar? bytes = some (c, rest)) : bytes = encodeChar c ++ rest := by
  cases bytes with
  | nil => cases read
  | cons b later =>
      have lead : ∀ number, b.toNat = number → b = UInt8.ofNat number := by
        rintro number rfl
        rw [UInt8.ofNat_toNat]
      have byte := b.toNat_lt
      rw [decodeChar?] at read
      -- The first byte says how many follow; the number they make is too large for a shorter form.
      split at read
      · rename_i one
        obtain ⟨found, -⟩ := scalar_value read
        simp only [Option.some.injEq, Prod.mk.injEq] at found
        obtain ⟨number, rfl⟩ := found
        rw [encodeChar, if_pos (by omega), lead _ number]
        rfl
      · split at read
        · cases read
        · split at read
          · obtain ⟨gathered, least⟩ := scalar_value read
            obtain ⟨bits, later, few, rfl, last⟩ := gather_succ gathered
            simp only [gather, Option.some.injEq, Prod.mk.injEq] at last
            obtain ⟨number, rfl⟩ := last
            rw [encodeChar, if_neg (by omega), if_pos (by omega),
              lead (0xC0 + c.toNat / 0x40) (by omega),
              continuation_mod (show bits % 0x40 = c.toNat % 0x40 by omega)]
            rfl
          · split at read
            · obtain ⟨gathered, least⟩ := scalar_value read
              obtain ⟨high, later, small, rfl, second⟩ := gather_succ gathered
              obtain ⟨bits, later, few, rfl, last⟩ := gather_succ second
              simp only [gather, Option.some.injEq, Prod.mk.injEq] at last
              obtain ⟨number, rfl⟩ := last
              rw [encodeChar, if_neg (by omega), if_neg (by omega), if_pos (by omega),
                lead (0xE0 + c.toNat / 0x1000) (by omega),
                continuation_mod (show bits % 0x40 = c.toNat % 0x40 by omega),
                continuation_mod (show high % 0x40 = c.toNat / 0x40 % 0x40 by omega)]
              rfl
            · split at read
              · obtain ⟨gathered, least⟩ := scalar_value read
                obtain ⟨high, later, small, rfl, second⟩ := gather_succ gathered
                obtain ⟨middle, later, medium, rfl, third⟩ := gather_succ second
                obtain ⟨bits, later, few, rfl, last⟩ := gather_succ third
                simp only [gather, Option.some.injEq, Prod.mk.injEq] at last
                obtain ⟨number, rfl⟩ := last
                rw [encodeChar, if_neg (by omega), if_neg (by omega), if_neg (by omega),
                  lead (0xF0 + c.toNat / 0x40000) (by omega),
                  continuation_mod (show bits % 0x40 = c.toNat % 0x40 by omega),
                  continuation_mod (show middle % 0x40 = c.toNat / 0x40 % 0x40 by omega),
                  continuation_mod (show high % 0x40 = c.toNat / 0x1000 % 0x40 by omega)]
                rfl
              · cases read

theorem encodeChars_of_decodeChars {bytes : Bytes} {chars : List Char}
    (read : decodeChars? bytes = some chars) : bytes = encodeChars chars := by
  fun_induction decodeChars? bytes generalizing chars with
  | case1 =>
      cases read
      rfl
  | case2 b tail c rest found ih =>
      obtain ⟨later, decoded, rfl⟩ := Option.map_eq_some_iff.mp read
      rw [encodeChar_of_decodeChar found, ih decoded]
      rfl
  | case3 => cases read

/-- The first byte of a character is no continuation byte; all others are. -/
theorem encodeChar_eq_cons (c : Char) :
    ∃ lead tails, encodeChar c = lead :: tails ∧ ¬ (0x80 ≤ lead.toNat ∧ lead.toNat < 0xC0) ∧
      ∀ b ∈ tails, 0x80 ≤ b.toNat ∧ b.toNat < 0xC0 := by
  have bound := toNat_lt c
  have isTail : ∀ bits, 0x80 ≤ (continuation bits).toNat ∧ (continuation bits).toNat < 0xC0 := by
    intro bits
    rw [continuation_toNat]
    omega
  rw [encodeChar]
  split
  · refine ⟨_, _, rfl, ?_, by simp⟩
    rw [lead_toNat (by omega)]
    omega
  · split
    · refine ⟨_, _, rfl, ?_, by simp [isTail]⟩
      rw [lead_toNat (by omega)]
      omega
    · split
      · refine ⟨_, _, rfl, ?_, by simp [isTail]⟩
        rw [lead_toNat (by omega)]
        omega
      · refine ⟨_, _, rfl, ?_, by simp [isTail]⟩
        rw [lead_toNat (by omega)]
        omega

end TopicLog.Utf8
