import TopicLog.Proofs.Utf8

/-!
UTF-8 keeps the order of texts: comparing the bytes of two texts, byte by byte, gives what comparing
their characters gives. A larger character has a larger first byte, or the same first byte and larger
bytes after it; none is the beginning of another.
-/
namespace TopicLog.Utf8

/-! The bytes of a character by its number. -/

def lead (n : Nat) : Nat :=
  if n < 0x80 then n
  else if n < 0x800 then 0xC0 + n / 0x40
  else if n < 0x10000 then 0xE0 + n / 0x1000
  else 0xF0 + n / 0x40000

def tails (n : Nat) : Bytes :=
  if n < 0x80 then []
  else if n < 0x800 then [continuation n]
  else if n < 0x10000 then [continuation (n / 0x40), continuation n]
  else [continuation (n / 0x1000), continuation (n / 0x40), continuation n]

theorem encodeChar_eq (c : Char) :
    encodeChar c = .ofNat (lead c.toNat) :: tails c.toNat := by
  simp only [encodeChar, lead, tails]
  repeat' split
  all_goals rfl

theorem lead_le {m n : Nat} (lower : m ≤ n) : lead m ≤ lead n := by
  simp only [lead]
  repeat' split
  all_goals omega

theorem lead_lt {n : Nat} (bound : n < 0x110000) : lead n < 0x100 := by
  simp only [lead]
  repeat' split
  all_goals omega

/-! Comparing byte by byte. -/

theorem cons_lt {a b : UInt8} {first second : Bytes} (lower : a.toNat ≤ b.toNat)
    (later : a.toNat = b.toNat → first < second) : a :: first < b :: second := by
  rcases Nat.lt_or_eq_of_le lower with less | same
  · exact List.cons_lt_cons_iff.mpr (.inl (UInt8.lt_iff_toNat_lt.mpr less))
  · exact List.cons_lt_cons_iff.mpr (.inr ⟨UInt8.toNat_inj.mp same, later same⟩)

/-- Continuation bytes compare as the six bits they carry. -/
theorem continuation_lt {m n : Nat} {first second : Bytes} (lower : m % 0x40 ≤ n % 0x40)
    (later : m % 0x40 = n % 0x40 → first < second) :
    continuation m :: first < continuation n :: second := by
  apply cons_lt
  · rw [continuation_toNat, continuation_toNat]
    omega
  · intro same
    rw [continuation_toNat, continuation_toNat] at same
    exact later (by omega)

theorem width_of_lead {m n : Nat} (less : m < n) (bound : n < 0x110000) (same : lead m = lead n) :
    (m < 0x80 ↔ n < 0x80) ∧ (m < 0x800 ↔ n < 0x800) ∧ (m < 0x10000 ↔ n < 0x10000) := by
  simp only [lead] at same
  repeat' split at same
  all_goals omega

theorem tails_lt {m n : Nat} (less : m < n) (bound : n < 0x110000) (same : lead m = lead n)
    (first second : Bytes) : tails m ++ first < tails n ++ second := by
  have ⟨one, two, three⟩ := width_of_lead less bound same
  simp only [lead, one, two, three] at same
  simp only [tails, one, two, three]
  -- With as many bytes, and what the first one carries equal, the rest of the number decides.
  split
  · rename_i narrow
    simp only [narrow, ↓reduceIte] at same
    omega
  · rename_i wide
    simp only [wide, ↓reduceIte] at same
    split
    · rename_i narrow
      simp only [narrow, ↓reduceIte] at same
      exact continuation_lt (by omega) (by omega)
    · rename_i wide
      simp only [wide, ↓reduceIte] at same
      split
      · rename_i narrow
        simp only [narrow, ↓reduceIte] at same
        exact continuation_lt (by omega) fun _ => continuation_lt (by omega) (by omega)
      · rename_i wide
        simp only [wide, ↓reduceIte] at same
        exact continuation_lt (by omega) fun _ =>
          continuation_lt (by omega) fun _ => continuation_lt (by omega) (by omega)

theorem encodeChar_lt {c d : Char} (less : c < d) (first second : Bytes) :
    encodeChar c ++ first < encodeChar d ++ second := by
  have number : c.toNat < d.toNat := less
  have bound := toNat_lt d
  rw [encodeChar_eq, encodeChar_eq, List.cons_append, List.cons_append]
  have left := lead_toNat (lead_lt (toNat_lt c))
  have right := lead_toNat (lead_lt bound)
  apply cons_lt
  · rw [left, right]
    exact lead_le (Nat.le_of_lt number)
  · intro same
    rw [left, right] at same
    exact tails_lt number bound same first second

theorem encodeChars_lt {first second : List Char} (less : first < second) :
    encodeChars first < encodeChars second := by
  induction less with
  | nil =>
      rw [encodeChars, encodeChars, List.flatMap_nil, List.flatMap_cons, encodeChar_eq]
      exact .nil
  | rel before => exact encodeChar_lt before _ _
  | @cons c first second _ ih =>
      rw [encodeChars, encodeChars, List.flatMap_cons, List.flatMap_cons]
      exact List.append_left_lt ih

theorem encode_lt {first second : String} (less : first < second) :
    encode first < encode second :=
  encodeChars_lt less

end TopicLog.Utf8
