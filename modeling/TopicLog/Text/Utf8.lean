/-!
Byte strings and UTF-8. Text is written with the fewest bytes a character takes, and reading accepts
exactly what writing produces: stray or missing continuation bytes, longer forms than needed,
surrogates and numbers past the last code point are no text. Arithmetic on code points is in `Nat`.
-/
namespace TopicLog

abbrev Bytes := List UInt8

namespace Utf8

def continuation (bits : Nat) : UInt8 := .ofNat (0x80 + bits % 0x40)

def encodeChar (c : Char) : Bytes :=
  let n := c.toNat
  if n < 0x80 then [.ofNat n]
  else if n < 0x800 then [.ofNat (0xC0 + n / 0x40), continuation n]
  else if n < 0x10000 then
    [.ofNat (0xE0 + n / 0x1000), continuation (n / 0x40), continuation n]
  else
    [.ofNat (0xF0 + n / 0x40000), continuation (n / 0x1000), continuation (n / 0x40),
      continuation n]

def encodeChars (chars : List Char) : Bytes := chars.flatMap encodeChar

def encode (text : String) : Bytes := encodeChars text.toList

/-- Extends a number by the bits of the next so many continuation bytes. -/
def gather : (tails : Nat) → (number : Nat) → Bytes → Option (Nat × Bytes)
  | 0, number, rest => some (number, rest)
  | tails + 1, number, b :: rest =>
      if 0x80 ≤ b.toNat ∧ b.toNat < 0xC0 then
        gather tails (number * 0x40 + (b.toNat - 0x80)) rest
      else none
  | _ + 1, _, [] => none

/-- The character whose number was gathered, if it needed all the bytes it took. -/
def scalar? (least : Nat) : Option (Nat × Bytes) → Option (Char × Bytes)
  | some (number, rest) =>
      if valid : least ≤ number ∧ number.isValidChar then
        some (Char.ofNatAux number valid.2, rest)
      else none
  | none => none

def decodeChar? : Bytes → Option (Char × Bytes)
  | [] => none
  | b :: rest =>
      let n := b.toNat
      if n < 0x80 then scalar? 0 (some (n, rest))
      else if n < 0xC0 then none
      else if n < 0xE0 then scalar? 0x80 (gather 1 (n - 0xC0) rest)
      else if n < 0xF0 then scalar? 0x800 (gather 2 (n - 0xE0) rest)
      else if n < 0xF8 then scalar? 0x10000 (gather 3 (n - 0xF0) rest)
      else none

theorem gather_length {tails number : Nat} {bytes rest : Bytes} {result : Nat}
    (gathered : gather tails number bytes = some (result, rest)) :
    rest.length ≤ bytes.length := by
  induction tails generalizing number bytes with
  | zero => simp_all [gather]
  | succ tails ih =>
      cases bytes with
      | nil => simp [gather] at gathered
      | cons b bytes =>
          simp only [gather] at gathered
          split at gathered
          · exact Nat.le_succ_of_le (ih gathered)
          · cases gathered

theorem scalar_rest {least : Nat} {found : Option (Nat × Bytes)} {c : Char} {rest : Bytes}
    (read : scalar? least found = some (c, rest)) :
    ∃ number, found = some (number, rest) := by
  cases found with
  | none => cases read
  | some pair =>
      obtain ⟨number, left⟩ := pair
      unfold scalar? at read
      dsimp only at read
      by_cases valid : least ≤ number ∧ number.isValidChar
      · rw [dif_pos valid] at read
        cases read
        exact ⟨number, rfl⟩
      · rw [dif_neg valid] at read
        cases read

theorem decodeChar_length {bytes rest : Bytes} {c : Char}
    (read : decodeChar? bytes = some (c, rest)) : rest.length < bytes.length := by
  cases bytes with
  | nil => simp [decodeChar?] at read
  | cons b bytes =>
      simp only [decodeChar?] at read
      split at read
      · obtain ⟨_, same⟩ := scalar_rest read
        cases same
        simp
      all_goals
        repeat' split at read
        all_goals first
          | contradiction
          | obtain ⟨_, same⟩ := scalar_rest read
            exact Nat.lt_succ_of_le (gather_length same)

/-- The characters of a byte string, or nothing if it is not UTF-8 throughout. -/
def decodeChars? (bytes : Bytes) : Option (List Char) :=
  match bytes with
  | [] => some []
  | b :: tail =>
      match _found : decodeChar? (b :: tail) with
      | some (c, rest) => (decodeChars? rest).map (c :: ·)
      | none => none
termination_by bytes.length
decreasing_by exact decodeChar_length ‹_›

def decode? (bytes : Bytes) : Option String := (decodeChars? bytes).map String.ofList

end Utf8
end TopicLog
