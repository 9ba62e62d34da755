import TopicLog.Metadata.Json
import TopicLog.Proofs.Utf8

/-!
Metadata written as JSON are read back as they were: every key and value, whichever characters they
are made of, and no entry more or less. Reading a string undoes the writer's escapes one by one and
decodes the whole at its closing quote; reading an object puts each member at its place, which for
ascending keys is the end.
-/
namespace TopicLog.Json

/-! Strings. -/

def IsPlain (b : UInt8) : Prop :=
  b ≠ '"'.toUInt8 ∧ b ≠ '\\'.toUInt8 ∧ ¬ b.toNat < 0x20

theorem isPlain_of_tail {b : UInt8} (high : 0x80 ≤ b.toNat) : IsPlain b := by
  have quote : '"'.toUInt8.toNat = 0x22 := rfl
  have backslash : '\\'.toUInt8.toNat = 0x5C := rfl
  refine ⟨?_, ?_, by omega⟩
  · rintro rfl
    omega
  · rintro rfl
    omega

/-- Only a quote, a backslash and the controls have bytes that are not plain. -/
theorem isPlain_encodeChar {c : Char} (quote : c ≠ '"') (backslash : c ≠ '\\')
    (printable : ¬ c.toNat < 0x20) {b : UInt8} (member : b ∈ Utf8.encodeChar c) : IsPlain b := by
  have bound := Utf8.toNat_lt c
  have tails : ∀ bits, IsPlain (Utf8.continuation bits) := fun bits =>
    isPlain_of_tail (by rw [Utf8.continuation_toNat]; omega)
  have leads : ∀ number, 0x80 ≤ number → number < 0x100 → IsPlain (.ofNat number) :=
    fun number high small => isPlain_of_tail (by rw [Utf8.lead_toNat small]; exact high)
  by_cases one : c.toNat < 0x80
  · simp only [Utf8.encodeChar, one, ↓reduceIte, List.mem_singleton] at member
    have same : b.toNat = c.toNat := by rw [member, Utf8.lead_toNat (by omega)]
    refine ⟨?_, ?_, by omega⟩
    · rintro rfl
      exact quote (Char.ext (UInt32.toNat_inj.mp same.symm))
    · rintro rfl
      exact backslash (Char.ext (UInt32.toNat_inj.mp same.symm))
  · simp only [Utf8.encodeChar, one, ↓reduceIte] at member
    split at member
    · simp only [List.mem_cons, List.not_mem_nil, or_false] at member
      rcases member with rfl | rfl
      · exact leads _ (by omega) (by omega)
      · exact tails _
    · split at member
      · simp only [List.mem_cons, List.not_mem_nil, or_false] at member
        rcases member with rfl | rfl | rfl
        · exact leads _ (by omega) (by omega)
        · exact tails _
        · exact tails _
      · simp only [List.mem_cons, List.not_mem_nil, or_false] at member
        rcases member with rfl | rfl | rfl | rfl
        · exact leads _ (by omega) (by omega)
        · exact tails _
        · exact tails _
        · exact tails _

/-- What reading gives once some bytes of the contents are known. -/
def Reading.after (read : Bytes) (remaining : Reading Bytes) : Reading Bytes :=
  remaining.map fun (contents, rest) => (read ++ contents, rest)

theorem Reading.after_append (first second : Bytes) (remaining : Reading Bytes) :
    (remaining.after second).after first = remaining.after (first ++ second) := by
  cases remaining with
  | error fault => rfl
  | ok pair => simp only [Reading.after, Except.map, List.append_assoc]

theorem readContents_plain {bytes : Bytes} (plain : ∀ b ∈ bytes, IsPlain b) (rest : Bytes) :
    readContents (bytes ++ rest) = (readContents rest).after bytes := by
  induction bytes with
  | nil =>
      rw [List.nil_append]
      cases readContents rest with
      | error fault => rfl
      | ok pair => rfl
  | cons b bytes ih =>
      have ⟨quote, backslash, printable⟩ := plain b List.mem_cons_self
      have later := ih fun c member => plain c (List.mem_cons_of_mem b member)
      rw [List.cons_append, readContents, if_neg quote, if_neg backslash, if_neg printable, later]
      exact (readContents rest).after_append [b] bytes

theorem readContents_escape {tail rest : Bytes} {c : Char}
    (escape : readEscape tail = .ok (c, rest)) :
    readContents ('\\'.toUInt8 :: tail) = (readContents rest).after (Utf8.encodeChar c) := by
  rw [readContents, if_neg (by decide), if_pos rfl]
  split
  · rename_i found
    rw [escape] at found
    cases found
  · rename_i found
    rw [escape] at found
    cases found
    rfl

theorem escaped_of_shortEscape {c : Char} {letter : UInt8}
    (short : shortEscape? c = some letter) : escaped? letter = some c := by
  simp only [shortEscape?] at short
  repeat' split at short
  all_goals first
    | contradiction
    | subst_vars
      cases short
      rfl

theorem hexValue_hexDigit {n : Nat} (digit : n < 16) : hexValue? (hexDigit n) = some n := by
  have : ∀ n : Fin 16, hexValue? (hexDigit n) = some n.val := by decide
  exact this ⟨n, digit⟩

theorem readEscape_control {c : Char} (control : c.toNat < 0x20) (rest : Bytes) :
    readEscape ('u'.toUInt8 :: '0'.toUInt8 :: '0'.toUInt8 :: hexDigit (c.toNat / 16) ::
      hexDigit (c.toNat % 16) :: rest) = .ok (c, rest) := by
  have unit : unit? '0'.toUInt8 '0'.toUInt8 (hexDigit (c.toNat / 16)) (hexDigit (c.toNat % 16)) =
      some c.toNat := by
    have zero : hexValue? '0'.toUInt8 = some 0 := rfl
    have high : hexValue? (hexDigit (c.toNat / 16)) = some (c.toNat / 16) :=
      hexValue_hexDigit (by omega)
    have low : hexValue? (hexDigit (c.toNat % 16)) = some (c.toNat % 16) :=
      hexValue_hexDigit (by omega)
    have sum : ((0 * 16 + 0) * 16 + c.toNat / 16) * 16 + c.toNat % 16 = c.toNat := by omega
    rw [unit?, zero, high, low]
    exact congrArg some sum
  have letter : escaped? 'u'.toUInt8 = none := rfl
  rw [readEscape, letter]
  simp only [↓reduceIte, readNumbered, readUnit, unit]
  rw [if_neg (by omega), if_neg (by omega), Char.ofNat_toNat]

theorem readContents_writeChar (c : Char) (rest : Bytes) :
    readContents (writeChar c ++ rest) = (readContents rest).after (Utf8.encodeChar c) := by
  cases short : shortEscape? c with
  | some letter =>
      have escape : readEscape (letter :: rest) = .ok (c, rest) := by
        rw [readEscape, escaped_of_shortEscape short]
      simp only [writeChar, short, List.cons_append, List.nil_append]
      exact readContents_escape escape
  | none =>
      by_cases control : c.toNat < 0x20
      · simp only [writeChar, short, control, ↓reduceIte, List.cons_append, List.nil_append]
        exact readContents_escape (readEscape_control control rest)
      · have quote : c ≠ '"' := by
          rintro rfl
          cases short
        have backslash : c ≠ '\\' := by
          rintro rfl
          cases short
        simp only [writeChar, short, control, ↓reduceIte]
        exact readContents_plain (fun b member => isPlain_encodeChar quote backslash control member)
          rest

theorem readContents_written (chars : List Char) (rest : Bytes) :
    readContents (chars.flatMap writeChar ++ '"'.toUInt8 :: rest) =
      .ok (Utf8.encodeChars chars, rest) := by
  induction chars with
  | nil => rw [List.flatMap_nil, List.nil_append, readContents, if_pos rfl]; rfl
  | cons c chars ih =>
      rw [List.flatMap_cons, List.append_assoc, readContents_writeChar, ih]
      rfl

theorem readString_written (text : String) (rest : Bytes) :
    readString (text.toList.flatMap writeChar ++ '"'.toUInt8 :: rest) = .ok (text, rest) := by
  have decoded : Utf8.decode? (Utf8.encodeChars text.toList) = some text := Utf8.decode_encode text
  rw [readString, readContents_written]
  simp only [decoded]

/-! Members of an object. -/

theorem skipBlanks_cons {b : UInt8} (solid : isBlankByte b = false) (rest : Bytes) :
    skipBlanks (b :: rest) = b :: rest := by
  rw [skipBlanks, List.dropWhile_cons_of_neg (by simp [solid])]

theorem writeText_append (text : String) (rest : Bytes) :
    writeText text ++ rest =
      '"'.toUInt8 :: (text.toList.flatMap writeChar ++ '"'.toUInt8 :: rest) := by
  simp only [writeText, List.cons_append, List.append_assoc, List.nil_append]

theorem readText_written (text : String) (rest : Bytes) :
    readText (writeText text ++ rest) = .ok (text, rest) := by
  rw [writeText_append, readText, skipBlanks_cons (by decide)]
  exact readString_written text rest

theorem readColon_written (rest : Bytes) : readColon (':'.toUInt8 :: rest) = .ok rest := by
  rw [readColon, skipBlanks_cons (by decide)]
  rfl

theorem nextKey_end (first : Bool) (rest : Bytes) :
    nextKey first ('\x7d'.toUInt8 :: rest) = .ok (none, rest) := by
  rw [nextKey, skipBlanks_cons (by decide)]
  rfl

theorem nextKey_first (key : String) (rest : Bytes) :
    nextKey true (writeText key ++ rest) = .ok (some key, rest) := by
  have read := readString_written key rest
  rw [writeText_append, nextKey, skipBlanks_cons (by decide)]
  simp only [if_neg (show '"'.toUInt8 ≠ '\x7d'.toUInt8 by decide), ↓reduceIte, read]
  rfl

theorem nextKey_later (key : String) (rest : Bytes) :
    nextKey false (','.toUInt8 :: (writeText key ++ rest)) = .ok (some key, rest) := by
  have read := readString_written key rest
  rw [writeText_append, nextKey, skipBlanks_cons (by decide)]
  simp only [if_neg (show ','.toUInt8 ≠ '\x7d'.toUInt8 by decide), Bool.false_eq_true, ↓reduceIte,
    skipBlanks_cons (show isBlankByte '"'.toUInt8 = false by decide), read]
  rfl

end TopicLog.Json

namespace TopicLog.Metadata

/-! Objects. -/

theorem place_last {key value : String} {entries : List (String × String)}
    (last : ∀ entry ∈ entries, entry.1 < key) :
    place key value entries = entries ++ [(key, value)] := by
  induction entries with
  | nil => rfl
  | cons entry rest ih =>
      have before : entry.1 < key := last entry List.mem_cons_self
      have later := ih fun other member => last other (List.mem_cons_of_mem entry member)
      rw [place, if_neg (String.lt_asymm before), if_pos before, later, List.cons_append]

def writeRest (entries : List (String × String)) : Bytes :=
  entries.flatMap (fun entry => ','.toUInt8 :: writeEntry entry) ++ ['\x7d'.toUInt8]

theorem writeEntries_append (entry : String × String) (rest : List (String × String)) :
    writeEntries (entry :: rest) ++ ['\x7d'.toUInt8] = writeEntry entry ++ writeRest rest := by
  induction rest generalizing entry with
  | nil => rfl
  | cons next rest ih =>
      have later := ih next
      simp only [writeEntries, List.append_assoc, List.cons_append] at later ⊢
      rw [later]
      simp only [writeRest, List.flatMap_cons, List.cons_append, List.append_assoc]

/-- What becomes of the members of an object, without the lengths by which their reading ends. -/
theorem readMembers_step (first : Bool) (metadata : Metadata) (bytes : Bytes) :
    readMembers first metadata bytes =
      match Json.nextKey first bytes with
      | .error fault => .error fault
      | .ok (none, rest) => .ok (metadata, rest)
      | .ok (some key, rest) =>
          match Json.readColon rest with
          | .error fault => .error fault
          | .ok rest =>
              match Json.readText rest with
              | .error fault => .error fault
              | .ok (value, rest) => readMembers false (metadata.insert key value) rest := by
  rw [readMembers]
  repeat' split
  all_goals simp_all

theorem readMembers_member {first : Bool} {key value : String} {bytes rest : Bytes}
    (next : Json.nextKey first bytes =
      .ok (some key, ':'.toUInt8 :: (Json.writeText value ++ rest))) (metadata : Metadata) :
    readMembers first metadata bytes = readMembers false (metadata.insert key value) rest := by
  have colon := Json.readColon_written (Json.writeText value ++ rest)
  have text := Json.readText_written value rest
  rw [readMembers_step]
  simp only [next, colon, text]

theorem readMembers_end (first : Bool) (metadata : Metadata) (rest : Bytes) :
    readMembers first metadata ('\x7d'.toUInt8 :: rest) = .ok (metadata, rest) := by
  rw [readMembers_step, Json.nextKey_end]

theorem insert_next {metadata whole : Metadata} {entry : String × String}
    {rest : List (String × String)} (made : whole.entries = metadata.entries ++ entry :: rest) :
    (metadata.insert entry.1 entry.2).entries = metadata.entries ++ [entry] := by
  have ascending := whole.ascending
  rw [made] at ascending
  exact place_last fun old member =>
    (List.pairwise_append.mp ascending).2.2 old member entry List.mem_cons_self

theorem readMembers_rest {rest : List (String × String)} {metadata whole : Metadata}
    (made : whole.entries = metadata.entries ++ rest) :
    readMembers false metadata (writeRest rest) = .ok (whole, []) := by
  -- The entries that were read so far are a beginning of all, and each further one goes to their end.
  induction rest generalizing metadata with
  | nil =>
      have same : metadata = whole := by
        cases metadata
        cases whole
        simp_all
      rw [same]
      exact readMembers_end false whole []
  | cons entry rest ih =>
      have member := readMembers_member (Json.nextKey_later entry.1
        (':'.toUInt8 :: (Json.writeText entry.2 ++ writeRest rest))) metadata
      have later : whole.entries = (metadata.insert entry.1 entry.2).entries ++ rest := by
        rw [insert_next made, made, List.append_assoc, List.singleton_append]
      simp only [writeRest, List.flatMap_cons, writeEntry, List.cons_append, List.append_assoc]
        at member ⊢
      rw [member]
      exact ih later

theorem readObject_written (metadata : Metadata) :
    readObject metadata.toJson = .ok (metadata, []) := by
  cases made : metadata.entries with
  | nil =>
      have same : metadata = empty := by
        cases metadata
        simp_all [empty]
      rw [same]
      exact readMembers_end true empty []
  | cons entry rest =>
      have member := readMembers_member (Json.nextKey_first entry.1
        (':'.toUInt8 :: (Json.writeText entry.2 ++ writeRest rest))) empty
      have later : metadata.entries = (empty.insert entry.1 entry.2).entries ++ rest := made
      rw [toJson, made, writeEntries_append, readObject, Json.skipBlanks_cons (by decide)]
      simp only [writeEntry, List.append_assoc, List.cons_append, ↓reduceIte]
      rw [member]
      exact readMembers_rest later

theorem ofJson_toJson (metadata : Metadata) : ofJson metadata.toJson = .ok metadata := by
  rw [ofJson, Json.document, readObject_written]
  rfl

end TopicLog.Metadata
