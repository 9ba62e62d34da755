import TopicLog.Row
import TopicLog.Proofs.MetadataGrammar

/-!
Parts of a JSON document. What a reader makes of the beginning of some bytes stands whatever follows
them, unless it asks for more. So what is written for metadata, cut anywhere, is refused as ended too
early, and anything but blanks after it is refused as well.
-/
namespace TopicLog.Json

/-! Readers that are steady. -/

/-- What was read stays read when more bytes follow, which are left over. What was refused stays
refused, unless the bytes were too few. -/
structure Steady {α : Type} (read : Bytes → Reading α) (bytes : Bytes) : Prop where
  reads : ∀ {value : α} {rest : Bytes}, read bytes = .ok (value, rest) → ∀ more,
    read (bytes ++ more) = .ok (value, rest ++ more)
  refuses : ∀ {fault : Fault}, read bytes = .error fault → fault ≠ .truncated → ∀ more,
    ∃ other, read (bytes ++ more) = .error other

section Rules

variable {α β : Type} {read : Bytes → Reading α} {bytes : Bytes}

theorem steady_short (short : read bytes = .error .truncated) : Steady read bytes where
  reads found := nomatch short.symm.trans found
  refuses refused early := absurd (Except.error.inj (refused.symm.trans short)) early

theorem steady_done {value : α} {rest : Bytes}
    (done : ∀ more, read (bytes ++ more) = .ok (value, rest ++ more)) : Steady read bytes := by
  have alone : read bytes = .ok (value, rest) := by simpa using done []
  constructor
  · intro _ _ found more
    cases alone.symm.trans found
    exact done more
  · intro _ refused
    cases alone.symm.trans refused

theorem steady_fault (refused : ∀ more, ∃ fault, read (bytes ++ more) = .error fault) :
    Steady read bytes := by
  obtain ⟨fault, alone⟩ := refused []
  rw [List.append_nil] at alone
  constructor
  · intro _ _ found
    cases alone.symm.trans found
  · intro _ _ _
    exact refused

theorem Steady.continued {next : Bytes → Reading α} {tail : Bytes} (steady : Steady next tail)
    (same : ∀ more, read (bytes ++ more) = next (tail ++ more)) : Steady read bytes := by
  have alone : read bytes = next tail := by simpa using same []
  constructor
  · intro _ _ found more
    rw [same]
    exact steady.reads (alone ▸ found) more
  · intro _ refused early more
    rw [same]
    exact steady.refuses (alone ▸ refused) early more

theorem Steady.bind {next : α → Bytes → Reading β} (steady : Steady read bytes)
    (later : ∀ value rest, read bytes = .ok (value, rest) → Steady (next value) rest) :
    Steady (fun bytes => (read bytes).bind fun found => next found.1 found.2) bytes := by
  cases first : read bytes with
  | error fault =>
      by_cases early : fault = .truncated
      · apply steady_short
        rw [first, early]
        rfl
      · apply steady_fault
        intro more
        obtain ⟨other, refused⟩ := steady.refuses first early more
        exact ⟨other, by rw [refused]; rfl⟩
  | ok found =>
      obtain ⟨value, rest⟩ := found
      apply (later value rest first).continued
      intro more
      rw [steady.reads first more]
      rfl

theorem Steady.map (steady : Steady read bytes) (change : α → β) :
    Steady (fun bytes => (read bytes).map fun found => (change found.1, found.2)) bytes := by
  have final : ∀ value rest, read bytes = .ok (value, rest) →
      Steady (fun rest => (.ok (change value, rest) : Reading β)) rest :=
    fun _ _ _ => steady_done fun _ => rfl
  apply (steady.bind final).continued
  intro more
  cases read (bytes ++ more) <;> rfl

/-- Where a reader with more bytes does not come to their end, it comes to no result without them. -/
theorem Steady.truncated (steady : Steady read bytes) {more rest : Bytes} {value : α}
    (whole : read (bytes ++ more) = .ok (value, rest)) (within : rest.length < more.length) :
    read bytes = .error .truncated := by
  cases first : read bytes with
  | error fault =>
      by_cases early : fault = .truncated
      · rw [early]
      · obtain ⟨other, refused⟩ := steady.refuses first early more
        cases refused.symm.trans whole
  | ok found =>
      obtain ⟨_, left⟩ := found
      cases (steady.reads first more).symm.trans whole
      rw [List.length_append] at within
      omega

end Rules

/-! Strings. -/

theorem steady_readUnit (bytes : Bytes) : Steady readUnit bytes := by
  rcases bytes with _ | ⟨a, _ | ⟨b, _ | ⟨c, _ | ⟨d, rest⟩⟩⟩⟩
  · exact steady_short rfl
  · exact steady_short rfl
  · exact steady_short rfl
  · exact steady_short rfl
  · cases found : unit? a b c d with
    | some unit =>
        have read : ∀ more, readUnit (a :: b :: c :: d :: rest ++ more) =
            .ok (unit, rest ++ more) := fun more => by simp [readUnit, found]
        exact steady_done read
    | none => exact steady_fault fun more => ⟨.malformed, by simp [readUnit, found]⟩

def afterTrailing (leading : Nat) (unit : Nat) (rest : Bytes) : Reading Char :=
  if 0xDC00 ≤ unit ∧ unit ≤ 0xDFFF then
    .ok (.ofNat (0x10000 + (leading - 0xD800) * 0x400 + (unit - 0xDC00)), rest)
  else .error .malformed

theorem steady_afterTrailing (leading unit : Nat) (rest : Bytes) :
    Steady (afterTrailing leading unit) rest := by
  by_cases low : 0xDC00 ≤ unit ∧ unit ≤ 0xDFFF
  · exact steady_done fun more => if_pos low
  · exact steady_fault fun more => ⟨.malformed, if_neg low⟩

theorem steady_readTrailing (leading : Nat) (bytes : Bytes) :
    Steady (readTrailing leading) bytes := by
  rcases bytes with _ | ⟨b, rest⟩
  · exact steady_short rfl
  · by_cases backslash : b = '\\'.toUInt8
    · rcases rest with _ | ⟨u, rest⟩
      · exact steady_short (by simp [readTrailing, backslash])
      · by_cases letter : u = 'u'.toUInt8
        · apply ((steady_readUnit rest).bind fun unit left _ =>
            steady_afterTrailing leading unit left).continued
          intro more
          simp only [List.cons_append, readTrailing, backslash, letter, ne_eq, not_true_eq_false,
            ↓reduceIte]
          cases readUnit (rest ++ more) <;> rfl
        · exact steady_fault fun more => ⟨.malformed, by simp [readTrailing, backslash, letter]⟩
    · exact steady_fault fun more => ⟨.malformed, by simp [readTrailing, backslash]⟩

theorem steady_readNumbered (bytes : Bytes) : Steady readNumbered bytes := by
  -- What the number stands for is settled by the number alone, or by the number after it.
  have second : ∀ unit rest, Steady (fun rest =>
      if 0xDC00 ≤ unit ∧ unit ≤ 0xDFFF then .error .malformed
      else if 0xD800 ≤ unit ∧ unit ≤ 0xDBFF then readTrailing unit rest
      else .ok (.ofNat unit, rest)) rest := by
    intro unit rest
    by_cases low : 0xDC00 ≤ unit ∧ unit ≤ 0xDFFF
    · exact steady_fault fun more => ⟨.malformed, if_pos low⟩
    · by_cases high : 0xD800 ≤ unit ∧ unit ≤ 0xDBFF
      · exact (steady_readTrailing unit rest).continued fun more => by
          rw [if_neg low, if_pos high]
      · exact steady_done fun more => by rw [if_neg low, if_neg high]
  apply ((steady_readUnit bytes).bind fun unit rest _ => second unit rest).continued
  intro more
  rw [readNumbered]
  cases readUnit (bytes ++ more) <;> rfl

theorem steady_readEscape (bytes : Bytes) : Steady readEscape bytes := by
  cases bytes with
  | nil => exact steady_short rfl
  | cons letter rest =>
      cases short : escaped? letter with
      | some c =>
          have read : ∀ more, readEscape (letter :: rest ++ more) = .ok (c, rest ++ more) :=
            fun more => by simp [readEscape, short]
          exact steady_done read
      | none =>
          by_cases numbered : letter = 'u'.toUInt8
          · apply (steady_readNumbered rest).continued
            intro more
            simp only [List.cons_append, readEscape, short, if_pos numbered]
          · exact steady_fault fun more => ⟨.malformed, by simp [readEscape, short, numbered]⟩

theorem Steady.after {bytes : Bytes} (steady : Steady readContents bytes) (first : Bytes) :
    Steady (fun bytes => (readContents bytes).after first) bytes := steady.map (first ++ ·)

theorem readContents_refused {tail : Bytes} {fault : Fault}
    (refused : readEscape tail = .error fault) :
    readContents ('\\'.toUInt8 :: tail) = .error fault := by
  rw [readContents, if_neg (by decide), if_pos rfl]
  split
  · rename_i found
    cases found.symm.trans refused
    rfl
  · rename_i found
    cases found.symm.trans refused

theorem steady_readContents (bytes : Bytes) : Steady readContents bytes := by
  induction size : bytes.length using Nat.strongRecOn generalizing bytes with
  | _ count ih =>
      cases bytes with
      | nil => exact steady_short (by rw [readContents])
      | cons b tail =>
          have shorter : tail.length < count := by rw [← size]; exact Nat.lt_succ_self _
          by_cases quote : b = '"'.toUInt8
          · have read : ∀ more, readContents (b :: tail ++ more) = .ok ([], tail ++ more) := by
              intro more
              rw [List.cons_append, readContents, if_pos quote]
            exact steady_done read
          · by_cases backslash : b = '\\'.toUInt8
            · subst backslash
              have escape := steady_readEscape tail
              cases found : readEscape tail with
              | ok pair =>
                  obtain ⟨c, rest⟩ := pair
                  have inside := Nat.lt_trans (readEscape_length found) shorter
                  apply ((ih _ inside rest rfl).after (Utf8.encodeChar c)).continued
                  intro more
                  exact readContents_escape (escape.reads found more)
              | error fault =>
                  by_cases early : fault = .truncated
                  · exact steady_short (readContents_refused (early ▸ found))
                  · apply steady_fault
                    intro more
                    obtain ⟨other, refused⟩ := escape.refuses found early more
                    exact ⟨other, readContents_refused refused⟩
            · by_cases control : b.toNat < 0x20
              · exact steady_fault fun more => ⟨.malformed, by
                  rw [List.cons_append, readContents, if_neg quote, if_neg backslash,
                    if_pos control]⟩
              · have plain : IsPlain b := ⟨quote, backslash, control⟩
                apply ((ih _ shorter tail rfl).after [b]).continued
                intro more
                exact readContents_plain (List.forall_mem_singleton.mpr plain) (tail ++ more)

theorem steady_readString (bytes : Bytes) : Steady readString bytes := by
  have decoded : ∀ contents rest, Steady (fun rest =>
      (Utf8.decode? contents).elim (.error .malformed) fun text => .ok (text, rest)) rest := by
    intro contents rest
    cases Utf8.decode? contents with
    | some text => exact steady_done fun more => rfl
    | none => exact steady_fault fun more => ⟨.malformed, rfl⟩
  apply ((steady_readContents bytes).bind fun contents rest _ => decoded contents rest).continued
  intro more
  rw [readString]
  cases readContents (bytes ++ more) with
  | error fault => rfl
  | ok found =>
      simp only [Except.bind]
      cases Utf8.decode? found.1 <;> rfl

/-! Members of an object. -/

theorem skipBlanks_more {bytes rest : Bytes} {b : UInt8} (next : skipBlanks bytes = b :: rest)
    (more : Bytes) : skipBlanks (bytes ++ more) = b :: (rest ++ more) := by
  have before : (bytes ++ more).dropWhile isBlankByte = bytes.dropWhile isBlankByte ++ more := by
    rw [List.dropWhile_append, if_neg]
    rw [← skipBlanks, next]
    simp
  rw [skipBlanks, before, ← skipBlanks, next, List.cons_append]

theorem steady_blanks {α : Type} {read : Bytes → Reading α} {bytes : Bytes}
    (short : skipBlanks bytes = [] → read bytes = .error .truncated)
    (solid : ∀ b rest, skipBlanks bytes = b :: rest → Steady read bytes) : Steady read bytes := by
  cases next : skipBlanks bytes with
  | nil => exact steady_short (short next)
  | cons b rest => exact solid b rest next

theorem steady_readText (bytes : Bytes) : Steady readText bytes := by
  apply steady_blanks
  · intro none
    rw [readText, none]
  · intro b rest next
    by_cases quote : b = '"'.toUInt8
    · apply (steady_readString rest).continued
      intro more
      simp only [readText, skipBlanks_more next, if_pos quote]
    · exact steady_fault fun more =>
        ⟨mismatch (b :: (rest ++ more)), by simp only [readText, skipBlanks_more next, if_neg quote]⟩

theorem steady_readColon (bytes : Bytes) :
    Steady (fun bytes => (readColon bytes).map ((), ·)) bytes := by
  apply steady_blanks
  · intro none
    simp only [readColon, none, Except.map]
  · intro b rest next
    by_cases colon : b = ':'.toUInt8
    · have read : ∀ more, (readColon (bytes ++ more)).map ((), ·) = .ok ((), rest ++ more) := by
        intro more
        simp only [readColon, skipBlanks_more next, if_pos colon, Except.map]
      exact steady_done read
    · exact steady_fault fun more =>
        ⟨.malformed, by simp only [readColon, skipBlanks_more next, if_neg colon, Except.map]⟩

theorem readColon_shorter {bytes rest : Bytes}
    (read : (readColon bytes).map ((), ·) = .ok ((), rest)) : rest.length < bytes.length := by
  cases found : readColon bytes with
  | error fault =>
      rw [found] at read
      cases read
  | ok after =>
      rw [found] at read
      cases read
      exact readColon_length found

theorem steady_key (bytes : Bytes) :
    Steady (fun bytes => (readString bytes).map fun (key, rest) => (some key, rest)) bytes :=
  (steady_readString bytes).map some

theorem nextKey_closed (first : Bool) {bytes rest : Bytes}
    (next : skipBlanks bytes = '\x7d'.toUInt8 :: rest) :
    nextKey first bytes = .ok (none, rest) := by
  rw [nextKey, next]
  rfl

def laterKey (bytes : Bytes) : Reading (Option String) :=
  match skipBlanks bytes with
  | [] => .error .truncated
  | c :: rest =>
      if c = '"'.toUInt8 then (readString rest).map fun (key, rest) => (some key, rest)
      else .error .malformed

theorem steady_laterKey (bytes : Bytes) : Steady laterKey bytes := by
  apply steady_blanks
  · intro none
    simp only [laterKey, none]
  · intro c rest next
    by_cases quote : c = '"'.toUInt8
    · apply (steady_key rest).continued
      intro more
      simp only [laterKey, skipBlanks_more next, if_pos quote]
    · exact steady_fault fun more =>
        ⟨.malformed, by simp only [laterKey, skipBlanks_more next, if_neg quote]⟩

theorem steady_nextKey (first : Bool) (bytes : Bytes) : Steady (nextKey first) bytes := by
  apply steady_blanks
  · intro none
    rw [nextKey, none]
  · intro b rest next
    by_cases brace : b = '\x7d'.toUInt8
    · subst brace
      exact steady_done fun more => nextKey_closed first (skipBlanks_more next more)
    · cases first with
      | true =>
          by_cases quote : b = '"'.toUInt8
          · apply (steady_key rest).continued
            intro more
            simp only [nextKey, skipBlanks_more next, if_neg brace, ↓reduceIte, if_pos quote]
          · exact steady_fault fun more => ⟨.malformed, by
              simp only [nextKey, skipBlanks_more next, if_neg brace, ↓reduceIte, if_neg quote]⟩
      | false =>
          by_cases comma : b = ','.toUInt8
          · apply (steady_laterKey rest).continued
            intro more
            simp only [nextKey, skipBlanks_more next, if_neg brace, Bool.false_eq_true, ↓reduceIte,
              if_pos comma]
            rfl
          · exact steady_fault fun more => ⟨.malformed, by
              simp only [nextKey, skipBlanks_more next, if_neg brace, Bool.false_eq_true,
                ↓reduceIte, if_neg comma]⟩

end TopicLog.Json

namespace TopicLog.Metadata
open Json

def afterKey (metadata : Metadata) : Option String → Bytes → Reading Metadata
  | none, rest => .ok (metadata, rest)
  | some key, rest =>
      ((readColon rest).map ((), ·)).bind fun found =>
        (readText found.2).bind fun found => readMembers false (metadata.insert key found.1) found.2

theorem readMembers_eq (first : Bool) (metadata : Metadata) (bytes : Bytes) :
    readMembers first metadata bytes =
      (nextKey first bytes).bind fun found => metadata.afterKey found.1 found.2 := by
  rw [readMembers_step]
  rcases nextKey first bytes with fault | ⟨_ | key, rest⟩
  · rfl
  · rfl
  · simp only [Except.bind, afterKey]
    rcases readColon rest with fault | after
    · rfl
    · simp only [Except.map]
      rcases readText after with fault | ⟨value, last⟩ <;> rfl

theorem steady_readMembers (first : Bool) (metadata : Metadata) (bytes : Bytes) :
    Steady (readMembers first metadata) bytes := by
  -- Each member is shorter than what was left before it, so the induction is on the bytes left.
  induction size : bytes.length using Nat.strongRecOn generalizing first metadata bytes with
  | _ count ih =>
      have members : ∀ key rest, nextKey first bytes = .ok (key, rest) →
          Steady (metadata.afterKey key) rest := by
        intro key rest next
        have afterKey := nextKey_length next
        cases key with
        | none => exact steady_done fun more => rfl
        | some key =>
            have value : ∀ after, after.length < rest.length → Steady (fun after =>
                (readText after).bind fun found =>
                  readMembers false (metadata.insert key found.1) found.2) after := by
              intro after afterColon
              have later : ∀ value last, readText after = .ok (value, last) →
                  Steady (readMembers false (metadata.insert key value)) last := by
                intro value last text
                have afterValue := readText_length text
                exact ih _ (by omega) false (metadata.insert key value) last rfl
              exact (steady_readText after).bind later
            have member := (steady_readColon rest).bind fun (_ : Unit) after colon =>
              value after (readColon_shorter colon)
            exact member.continued fun more => rfl
      apply ((steady_nextKey first bytes).bind members).continued
      exact fun more => readMembers_eq first metadata (bytes ++ more)

theorem steady_readObject (bytes : Bytes) : Steady readObject bytes := by
  apply steady_blanks
  · intro none
    rw [readObject, none]
  · intro b rest next
    by_cases brace : b = '\x7b'.toUInt8
    · apply (steady_readMembers true empty rest).continued
      intro more
      simp only [readObject, skipBlanks_more next, if_pos brace]
    · exact steady_fault fun more => ⟨mismatch (b :: (rest ++ more)), by
        simp only [readObject, skipBlanks_more next, if_neg brace]⟩

/-! Metadata as they are written. -/

theorem ofJson_cut {metadata : Metadata} {part missing : Bytes}
    (whole : metadata.toJson = part ++ missing) (cut : missing ≠ []) :
    ofJson part = .error .truncated := by
  have read : readObject (part ++ missing) = .ok (metadata, []) := whole ▸ readObject_written metadata
  have short := (steady_readObject part).truncated read (List.length_pos_iff.mpr cut)
  rw [ofJson, document, short]

theorem readObject_extended (metadata : Metadata) (extra : Bytes) :
    readObject (metadata.toJson ++ extra) = .ok (metadata, extra) := by
  have steady := steady_readObject metadata.toJson
  simpa using steady.reads (readObject_written metadata) extra

theorem ofJson_blanks (metadata : Metadata) {extra : Bytes} (blank : Blanks extra) :
    ofJson (metadata.toJson ++ extra) = .ok metadata :=
  document_eq_ok_iff.mpr ⟨extra, readObject_extended metadata extra, blank⟩

theorem ofJson_extended (metadata : Metadata) {extra : Bytes} (solid : ¬ Blanks extra) :
    ofJson (metadata.toJson ++ extra) = .error .malformed := by
  rw [ofJson, document, readObject_extended]
  cases left : skipBlanks extra with
  | nil => exact absurd (skipBlanks_eq_nil_iff.mp left) solid
  | cons b rest => simp only [left]

/-- A row whose columns can be read, the bytes of its metadata included. -/
structure Legible (row : Row) (offset : Int) (bytes : Bytes) : Prop where
  offset : row.int 0 = .ok offset
  uuid : ∃ uuid, row.text 1 = .ok uuid
  createdAt : ∃ text moment, row.text 2 = .ok text ∧ Timestamp.ofText? text = some moment
  payload : ∃ payload, row.blob 3 = .ok payload
  metadata : row.blob 4 = .ok (some bytes)

theorem Legible.delivery {row : Row} {offset : Int} {bytes : Bytes} {codec : Codec} {cause : Cause}
    (legible : Legible row offset bytes) (refused : codec.decode bytes = .error cause) :
    row.delivery codec =
      .error (.decode (some offset) "could not decode metadata" (some cause)) := by
  obtain ⟨uuid, identified⟩ := legible.uuid
  obtain ⟨text, moment, timed, read⟩ := legible.createdAt
  obtain ⟨payload, carried⟩ := legible.payload
  simp only [Row.delivery, legible.offset, identified, timed, carried, legible.metadata,
    Row.createdAt, read, Row.metadata, refused, bind, Except.bind]

/-- What is written for metadata and cut short, at whatever byte, is refused as ended too early, by
which the row it stands in is no delivery. Blanks may follow what is written, and nothing else. -/
theorem json_cuts_and_extensions_detected (metadata : Metadata) :
    ∃ bytes, Codec.json.encode metadata = .ok bytes ∧
      (∀ part missing, bytes = part ++ missing → missing ≠ [] →
        Codec.json.decode part = .error (.json .truncated) ∧
        ∀ row offset, Legible row offset part → row.delivery .json =
          .error (.decode (some offset) "could not decode metadata" (some (.json .truncated)))) ∧
      ∀ extra, (Blanks extra → Codec.json.decode (bytes ++ extra) = .ok metadata) ∧
        (¬ Blanks extra → Codec.json.decode (bytes ++ extra) = .error (.json .malformed)) := by
  have decoded : ∀ bytes, Codec.json.decode bytes = (ofJson bytes).mapError .json := fun _ => rfl
  refine ⟨metadata.toJson, rfl, ?_, ?_⟩
  · intro part missing whole cut
    have refused : Codec.json.decode part = .error (.json .truncated) := by
      rw [decoded, ofJson_cut whole cut]
      rfl
    exact ⟨refused, fun row offset legible => legible.delivery refused⟩
  · intro extra
    constructor
    · intro blank
      rw [decoded, ofJson_blanks metadata blank]
      rfl
    · intro solid
      rw [decoded, ofJson_extended metadata solid]
      rfl

theorem json_cuts_and_extensions_detected_accent :
    let metadata := ofList [("k", "é")]
    let part := Utf8.encode "\x7b\"k\":\"" ++ [0xC3]
    let missing := 0xA9 :: Utf8.encode "\"\x7d"
    let row := Row.ofValues
      [.int 7, .text "id-7", .text "2024-01-02 03:04:05", .null, .blob part]
    Codec.json.encode metadata = .ok (part ++ missing) ∧ missing ≠ [] ∧ Legible row 7 part ∧
      row.delivery .json =
        .error (.decode (some 7) "could not decode metadata" (some (.json .truncated))) ∧
      Blanks [0x0A] ∧ Codec.json.decode (part ++ missing ++ [0x0A]) = .ok metadata ∧
      ¬ Blanks [0x2C] ∧
      Codec.json.decode (part ++ missing ++ [0x2C]) = .error (.json .malformed) := by
  intro metadata part missing row
  have written : Codec.json.encode metadata = .ok (part ++ missing) := by decide +kernel
  have legible : Legible row 7 part :=
    ⟨rfl, ⟨_, rfl⟩, ⟨_, ⟨⟨2024, 1, 2, by decide⟩, 3, 4, 5, 0, by decide⟩, rfl, by decide +kernel⟩,
      ⟨_, rfl⟩, rfl⟩
  obtain ⟨bytes, encoded, cuts, extensions⟩ := json_cuts_and_extensions_detected metadata
  cases written.symm.trans encoded
  have lineFeed : Blanks [0x0A] := by simp [Blanks]
  have comma : ¬ Blanks [0x2C] := by simp [Blanks]
  have cut : missing ≠ [] := List.cons_ne_nil _ _
  exact ⟨written, cut, legible, (cuts part missing rfl cut).2 row 7 legible, lineFeed,
    (extensions [0x0A]).1 lineFeed, comma, (extensions [0x2C]).2 comma⟩

end TopicLog.Metadata
