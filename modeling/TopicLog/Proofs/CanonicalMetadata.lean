import TopicLog.Message
import TopicLog.Proofs.MetadataGrammar
import TopicLog.Proofs.Utf8Order

/-!
The usual codec writes metadata in one way only: as UTF-8, as an object whose members are the entries
in ascending byte order of their keys. Metadata are read back as they were, so messages have equal bytes
exactly if each key was given the same value last, and writing what was read of any spelling does not
change what it is read as.
-/
namespace TopicLog.Utf8

/-! Bytes that are some text. -/

def IsText (bytes : Bytes) : Prop := ∃ chars, bytes = encodeChars chars

theorem isText_nil : IsText [] := ⟨[], rfl⟩

theorem isText_append {first second : Bytes} : IsText first → IsText second →
    IsText (first ++ second) := by
  rintro ⟨left, rfl⟩ ⟨right, rfl⟩
  exact ⟨left ++ right, List.flatMap_append.symm⟩

theorem isText_encodeChar (c : Char) : IsText (encodeChar c) :=
  ⟨[c], (List.flatMap_singleton encodeChar c).symm⟩

theorem isText_ascii {bytes : Bytes} (ascii : ∀ b ∈ bytes, b.toNat < 0x80) : IsText bytes := by
  induction bytes with
  | nil => exact isText_nil
  | cons b rest ih =>
      have small := ascii b List.mem_cons_self
      have later := ih fun other member => ascii other (List.mem_cons_of_mem b member)
      have value : (Char.ofNat b.toNat).toNat = b.toNat :=
        Json.toNat_ofNat (.inl (Nat.lt_trans small (by decide)))
      have single : encodeChar (.ofNat b.toNat) = [b] := by
        rw [encodeChar, value, if_pos small, UInt8.ofNat_toNat]
      exact isText_append (single ▸ isText_encodeChar _) later

theorem isText_mark {mark : Char} (ascii : mark.toUInt8.toNat < 0x80) : IsText [mark.toUInt8] := by
  apply isText_ascii
  simpa using ascii

theorem isText_flatMap {α : Type} {items : List α} {write : α → Bytes}
    (texts : ∀ item, IsText (write item)) : IsText (items.flatMap write) := by
  induction items with
  | nil => exact isText_nil
  | cons item rest ih =>
      rw [List.flatMap_cons]
      exact isText_append (texts item) ih

theorem decode_of_isText {bytes : Bytes} : IsText bytes → ∃ text, decode? bytes = some text := by
  rintro ⟨chars, rfl⟩
  rw [decode?, decodeChars_encodeChars]
  exact ⟨_, rfl⟩

end TopicLog.Utf8

namespace TopicLog.Json

/-! What is written for a string. -/

theorem hexDigit_ascii {n : Nat} (digit : n < 16) : (hexDigit n).toNat < 0x80 := by
  have : ∀ n : Fin 16, (hexDigit n).toNat < 0x80 := by decide
  exact this ⟨n, digit⟩

theorem isText_writeChar (c : Char) : Utf8.IsText (writeChar c) := by
  cases short : shortEscape? c with
  | some letter =>
      simp only [writeChar, short]
      obtain ⟨name, escape, rfl⟩ := mem_of_escaped (escaped_of_shortEscape short)
      have ascii : ∀ pair ∈ shortEscapes, pair.1.toUInt8.toNat < 0x80 := by decide
      apply Utf8.isText_ascii
      simp only [List.forall_mem_cons]
      exact ⟨by decide, ascii _ escape, by simp⟩
  | none =>
      simp only [writeChar, short]
      -- Control characters are escaped by their number, all others are written as they are.
      split
      · apply Utf8.isText_ascii
        simp only [List.forall_mem_cons]
        exact ⟨by decide, by decide, by decide, by decide, hexDigit_ascii (by omega),
          hexDigit_ascii (by omega), by simp⟩
      · exact Utf8.isText_encodeChar c

theorem isText_writeText (text : String) : Utf8.IsText (writeText text) := by
  have mark : Utf8.IsText ['"'.toUInt8] := Utf8.isText_mark (by decide)
  have contents : Utf8.IsText (text.toList.flatMap writeChar) :=
    Utf8.isText_flatMap isText_writeChar
  exact Utf8.isText_append mark (Utf8.isText_append contents mark)

theorem quoted_writeText (text : String) : Quoted text (writeText text) := by
  have ⟨quoted, spelled, same⟩ := readString_eq_ok_iff.mp (readString_written text [])
  have written : writeText text = quoted := same.trans (List.append_nil quoted)
  exact written ▸ spelled

theorem mark_plain (mark : Char) : Mark mark [mark.toUInt8] := by
  have none : Blanks [] := by simp [Blanks]
  exact .blanks none none

end TopicLog.Json

namespace TopicLog.Metadata
open Json

/-! What is written for metadata. -/

theorem member_writeEntry (entry : String × String) : Member entry (writeEntry entry) := by
  have member := Member.pair (quoted_writeText entry.1) (mark_plain ':') (quoted_writeText entry.2)
  rwa [List.append_assoc, List.singleton_append] at member

theorem further_written (entries : List (String × String)) :
    Further entries (entries.flatMap fun entry => ','.toUInt8 :: writeEntry entry) := by
  induction entries with
  | nil => exact .none
  | cons entry rest ih => exact .more (mark_plain ',') (member_writeEntry entry) ih

theorem object_toJson (metadata : Metadata) : Object metadata.entries metadata.toJson := by
  rw [toJson]
  cases metadata.entries with
  | nil => exact .empty (mark_plain '\x7b') (mark_plain '\x7d')
  | cons entry rest =>
      rw [writeEntries_append, writeRest, ← List.append_assoc]
      exact .members (mark_plain '\x7b') (member_writeEntry entry) (further_written rest)
        (mark_plain '\x7d')

theorem isText_writeEntry (entry : String × String) : Utf8.IsText (writeEntry entry) := by
  have colon : Utf8.IsText [':'.toUInt8] := Utf8.isText_mark (by decide)
  exact Utf8.isText_append (isText_writeText entry.1)
    (Utf8.isText_append colon (isText_writeText entry.2))

theorem isText_writeEntries (entries : List (String × String)) :
    Utf8.IsText (writeEntries entries) := by
  induction entries with
  | nil => exact Utf8.isText_nil
  | cons entry rest ih =>
      cases rest with
      | nil => exact isText_writeEntry entry
      | cons next rest =>
          have comma : Utf8.IsText [','.toUInt8] := Utf8.isText_mark (by decide)
          exact Utf8.isText_append (isText_writeEntry entry) (Utf8.isText_append comma ih)

theorem isText_toJson (metadata : Metadata) : Utf8.IsText metadata.toJson := by
  have opening : Utf8.IsText ['\x7b'.toUInt8] := Utf8.isText_mark (by decide)
  have closing : Utf8.IsText ['\x7d'.toUInt8] := Utf8.isText_mark (by decide)
  exact Utf8.isText_append opening
    (Utf8.isText_append (isText_writeEntries metadata.entries) closing)

theorem toJson_inj {first second : Metadata} : first.toJson = second.toJson ↔ first = second := by
  constructor
  · intro same
    have read := ofJson_toJson first
    rw [same, ofJson_toJson] at read
    exact (Except.ok.inj read).symm
  · exact congrArg toJson

theorem get?_congr_iff {first second : Metadata} :
    first = second ↔ ∀ key, first.get? key = second.get? key :=
  ⟨fun same key => congrArg (get? · key) same, eq_of_get?⟩

end TopicLog.Metadata

namespace TopicLog
open Metadata

/-- A message after some entries have been added, one after the other. -/
def Message.withEntries (message : Message) (entries : List (String × String)) : Message :=
  entries.foldl (fun message entry => message.withMetadata entry.1 entry.2) message

theorem Message.withEntries_metadata (message : Message) (entries : List (String × String)) :
    (message.withEntries entries).metadata = message.metadata.insertAll entries := by
  induction entries generalizing message with
  | nil => rfl
  | cons entry rest ih => exact ih (message.withMetadata entry.1 entry.2)

theorem Message.get?_withEntries (uuid : String) (payload : Bytes)
    (entries : List (String × String)) (key : String) :
    (Message.withEntries { uuid, payload } entries).metadata.get? key =
      entries.reverse.lookup key := by
  rw [withEntries_metadata]
  exact get?_ofList entries key

/-- Whatever the metadata, they are written, in UTF-8 and by ascending keys, and are read back.
Messages that entries were added to are written the same exactly if every key has the same last value
in both. What is read of any bytes is read again of what is written for it; bytes that are not read
come to the failure that they are refused with. -/
theorem json_encoding_canonical :
    (∀ metadata : Metadata, ∃ bytes, Codec.json.encode metadata = .ok bytes ∧
      (∃ text, Utf8.decode? bytes = some text) ∧
      Json.Object metadata.entries bytes ∧
      metadata.entries.Pairwise (fun a b => Utf8.encode a.1 < Utf8.encode b.1) ∧
      Codec.json.decode bytes = .ok metadata) ∧
    (∀ (uuid other : String) (payload content : Bytes) (first second : List (String × String)),
      Codec.json.encode (Message.withEntries { uuid, payload } first).metadata =
          Codec.json.encode
            (Message.withEntries { uuid := other, payload := content } second).metadata ↔
        ∀ key, first.reverse.lookup key = second.reverse.lookup key) ∧
    (∀ bytes, (do
        let metadata ← Codec.json.decode bytes
        let written ← Codec.json.encode metadata
        Codec.json.decode written) = Codec.json.decode bytes) := by
  have decoded : ∀ metadata : Metadata, Codec.json.decode metadata.toJson = .ok metadata := by
    intro metadata
    change (ofJson metadata.toJson).mapError Cause.json = .ok metadata
    rw [ofJson_toJson]
    rfl
  refine ⟨?_, ?_, ?_⟩
  · intro metadata
    have ascending := metadata.ascending.imp fun less => Utf8.encode_lt less
    exact ⟨metadata.toJson, rfl, Utf8.decode_of_isText (isText_toJson metadata),
      object_toJson metadata, ascending, decoded metadata⟩
  · intro uuid other payload content first second
    have written : ∀ metadata, Codec.json.encode metadata = .ok metadata.toJson := fun _ => rfl
    simp only [written, Except.ok.injEq, toJson_inj, get?_congr_iff, Message.get?_withEntries]
  · intro bytes
    cases Codec.json.decode bytes with
    | error cause => rfl
    | ok metadata => exact decoded metadata

example : Codec.json.encode (Message.withEntries {} [("b", "1"), ("a", "\n"), ("b", "2")]).metadata =
    .ok (Utf8.encode "\x7b\"a\":\"\\n\",\"b\":\"2\"\x7d") := by
  cbv

end TopicLog
