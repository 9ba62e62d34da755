import Mathlib.Data.List.TakeWhile
import TopicLog.Codec
import TopicLog.Proofs.JsonGrammar

/-!
The JSON objects whose values are strings, as a grammar over bytes, and what is read from them. The
usual codec reads metadata exactly where the bytes are such an object, blanks around any structural
character; of equal keys, however they are spelled, the last one counts. All other bytes are refused as
a whole.
-/
namespace TopicLog.Json

/-! The grammar. -/

def Blanks (bytes : Bytes) : Prop := ∀ b ∈ bytes, b = 0x20 ∨ b = 0x09 ∨ b = 0x0A ∨ b = 0x0D

inductive Mark (mark : Char) : Bytes → Prop where
  | blanks {before after : Bytes} (left : Blanks before) (right : Blanks after) :
      Mark mark (before ++ mark.toUInt8 :: after)

inductive Member : String × String → Bytes → Prop where
  | pair {key value : String} {name colon text : Bytes} (spelled : Quoted key name)
      (between : Mark ':' colon) (given : Quoted value text) :
      Member (key, value) (name ++ colon ++ text)

/-- The members after the first one, each with the comma before it. -/
inductive Further : List (String × String) → Bytes → Prop where
  | none : Further [] []
  | more {entry : String × String} {entries : List (String × String)} {comma member rest : Bytes}
      (between : Mark ',' comma) (next : Member entry member) (later : Further entries rest) :
      Further (entry :: entries) (comma ++ member ++ rest)

inductive Object : List (String × String) → Bytes → Prop where
  | empty {start finish : Bytes} (opening : Mark '\x7b' start) (closing : Mark '\x7d' finish) :
      Object [] (start ++ finish)
  | members {entry : String × String} {entries : List (String × String)}
      {start member rest finish : Bytes} (opening : Mark '\x7b' start)
      (first : Member entry member) (later : Further entries rest)
      (closing : Mark '\x7d' finish) :
      Object (entry :: entries) (start ++ member ++ rest ++ finish)

/-! Blanks. -/

theorem isBlankByte_iff {b : UInt8} :
    isBlankByte b = true ↔ b = 0x20 ∨ b = 0x09 ∨ b = 0x0A ∨ b = 0x0D := by
  simp only [isBlankByte, Bool.or_eq_true, decide_eq_true_eq, or_assoc]

theorem skipBlanks_append {blanks : Bytes} (blank : Blanks blanks) (rest : Bytes) :
    skipBlanks (blanks ++ rest) = skipBlanks rest :=
  List.dropWhile_append_of_pos fun b member => isBlankByte_iff.mpr (blank b member)

theorem skipBlanks_eq_nil_iff {bytes : Bytes} : skipBlanks bytes = [] ↔ Blanks bytes := by
  rw [skipBlanks, List.dropWhile_eq_nil_iff]
  exact forall₂_congr fun b _ => isBlankByte_iff

theorem blanks_of_skipBlanks {bytes rest : Bytes} {b : UInt8}
    (next : skipBlanks bytes = b :: rest) :
    ∃ blanks, Blanks blanks ∧ bytes = blanks ++ b :: rest := by
  refine ⟨bytes.takeWhile isBlankByte, ?_, ?_⟩
  · intro c member
    exact isBlankByte_iff.mp (List.mem_takeWhile_imp member)
  · rw [← next, skipBlanks, List.takeWhile_append_dropWhile]

theorem skipBlanks_solid {blanks : Bytes} (blank : Blanks blanks) {b : UInt8}
    (solid : isBlankByte b = false) (rest : Bytes) :
    skipBlanks (blanks ++ b :: rest) = b :: rest := by
  rw [skipBlanks_append blank, skipBlanks_cons solid]

theorem blanks_append {before after : Bytes} (left : Blanks before) (right : Blanks after) :
    Blanks (before ++ after) := by
  intro b member
  rcases List.mem_append.mp member with inside | inside
  · exact left b inside
  · exact right b inside

/-! Tokens. -/

theorem quoted_eq_cons {text : String} {quoted : Bytes} (spelled : Quoted text quoted) :
    ∃ rest, quoted = '"'.toUInt8 :: rest := by
  cases spelled
  exact ⟨_, rfl⟩

theorem readText_eq_ok_iff {text : String} {bytes rest : Bytes} :
    readText bytes = .ok (text, rest) ↔
      ∃ blanks quoted, Blanks blanks ∧ Quoted text quoted ∧ bytes = blanks ++ quoted ++ rest := by
  constructor
  · intro read
    unfold readText at read
    split at read
    · cases read
    · rename_i b after next
      split at read
      · rename_i quote
        subst quote
        obtain ⟨quoted, spelled, same⟩ := readString_eq_ok_iff.mp read
        obtain ⟨blanks, blank, rfl⟩ := blanks_of_skipBlanks next
        exact ⟨blanks, quoted, blank, spelled, by rw [same, List.append_assoc]⟩
      · cases read
  · rintro ⟨blanks, quoted, blank, spelled, rfl⟩
    obtain ⟨inner, rfl⟩ := quoted_eq_cons spelled
    have read : readString (inner ++ rest) = .ok (text, rest) :=
      readString_eq_ok_iff.mpr ⟨_, spelled, rfl⟩
    rw [readText, List.append_assoc, List.cons_append, skipBlanks_solid blank (by decide)]
    exact read

theorem readColon_eq_ok_iff {bytes rest : Bytes} :
    readColon bytes = .ok rest ↔
      ∃ blanks, Blanks blanks ∧ bytes = blanks ++ ':'.toUInt8 :: rest := by
  constructor
  · intro read
    unfold readColon at read
    split at read
    · cases read
    · rename_i b after next
      split at read
      · rename_i colon
        cases read
        exact blanks_of_skipBlanks (colon ▸ next)
      · cases read
  · rintro ⟨blanks, blank, rfl⟩
    rw [readColon, skipBlanks_solid blank (by decide)]
    rfl

theorem mapKey_eq_ok_iff {bytes rest : Bytes} {key : Option String} :
    ((readString bytes).map fun (key, rest) => (some key, rest)) = .ok (key, rest) ↔
      ∃ name, key = some name ∧ readString bytes = .ok (name, rest) := by
  cases readString bytes with
  | error fault => simp [Except.map]
  | ok pair =>
      simp only [Except.map, Except.ok.injEq, Prod.mk.injEq]
      grind

theorem nextKey_none_iff {first : Bool} {bytes rest : Bytes} :
    nextKey first bytes = .ok (none, rest) ↔
      ∃ blanks, Blanks blanks ∧ bytes = blanks ++ '\x7d'.toUInt8 :: rest := by
  constructor
  · intro read
    unfold nextKey at read
    repeat' split at read
    all_goals first
      | contradiction
      | obtain ⟨name, missing, -⟩ := mapKey_eq_ok_iff.mp read
        cases missing
      | skip
    rename_i b after next brace
    cases read
    exact blanks_of_skipBlanks (brace ▸ next)
  · rintro ⟨blanks, blank, rfl⟩
    rw [nextKey, skipBlanks_solid blank (by decide)]
    rfl

theorem nextKey_true_iff {key : String} {bytes rest : Bytes} :
    nextKey true bytes = .ok (some key, rest) ↔
      ∃ blanks quoted, Blanks blanks ∧ Quoted key quoted ∧ bytes = blanks ++ quoted ++ rest := by
  constructor
  · intro read
    rw [nextKey] at read
    split at read
    · cases read
    · rename_i b after next
      simp only [↓reduceIte] at read
      split at read
      · cases read
      · split at read
        · rename_i quote
          subst quote
          obtain ⟨name, same, found⟩ := mapKey_eq_ok_iff.mp read
          cases same
          obtain ⟨quoted, spelled, same⟩ := readString_eq_ok_iff.mp found
          obtain ⟨blanks, blank, rfl⟩ := blanks_of_skipBlanks next
          exact ⟨blanks, quoted, blank, spelled, by rw [same, List.append_assoc]⟩
        · cases read
  · rintro ⟨blanks, quoted, blank, spelled, rfl⟩
    obtain ⟨inner, rfl⟩ := quoted_eq_cons spelled
    have read : readString (inner ++ rest) = .ok (key, rest) :=
      readString_eq_ok_iff.mpr ⟨_, spelled, rfl⟩
    rw [nextKey, List.append_assoc, List.cons_append, skipBlanks_solid blank (by decide)]
    simp only [if_neg (show '"'.toUInt8 ≠ '\x7d'.toUInt8 by decide), ↓reduceIte, read]
    rfl

theorem nextKey_false_iff {key : String} {bytes rest : Bytes} :
    nextKey false bytes = .ok (some key, rest) ↔
      ∃ comma quoted, Mark ',' comma ∧ Quoted key quoted ∧ bytes = comma ++ quoted ++ rest := by
  constructor
  · intro read
    rw [nextKey] at read
    split at read
    · cases read
    · rename_i b after next
      simp only [Bool.false_eq_true, ↓reduceIte] at read
      split at read
      · cases read
      · split at read
        · rename_i comma
          subst comma
          split at read
          · cases read
          · rename_i c last later
            split at read
            · rename_i quote
              subst quote
              obtain ⟨name, same, found⟩ := mapKey_eq_ok_iff.mp read
              cases same
              obtain ⟨quoted, spelled, same⟩ := readString_eq_ok_iff.mp found
              obtain ⟨before, left, rfl⟩ := blanks_of_skipBlanks next
              obtain ⟨blanks, right, rfl⟩ := blanks_of_skipBlanks later
              refine ⟨_, quoted, .blanks left right, spelled, ?_⟩
              simp only [same, List.append_assoc, List.cons_append]
            · cases read
        · cases read
  · rintro ⟨_, quoted, ⟨left, right⟩, spelled, rfl⟩
    obtain ⟨inner, rfl⟩ := quoted_eq_cons spelled
    have read : readString (inner ++ rest) = .ok (key, rest) :=
      readString_eq_ok_iff.mpr ⟨_, spelled, rfl⟩
    simp only [nextKey, List.append_assoc, List.cons_append]
    rw [skipBlanks_solid left (by decide)]
    simp only [if_neg (show ','.toUInt8 ≠ '\x7d'.toUInt8 by decide), Bool.false_eq_true, ↓reduceIte,
      skipBlanks_solid right (show isBlankByte '"'.toUInt8 = false by decide), read]
    rfl

end TopicLog.Json

namespace TopicLog.Metadata
open Json

/-! Objects. -/

theorem readValue_iff {value : String} {bytes rest : Bytes} :
    (∃ after, readColon bytes = .ok after ∧ readText after = .ok (value, rest)) ↔
      ∃ colon text, Mark ':' colon ∧ Quoted value text ∧ bytes = colon ++ text ++ rest := by
  constructor
  · rintro ⟨after, colon, read⟩
    obtain ⟨before, left, rfl⟩ := readColon_eq_ok_iff.mp colon
    obtain ⟨blanks, text, right, spelled, rfl⟩ := readText_eq_ok_iff.mp read
    refine ⟨_, text, .blanks left right, spelled, ?_⟩
    simp only [List.append_assoc, List.cons_append]
  · rintro ⟨_, text, ⟨left, right⟩, spelled, rfl⟩
    refine ⟨_, readColon_eq_ok_iff.mpr ⟨_, left, ?_⟩,
      readText_eq_ok_iff.mpr ⟨_, text, right, spelled, rfl⟩⟩
    simp only [List.append_assoc, List.cons_append]

theorem readMembers_entry {first : Bool} {key value : String} {bytes colon text rest : Bytes}
    (next : nextKey first bytes = .ok (some key, colon ++ text ++ rest))
    (between : Mark ':' colon) (given : Quoted value text) (metadata : Metadata) :
    readMembers first metadata bytes = readMembers false (metadata.insert key value) rest := by
  obtain ⟨after, mark, read⟩ : ∃ after, readColon (colon ++ text ++ rest) = .ok after ∧
      readText after = .ok (value, rest) :=
    readValue_iff.mpr ⟨colon, text, between, given, rfl⟩
  rw [readMembers_step]
  simp only [next, mark, read]

theorem readMembers_ok {first : Bool} {metadata result : Metadata} {bytes rest : Bytes}
    (read : readMembers first metadata bytes = .ok (result, rest)) :
    (nextKey first bytes = .ok (none, rest) ∧ result = metadata) ∨
    ∃ key value colon text after, nextKey first bytes = .ok (some key, colon ++ text ++ after) ∧
      Mark ':' colon ∧ Quoted value text ∧
      readMembers false (metadata.insert key value) after = .ok (result, rest) := by
  rw [readMembers_step] at read
  split at read
  · cases read
  · rename_i ended
    cases read
    exact .inl ⟨ended, rfl⟩
  · rename_i key afterKey next
    split at read
    · cases read
    · rename_i afterColon colon
      split at read
      · cases read
      · rename_i value after found
        obtain ⟨mark, text, between, given, rfl⟩ := readValue_iff.mp ⟨_, colon, found⟩
        exact .inr ⟨key, value, mark, text, after, next, between, given, read⟩

def insertAll (metadata : Metadata) (entries : List (String × String)) : Metadata :=
  entries.foldl (fun metadata entry => metadata.insert entry.1 entry.2) metadata

theorem readMembers_further {entries : List (String × String)} {members finish : Bytes}
    (further : Further entries members) (blank : Blanks finish) (metadata : Metadata)
    (rest : Bytes) :
    readMembers false metadata (members ++ finish ++ '\x7d'.toUInt8 :: rest) =
      .ok (metadata.insertAll entries, rest) := by
  induction further generalizing metadata with
  | none =>
      have ended : nextKey false (finish ++ '\x7d'.toUInt8 :: rest) = .ok (none, rest) :=
        nextKey_none_iff.mpr ⟨finish, blank, rfl⟩
      rw [List.nil_append, readMembers_step, ended]
      rfl
  | @more entry entries comma member later between next _ ih =>
      obtain @⟨key, value, name, colon, text, spelled, mark, given⟩ := next
      have next : nextKey false (comma ++ (name ++ colon ++ text) ++ later ++ finish ++
          '\x7d'.toUInt8 :: rest) =
            .ok (some key, colon ++ text ++ (later ++ finish ++ '\x7d'.toUInt8 :: rest)) :=
        nextKey_false_iff.mpr ⟨comma, name, between, spelled, by simp only [List.append_assoc]⟩
      rw [readMembers_entry next mark given]
      exact ih _

theorem further_of_readMembers {metadata result : Metadata} {bytes rest : Bytes}
    (read : readMembers false metadata bytes = .ok (result, rest)) :
    ∃ entries members finish, Further entries members ∧ Blanks finish ∧
      bytes = members ++ finish ++ '\x7d'.toUInt8 :: rest ∧ result = metadata.insertAll entries := by
  -- Each member is shorter than what was left before it, so the induction is on the bytes left.
  induction size : bytes.length using Nat.strongRecOn generalizing bytes metadata with
  | _ count ih =>
      rcases readMembers_ok read with ⟨ended, rfl⟩ | member
      · obtain ⟨blanks, blank, rfl⟩ := nextKey_none_iff.mp ended
        exact ⟨[], [], blanks, .none, blank, rfl, rfl⟩
      · obtain ⟨key, value, colon, text, after, next, between, given, remaining⟩ := member
        have shorter : after.length < count := by
          have bound := nextKey_length next
          simp only [List.length_append] at bound
          omega
        obtain ⟨comma, name, mark, spelled, rfl⟩ := nextKey_false_iff.mp next
        obtain ⟨entries, members, finish, further, blank, rfl, rfl⟩ := ih _ shorter remaining rfl
        refine ⟨(key, value) :: entries, _, finish,
          .more mark (.pair spelled between given) further, blank, ?_, rfl⟩
        simp only [List.append_assoc]

theorem document_eq_ok_iff {α : Type} {read : Bytes → Reading α} {bytes : Bytes} {value : α} :
    document read bytes = .ok value ↔ ∃ rest, read bytes = .ok (value, rest) ∧ Blanks rest := by
  cases found : read bytes with
  | error fault => simp [document, found]
  | ok pair =>
      obtain ⟨other, rest⟩ := pair
      simp only [document, found, Except.ok.injEq, Prod.mk.injEq]
      split
      · rename_i ended
        have blank := skipBlanks_eq_nil_iff.mp ended
        grind
      · rename_i b after left
        have solid : ¬ Blanks rest := by
          rw [← skipBlanks_eq_nil_iff, left]
          exact List.cons_ne_nil b after
        grind

theorem readObject_eq_ok_iff {metadata : Metadata} {bytes rest : Bytes} :
    readObject bytes = .ok (metadata, rest) ↔
      ∃ blanks inside, Blanks blanks ∧ bytes = blanks ++ '\x7b'.toUInt8 :: inside ∧
        readMembers true empty inside = .ok (metadata, rest) := by
  constructor
  · intro read
    unfold readObject at read
    split at read
    · cases read
    · rename_i b after next
      split at read
      · rename_i brace
        obtain ⟨blanks, blank, rfl⟩ := blanks_of_skipBlanks next
        exact ⟨blanks, after, blank, by rw [brace], read⟩
      · cases read
  · rintro ⟨blanks, inside, blank, rfl, read⟩
    rw [readObject, skipBlanks_solid blank (by decide)]
    exact read

theorem ofJson_object {entries : List (String × String)} {bytes : Bytes}
    (object : Object entries bytes) : ofJson bytes = .ok (ofList entries) := by
  apply document_eq_ok_iff.mpr
  cases object with
  | empty opening closing =>
      obtain @⟨before, after, left, right⟩ := opening
      obtain @⟨finish, rest, inner, last⟩ := closing
      have ended : nextKey true (after ++ finish ++ '\x7d'.toUInt8 :: rest) = .ok (none, rest) :=
        nextKey_none_iff.mpr ⟨_, blanks_append right inner, rfl⟩
      have read : readMembers true empty (after ++ finish ++ '\x7d'.toUInt8 :: rest) =
          .ok (ofList [], rest) := by
        rw [readMembers_step, ended]
        rfl
      refine ⟨rest, readObject_eq_ok_iff.mpr ⟨before, _, left, ?_, read⟩, last⟩
      simp only [List.append_assoc, List.cons_append]
  | @members entry entries start member further finish opening first later closing =>
      obtain @⟨before, after, left, right⟩ := opening
      obtain @⟨key, value, name, colon, text, spelled, between, given⟩ := first
      obtain @⟨finish, rest, inner, last⟩ := closing
      have next : nextKey true (after ++ (name ++ colon ++ text) ++ further ++ finish ++
          '\x7d'.toUInt8 :: rest) =
            .ok (some key, colon ++ text ++ (further ++ finish ++ '\x7d'.toUInt8 :: rest)) :=
        nextKey_true_iff.mpr ⟨after, name, right, spelled, by simp only [List.append_assoc]⟩
      have read : readMembers true empty (after ++ (name ++ colon ++ text) ++ further ++ finish ++
          '\x7d'.toUInt8 :: rest) = .ok (ofList ((key, value) :: entries), rest) := by
        rw [readMembers_entry next between given]
        exact readMembers_further later inner _ rest
      refine ⟨rest, readObject_eq_ok_iff.mpr ⟨before, _, left, ?_, read⟩, last⟩
      simp only [List.append_assoc, List.cons_append]

theorem object_of_ofJson {metadata : Metadata} {bytes : Bytes}
    (read : ofJson bytes = .ok metadata) :
    ∃ entries, Object entries bytes ∧ metadata = ofList entries := by
  obtain ⟨rest, object, last⟩ := document_eq_ok_iff.mp read
  obtain ⟨before, inside, left, rfl, members⟩ := readObject_eq_ok_iff.mp object
  rcases readMembers_ok members with ⟨ended, rfl⟩ | member
  · obtain ⟨inner, blank, rfl⟩ := nextKey_none_iff.mp ended
    have opening : Mark '\x7b' (before ++ ['\x7b'.toUInt8]) := .blanks left (by simp [Blanks])
    refine ⟨[], ?_, rfl⟩
    have object := Object.empty opening (.blanks blank last)
    simpa only [List.append_assoc, List.singleton_append] using object
  · obtain ⟨key, value, colon, text, after, next, between, given, remaining⟩ := member
    obtain ⟨blanks, name, right, spelled, rfl⟩ := nextKey_true_iff.mp next
    obtain ⟨entries, further, finish, later, inner, rfl, rfl⟩ := further_of_readMembers remaining
    refine ⟨(key, value) :: entries, ?_, rfl⟩
    have object := Object.members (.blanks left right) (.pair spelled between given) later
      (.blanks inner last)
    simpa only [List.append_assoc, List.cons_append] using object

theorem get?_insertAll (metadata : Metadata) (entries : List (String × String)) (key : String) :
    (metadata.insertAll entries).get? key =
      (entries.reverse.lookup key).or (metadata.get? key) := by
  induction entries generalizing metadata with
  | nil => rfl
  | cons entry rest ih =>
      have tail := ih (metadata.insert entry.1 entry.2)
      rw [get?_insert] at tail
      rw [List.reverse_cons, List.lookup_append, Option.or_assoc]
      refine tail.trans (congrArg _ ?_)
      rw [List.lookup_cons]
      by_cases same : key = entry.1
      · simp [same]
      · simp [same, beq_eq_false_iff_ne.mpr same]

/-- Of equal keys the last one counts, and there are no keys but those that were put in. -/
theorem get?_ofList (entries : List (String × String)) (key : String) :
    (ofList entries).get? key = entries.reverse.lookup key := by
  have whole := get?_insertAll empty entries key
  have none : empty.get? key = none := rfl
  rw [none, Option.or_none] at whole
  exact whole

theorem ofJson_eq_ok_iff {metadata : Metadata} {bytes : Bytes} :
    ofJson bytes = .ok metadata ↔
      ∃ entries, Object entries bytes ∧
        ∀ key, metadata.get? key = entries.reverse.lookup key := by
  constructor
  · intro read
    obtain ⟨entries, object, rfl⟩ := object_of_ofJson read
    exact ⟨entries, object, get?_ofList entries⟩
  · rintro ⟨entries, object, found⟩
    have same : ofList entries = metadata :=
      eq_of_get? fun key => (get?_ofList entries key).trans (found key).symm
    rw [ofJson_object object, same]

/-- The usual codec reads the JSON objects of strings and nothing else. What it reads has each key of
the object, under the value of its last member, and no other key. -/
theorem json_decode_iff (bytes : Bytes) :
    (∀ metadata, Codec.json.decode bytes = .ok metadata ↔
      ∃ entries, Object entries bytes ∧
        ∀ key, metadata.get? key = entries.reverse.lookup key) ∧
    ((∃ fault, Codec.json.decode bytes = .error (.json fault)) ↔
      ¬ ∃ entries, Object entries bytes) := by
  have decoded : Codec.json.decode bytes = (ofJson bytes).mapError .json := rfl
  rw [decoded]
  cases read : ofJson bytes with
  | error fault =>
      have none : ¬ ∃ entries, Object entries bytes := by
        rintro ⟨entries, object⟩
        rw [ofJson_object object] at read
        cases read
      constructor
      · intro metadata
        constructor
        · intro found
          cases found
        · rintro ⟨entries, object, -⟩
          exact absurd ⟨entries, object⟩ none
      · exact ⟨fun _ => none, fun _ => ⟨fault, rfl⟩⟩
  | ok result =>
      constructor
      · intro metadata
        have whole := @ofJson_eq_ok_iff metadata bytes
        rw [read] at whole
        simpa only [Except.mapError, Except.ok.injEq] using whole
      · obtain ⟨entries, object, -⟩ := ofJson_eq_ok_iff.mp read
        constructor
        · rintro ⟨fault, failed⟩
          cases failed
        · exact fun none => absurd ⟨entries, object⟩ none

end TopicLog.Metadata
