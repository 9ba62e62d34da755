import TopicLog.Proofs.CanonicalMetadata
import TopicLog.Proofs.OrderFields

/-!
The layouts of an order. Besides objects, an array of the four values in the order of their declaration
gives the order. What is read depends on the fields alone as long as the numbers that stand for fields
are in range; a number close to the end of the doubles can be out of range in the arithmetic of the
reader, and then it is malformed rather than mistyped.
-/
namespace TopicLog.Order
open Json

/-! Arrays. -/

inductive Listing (order : Order) : List Bytes → Prop where
  | values {customer sku quantity cents : Bytes} (first : Natural order.customer.toNat customer)
      (second : Quoted order.sku sku) (third : Natural order.quantity.toNat quantity)
      (fourth : Natural order.cents.toNat cents) : Listing order [customer, sku, quantity, cents]

/-- A value that stands in an array begins with no blank and no bracket that would end it. -/
def Solid (bytes : Bytes) : Prop :=
  ∃ b tail, bytes = b :: tail ∧ isBlankByte b = false ∧ b ≠ ']'.toUInt8

theorem solid_natural {n : Nat} {bytes : Bytes} (natural : Natural n bytes) : Solid bytes := by
  obtain ⟨b, tail, rfl, start⟩ := natural_cons natural
  refine ⟨b, tail, rfl, (other_of_startsNumber start).1, ?_⟩
  rintro rfl
  cases start

theorem solid_quoted {text : String} {quoted : Bytes} (spelled : Quoted text quoted) :
    Solid quoted := by
  obtain ⟨inner, rfl⟩ := quoted_eq_cons spelled
  exact ⟨_, inner, rfl, by decide, by decide⟩

section
variable {α : Type} {read : Bytes → Reading α} {Spells : α → Bytes → Prop}
  (reads : Reads read Spells) {a : α} {bytes rest : Bytes} (spelled : Spells a bytes)
  (solid : Solid bytes) (ended : Ended rest)
include reads spelled solid ended

theorem readElement_first {blanks : Bytes} (blank : Blanks blanks) :
    readElement true read (blanks ++ (bytes ++ rest)) = .ok (a, rest) := by
  have found := reads.spelled spelled blanks_nil ended
  obtain ⟨b, tail, rfl, start, bracket⟩ := solid
  rw [readElement, nextElement, List.cons_append, skipBlanks_solid blank start]
  simp only [bracket, ↓reduceIte]
  exact found

theorem readElement_later {comma : Bytes} (between : Mark ',' comma) :
    readElement false read (comma ++ (bytes ++ rest)) = .ok (a, rest) := by
  have found := reads.spelled spelled blanks_nil ended
  obtain ⟨b, tail, rfl, start, bracket⟩ := solid
  obtain @⟨left, right, leftBlank, rightBlank⟩ := between
  have mark : ','.toUInt8 ≠ ']'.toUInt8 := by decide
  rw [readElement, nextElement, List.append_assoc, List.cons_append,
    skipBlanks_solid leftBlank (by decide), List.cons_append]
  simp only [mark, Bool.false_eq_true, ↓reduceIte, skipBlanks_solid rightBlank start, bracket]
  exact found

end

theorem listed_cons {item : Bytes} {items : List Bytes} {bytes : Bytes}
    (listed : Listed Eq (item :: items) bytes) :
    ∃ comma rest, Mark ',' comma ∧ Listed Eq items rest ∧ bytes = comma ++ (item ++ rest) := by
  cases listed with
  | more between next later =>
      subst next
      exact ⟨_, _, between, later, rfl⟩

theorem ofJson_listing {order : Order} {items : List Bytes} {bytes : Bytes}
    (array : Enclosed Eq '[' ']' items bytes) (listing : Listing order items) :
    ofJson bytes = .ok order := by
  obtain @⟨customer, sku, quantity, cents, first, second, third, fourth⟩ := listing
  cases array with
  | @items _ _ start spelled further finish opened same later closed =>
      subst same
      obtain ⟨skuComma, _, beforeSku, afterSku, rfl⟩ := listed_cons later
      obtain ⟨quantityComma, _, beforeQuantity, afterQuantity, rfl⟩ := listed_cons afterSku
      obtain ⟨centsComma, _, beforeCents, afterCents, rfl⟩ := listed_cons afterQuantity
      cases afterCents
      have comma {mark : Bytes} (between : Mark ',' mark) := ended_mark (by decide) between
      have bracket := ended_mark (by decide) closed []
      obtain @⟨before, after, left, right⟩ := opened
      obtain @⟨blanks, trail, inner, last⟩ := closed
      have array : '['.toUInt8 ≠ '\x7b'.toUInt8 := by decide
      have finished : endArray (blanks ++ ']'.toUInt8 :: trail) = .ok trail := by
        rw [endArray, skipBlanks_solid inner (by decide)]
        rfl
      simp only [List.append_assoc, List.cons_append, List.append_nil] at bracket ⊢
      apply Metadata.document_eq_ok_iff.mpr
      refine ⟨trail, ?_, last⟩
      rw [readOrder, skipBlanks_solid left (by decide)]
      simp only [array, ↓reduceIte, readElements, bind, Except.bind]
      rw [readElement_first readSmall_reads first (solid_natural first) (comma beforeSku _) right]
      simp only
      rw [readElement_later readText_reads second (solid_quoted second) (comma beforeQuantity _)
        beforeSku]
      simp only
      rw [readElement_later readSmall_reads third (solid_natural third) (comma beforeCents _)
        beforeQuantity]
      simp only
      rw [readElement_later readLarge_reads fourth (solid_natural fourth) bracket beforeCents]
      simp only [finished, pure, Except.pure]

/-- An order is read from every object that gives each field once, whatever other members it has, and
from every array of the four values. An object that misses a field, repeats one or gives one a value that
does not fit is refused as mistyped, whatever else it holds, if the numbers that stand for fields are in
range as they are read; up to the third double from the top every number is. -/
theorem order_read_by_fields :
    (∀ (members : List (String × Bytes)) (bytes : Bytes),
      Enclosed Entry '\x7b' '\x7d' members bytes →
      (∀ member ∈ members, WellFormed (fun _ => True) member.2) →
        (∀ order, Describes members order → ofJson bytes = .ok order) ∧
        ((∀ (field : Field) (numeral : Numeral), (field.key, numeral.bytes) ∈ members →
            numeral.Finite) →
          Flawed members → ofJson bytes = .error .mistyped)) ∧
    (∀ (order : Order) (items : List Bytes) (bytes : Bytes), Enclosed Eq '[' ']' items bytes →
      Listing order items → ofJson bytes = .ok order) ∧
    (∀ numeral : Numeral, numeral.magnitude ≤ thirdDouble → numeral.Finite) := by
  refine ⟨?_, ?_, fun numeral => finite_of_magnitude⟩
  · intro members bytes object formed
    exact ⟨fun order described => ofJson_described object formed described,
      fun finite flawed => ofJson_flawed object formed finite flawed⟩
  · intro order items bytes array listing
    exact ofJson_listing array listing

theorem order_read_by_fields_permuted :
    ofJson (Utf8.encode
        "\x7b\"cents\":5, \"s\\u006bu\":\"a\",\"more\":[null],\"quantity\":2,\"customer\":1\x7d") =
          .ok ⟨1, "a", 2, 5⟩ ∧
      ofJson (Utf8.encode "\x7b\"sku\":true\x7d") = .error .mistyped ∧
      ofJson (Utf8.encode "[1,\"a\" ,2,5]") = .ok ⟨1, "a", 2, 5⟩ := by
  have one : Natural 1 ['1'.toUInt8] :=
    .digits (.ofAll ['1'.toUInt8] (by decide) (by decide)) fun _ => rfl
  have two : Natural 2 ['2'.toUInt8] :=
    .digits (.ofAll ['2'.toUInt8] (by decide) (by decide)) fun _ => rfl
  have five : Natural 5 ['5'.toUInt8] :=
    .digits (.ofAll ['5'.toUInt8] (by decide) (by decide)) fun _ => rfl
  have space : Blanks [0x20] := by simp [Blanks]
  have spaced : Mark ',' ([] ++ ','.toUInt8 :: [0x20]) := .blanks blanks_nil space
  have spacedBefore : Mark ',' ([0x20] ++ [','.toUInt8]) := .blanks space blanks_nil
  obtain ⟨name, escaped, made⟩ : ∃ name, Quoted "sku" name ∧
      '"'.toUInt8 :: Utf8.encode "s\\u006bu\"" = name ++ [] :=
    readString_eq_ok_iff.mp (by decide +kernel)
  rw [List.append_nil] at made
  subst made
  have null : WellFormed (fun _ => True) (Utf8.encode "null") := .literal (by decide)
  obtain ⟨bytes, more⟩ : ∃ bytes, bytes = ['['.toUInt8] ++ (Utf8.encode "null" ++ ([] ++ [']'.toUInt8])) :=
    ⟨_, rfl⟩
  have nulls : WellFormed (fun _ => True) bytes := by
    have single : Enclosed Eq '[' ']' [Utf8.encode "null"] bytes :=
      more ▸ .items (mark_plain '[') rfl .none (mark_plain ']')
    exact .array single (by simpa using null)
  refine ⟨?_, ?_, ?_⟩
  · have object : Enclosed Entry '\x7b' '\x7d' [("cents", ['5'.toUInt8]), ("sku", writeText "a"),
        ("more", bytes), ("quantity", ['2'.toUInt8]), ("customer", ['1'.toUInt8])] _ :=
      .items (mark_plain '\x7b') (.pair (quoted_writeText "cents") (mark_plain ':'))
        (.more spaced (.pair escaped (mark_plain ':'))
          (.more (mark_plain ',') (.pair (quoted_writeText "more") (mark_plain ':'))
            (.more (mark_plain ',') (.pair (quoted_writeText "quantity") (mark_plain ':'))
              (.more (mark_plain ',') (.pair (quoted_writeText "customer") (mark_plain ':'))
                .none)))) (mark_plain '\x7d')
    have read := (order_read_by_fields.1 _ _ object (by
      simpa using ⟨wellFormed_natural five, .text (quoted_writeText "a"), nulls,
        wellFormed_natural two, wellFormed_natural one⟩)).1 ⟨1, "a", 2, 5⟩
      ⟨⟨_, rfl, one⟩, ⟨_, rfl, quoted_writeText "a"⟩, ⟨_, rfl, two⟩, ⟨_, rfl, five⟩⟩
    subst more
    exact read
  · have object : Enclosed Entry '\x7b' '\x7d' [("sku", Utf8.encode "true")] _ :=
      .items (mark_plain '\x7b') (.pair (quoted_writeText "sku") (mark_plain ':')) .none
        (mark_plain '\x7d')
    have truth : WellFormed (fun _ => True) (Utf8.encode "true") := .literal (by decide)
    have finite (field : Field) (numeral : Numeral)
        (member : (field.key, numeral.bytes) ∈ [("sku", Utf8.encode "true")]) : numeral.Finite := by
      obtain ⟨b, tail, made, start⟩ := numeral_cons numeral
      rw [List.mem_singleton, made, Prod.mk.injEq] at member
      cases (List.cons.inj member.2).1
      cases start
    exact (order_read_by_fields.1 _ _ object (by simpa using truth)).2 finite ⟨.customer, .inl rfl⟩
  · have array : Enclosed Eq '[' ']' [['1'.toUInt8], writeText "a", ['2'.toUInt8], ['5'.toUInt8]] _ :=
      .items (mark_plain '[') rfl (.more (mark_plain ',') rfl (.more spacedBefore rfl
        (.more (mark_plain ',') rfl .none))) (mark_plain ']')
    exact order_read_by_fields.2.1 ⟨1, "a", 2, 5⟩ _ _ array
      (.values one (quoted_writeText "a") two five)

/-- A number between the third double from the top and the last one, whose product of significand and
power of ten is rounded beyond the last. -/
def topNumeral : Numeral where
  negative := false
  whole := .ofAll (Utf8.encode "1") (by decide) (by decide)
  trimmed := fun _ => rfl
  fraction := some (.ofAll (Utf8.encode "7976931348623157081") (by decide) (by decide))
  power := some ⟨'e', .inl rfl, .none, .ofAll (Utf8.encode "308") (by decide) (by decide)⟩

theorem topNumeral_magnitude : topNumeral.magnitude ≤ greatestDouble := by
  have scale : topNumeral.scale = (289 : Nat) := by decide
  have below : digitsFrom 0 topNumeral.digits * 10 ^ 289 ≤ greatestDouble := by decide +kernel
  exact magnitude_le scale below

/-- That numbers are no greater than the greatest double does not ensure that a misplaced one is found
to be mistyped. -/
theorem top_number_malformed :
    ¬ ∀ (members : List (String × Bytes)) (bytes : Bytes),
      Enclosed Entry '\x7b' '\x7d' members bytes →
      (∀ member ∈ members,
        WellFormed (fun numeral => numeral.magnitude ≤ greatestDouble) member.2) →
      Flawed members → ofJson bytes = .error .mistyped := by
  intro refused
  have object : Enclosed Entry '\x7b' '\x7d' [("sku", topNumeral.bytes)] _ :=
    .items (mark_plain '\x7b') (.pair (quoted_writeText "sku") (mark_plain ':')) .none
      (mark_plain '\x7d')
  have formed : WellFormed (fun numeral => numeral.magnitude ≤ greatestDouble) topNumeral.bytes :=
    .number topNumeral_magnitude
  have mistyped := refused _ _ object (List.forall_mem_singleton.mpr formed) ⟨.customer, .inl rfl⟩
  exact absurd mistyped (by decide +kernel)

end TopicLog.Order
