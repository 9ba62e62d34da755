import TopicLog.Order.Json
import TopicLog.Proofs.JsonValues
import TopicLog.Proofs.NumberRange

/-!
An order is read by its fields, in whatever layout they are given: in any order, spelled in any way, with
members of other keys anywhere between them. Where a field is missing, given twice or given a value of
another type, the order is refused as mistyped. Members are read one after the other, and the fields
known so far are those given so far.
-/
namespace TopicLog.Order
open Json

inductive Field where
  | customer
  | sku
  | quantity
  | cents

namespace Field

def key : Field → String
  | .customer => "customer"
  | .sku => "sku"
  | .quantity => "quantity"
  | .cents => "cents"

def Fits : Field → Bytes → Prop
  | .customer, bytes => ∃ n : UInt32, Natural n.toNat bytes
  | .sku, bytes => ∃ text, Quoted text bytes
  | .quantity, bytes => ∃ n : UInt32, Natural n.toNat bytes
  | .cents, bytes => ∃ n : UInt64, Natural n.toNat bytes

end Field

def given (key : String) (members : List (String × Bytes)) : List Bytes :=
  (members.filter fun member => member.1 = key).map (·.2)

/-- The fields of an order are given once each. -/
structure Describes (members : List (String × Bytes)) (order : Order) : Prop where
  customer : ∃ value, given "customer" members = [value] ∧ Natural order.customer.toNat value
  sku : ∃ value, given "sku" members = [value] ∧ Quoted order.sku value
  quantity : ∃ value, given "quantity" members = [value] ∧ Natural order.quantity.toNat value
  cents : ∃ value, given "cents" members = [value] ∧ Natural order.cents.toNat value

/-- A field is missing, given more than once or given a value that does not fit it. -/
def Flawed (members : List (String × Bytes)) : Prop :=
  ∃ field : Field, given field.key members = [] ∨ 2 ≤ (given field.key members).length ∨
    ∃ value ∈ given field.key members, ¬ field.Fits value

/-! Values. -/

/-- A reader that takes exactly the spellings of its values. -/
structure Reads {α : Type} (read : Bytes → Reading α) (Spells : α → Bytes → Prop) : Prop where
  spelled : ∀ {a bytes before rest}, Spells a bytes → Blanks before → Ended rest →
    read (before ++ (bytes ++ rest)) = .ok (a, rest)
  other : ∀ {bytes before rest}, WellFormed (fun _ => True) bytes →
    (∀ numeral : Numeral, bytes = numeral.bytes → numeral.Finite) → Blanks before → Ended rest →
    (∀ a, ¬ Spells a bytes) → read (before ++ (bytes ++ rest)) = .error .mistyped

theorem readText_reads : Reads readText Quoted where
  spelled {_ bytes before _} spelled blank _ :=
    readText_eq_ok_iff.mpr ⟨before, bytes, blank, spelled, (List.append_assoc ..).symm⟩
  other := readText_other

theorem readNatural_reads {α : Type} {limit : Nat} {ofNat : Nat → α} {toNat : α → Nat}
    (word : limit ≤ UInt64.size) (bounded : ∀ a, toNat a < limit)
    (inverse : ∀ a, ofNat (toNat a) = a) (value : ∀ n < limit, toNat (ofNat n) = n) :
    Reads (fun bytes => (readNatural limit bytes).map fun (n, rest) => (ofNat n, rest))
      (fun a bytes => Natural (toNat a) bytes) where
  spelled {a _ _ _} natural blank ended := by
    simp only [readNatural_natural blank ended natural (bounded a) word, Except.map, inverse]
  other formed finite blank ended unfit := by
    have none := readNatural_other formed finite blank ended fun n (small : n < limit) natural =>
      unfit (ofNat n) ((value n small).symm ▸ natural)
    simp only [none, Except.map]

theorem readSmall_reads : Reads readSmall fun n bytes => Natural n.toNat bytes :=
  readNatural_reads (by decide) UInt32.toNat_lt (fun _ => UInt32.ofNat_toNat)
    fun _ small => UInt32.toNat_ofNat_of_lt' small

theorem readLarge_reads : Reads readLarge fun n bytes => Natural n.toNat bytes :=
  readNatural_reads (by decide) UInt64.toNat_lt (fun _ => UInt64.ofNat_toNat)
    fun _ small => UInt64.toNat_ofNat_of_lt' small

/-! Fields. -/

/-- What is known of a field that was given some values: nothing without any, and the value that a
single one spells. -/
def Known {α : Type} (Spells : α → Bytes → Prop) (known : Option α) (values : List Bytes) : Prop :=
  match known with
  | none => values = []
  | some a => ∃ value, values = [value] ∧ Spells a value

section
variable {α : Type} {read : Bytes → Reading α} {Spells : α → Bytes → Prop}
  (reads : Reads read Spells) {known : Option α} {values : List Bytes} (seen : Known Spells known values)
  {colon value rest : Bytes} (between : Mark ':' colon)
  (formed : WellFormed (fun _ => True) value)
  (finite : ∀ numeral : Numeral, value = numeral.bytes → numeral.Finite) (ended : Ended rest)
include reads seen between formed finite ended

theorem readField_member :
    (∃ a, readField known read (colon ++ (value ++ rest)) = .ok (a, rest) ∧
      Known Spells (some a) (values ++ [value])) ∨
    (readField known read (colon ++ (value ++ rest)) = .error .mistyped ∧
      (2 ≤ (values ++ [value]).length ∨ ∀ a, ¬ Spells a value)) := by
  cases known with
  | some a =>
      obtain ⟨first, rfl, -⟩ := seen
      exact .inr ⟨rfl, .inl (Nat.le_refl 2)⟩
  | none =>
      have none : values = [] := seen
      obtain @⟨left, right, leftBlank, rightBlank⟩ := between
      have colon : readColon (left ++ ':'.toUInt8 :: right ++ (value ++ rest)) =
          .ok (right ++ (value ++ rest)) :=
        readColon_eq_ok_iff.mpr ⟨left, leftBlank, by simp only [List.append_assoc, List.cons_append]⟩
      simp only [readField, Option.isSome_none, Bool.false_eq_true, ↓reduceIte, colon]
      by_cases fits : ∃ a, Spells a value
      · obtain ⟨a, spelled⟩ := fits
        refine .inl ⟨a, reads.spelled spelled rightBlank ended, value, ?_, spelled⟩
        rw [none, List.nil_append]
      · have unfit := not_exists.mp fits
        exact .inr ⟨reads.other formed finite rightBlank ended unfit, .inr unfit⟩

end

/-- A field has been given more than once or a value that does not fit it. -/
def Spoiled (members : List (String × Bytes)) : Prop :=
  ∃ field : Field, 2 ≤ (given field.key members).length ∨
    ∃ value ∈ given field.key members, ¬ field.Fits value

theorem given_append (key : String) (first second : List (String × Bytes)) :
    given key (first ++ second) = given key first ++ given key second := by
  simp [given]

theorem given_snoc (key : String) (members : List (String × Bytes)) (value : Bytes) :
    given key (members ++ [(key, value)]) = given key members ++ [value] := by
  simp [given]

theorem given_snoc_other {key other : String} (different : other ≠ key)
    (members : List (String × Bytes)) (value : Bytes) :
    given key (members ++ [(other, value)]) = given key members := by
  simp [given, different]

theorem Known.other {α : Type} {Spells : α → Bytes → Prop} {known : Option α} {key other : String}
    {seen : List (String × Bytes)} (already : Known Spells known (given key seen))
    (different : other ≠ key) (value : Bytes) :
    Known Spells known (given key (seen ++ [(other, value)])) := by
  rwa [given_snoc_other different]

theorem Known.same {α : Type} {Spells : α → Bytes → Prop} {known : Option α} {key : String}
    {seen : List (String × Bytes)} {value : Bytes}
    (grown : Known Spells known (given key seen ++ [value])) :
    Known Spells known (given key (seen ++ [(key, value)])) := by
  rwa [given_snoc]

theorem Spoiled.append {first : List (String × Bytes)} (spoiled : Spoiled first)
    (second : List (String × Bytes)) : Spoiled (first ++ second) := by
  obtain ⟨field, many | ⟨value, member, unfit⟩⟩ := spoiled
  · refine ⟨field, .inl ?_⟩
    rw [given_append, List.length_append]
    exact Nat.le_add_right_of_le many
  · refine ⟨field, .inr ⟨value, ?_, unfit⟩⟩
    rw [given_append]
    exact List.mem_append_left _ member

theorem Spoiled.flawed {members : List (String × Bytes)} : Spoiled members → Flawed members :=
  fun ⟨field, flaw⟩ => ⟨field, .inr flaw⟩

structure Seen (draft : Draft) (members : List (String × Bytes)) : Prop where
  customer : Known (fun n : UInt32 => Natural n.toNat) draft.customer (given "customer" members)
  sku : Known Quoted draft.sku (given "sku" members)
  quantity : Known (fun n : UInt32 => Natural n.toNat) draft.quantity (given "quantity" members)
  cents : Known (fun n : UInt64 => Natural n.toNat) draft.cents (given "cents" members)

theorem seen_nil : Seen {} [] := ⟨rfl, rfl, rfl, rfl⟩

/-! Members. -/

section
variable {draft : Draft} {seen : List (String × Bytes)} {colon value rest : Bytes}
  (between : Mark ':' colon) (formed : WellFormed (fun _ => True) value) (ended : Ended rest)
include between formed ended

def Stepped (draft : Draft) (seen : List (String × Bytes)) (key : String) (value bytes rest : Bytes) :
    Prop :=
  (∃ later blanks, Blanks blanks ∧ draft.readMember key bytes = .ok (later, blanks ++ rest) ∧
    Seen later (seen ++ [(key, value)])) ∨
  (draft.readMember key bytes = .error .mistyped ∧ Spoiled (seen ++ [(key, value)]))

theorem readMember_field {α : Type} {read : Bytes → Reading α} {Spells : α → Bytes → Prop}
    (reads : Reads read Spells) (field : Field) {known : Option α} (update : α → Draft)
    (finite : ∀ numeral : Numeral, value = numeral.bytes → numeral.Finite)
    (taken : ∀ bytes, draft.readMember field.key bytes =
      (readField known read bytes).map fun (a, rest) => (update a, rest))
    (fits : field.Fits value → ∃ a, Spells a value)
    (already : Known Spells known (given field.key seen))
    (kept : ∀ a, Known Spells (some a) (given field.key seen ++ [value]) →
      Seen (update a) (seen ++ [(field.key, value)])) :
    Stepped draft seen field.key value (colon ++ (value ++ rest)) rest := by
  have step := readField_member reads already between formed finite ended
  rcases step with ⟨a, read, known⟩ | ⟨refused, flaw⟩
  · refine .inl ⟨update a, [], blanks_nil, ?_, kept a known⟩
    rw [taken, read]
    rfl
  · refine .inr ⟨by rw [taken, refused]; rfl, field, ?_⟩
    rw [given_snoc]
    rcases flaw with many | unfit
    · exact .inl many
    · refine .inr ⟨value, List.mem_append_right _ List.mem_cons_self, fun fit => ?_⟩
      obtain ⟨a, spelled⟩ := fits fit
      exact unfit a spelled

theorem readMember_other {key : String} (other : ∀ field : Field, key ≠ field.key)
    (known : Seen draft seen) :
    Stepped draft seen key value (colon ++ (value ++ rest)) rest := by
  obtain @⟨left, right, leftBlank, rightBlank⟩ := between
  have colon : readColon (left ++ ':'.toUInt8 :: right ++ (value ++ rest)) =
      .ok (right ++ (value ++ rest)) :=
    readColon_eq_ok_iff.mpr ⟨left, leftBlank, by simp only [List.append_assoc, List.cons_append]⟩
  obtain ⟨blanks, blank, skipped⟩ := skipValue_wellFormed formed rightBlank ended
  refine .inl ⟨draft, blanks, blank, ?_, ?_⟩
  · have customer := other .customer
    have sku := other .sku
    have quantity := other .quantity
    have cents := other .cents
    simp only [Field.key] at customer sku quantity cents
    simp only [Draft.readMember, customer, sku, quantity, cents, ↓reduceIte, skipMember, colon, skipped,
      Except.map]
  · exact ⟨known.customer.other (other .customer) value, known.sku.other (other .sku) value,
      known.quantity.other (other .quantity) value, known.cents.other (other .cents) value⟩

theorem readMember_step {key : String}
    (finite : ∀ field : Field, key = field.key → ∀ numeral : Numeral, value = numeral.bytes →
      numeral.Finite) (known : Seen draft seen) :
    Stepped draft seen key value (colon ++ (value ++ rest)) rest := by
  by_cases named : ∃ field : Field, key = field.key
  · obtain ⟨field, rfl⟩ := named
    have fin := finite field rfl
    cases field with
    | customer =>
        apply readMember_field between formed ended readSmall_reads .customer
          (fun a => { draft with customer := some a }) fin (fun _ => rfl) id known.customer
        exact fun a grown => ⟨grown.same, known.sku.other (by decide) value,
          known.quantity.other (by decide) value, known.cents.other (by decide) value⟩
    | sku =>
        apply readMember_field between formed ended readText_reads .sku
          (fun a => { draft with sku := some a }) fin (fun _ => rfl) id known.sku
        exact fun a grown => ⟨known.customer.other (by decide) value, grown.same,
          known.quantity.other (by decide) value, known.cents.other (by decide) value⟩
    | quantity =>
        apply readMember_field between formed ended readSmall_reads .quantity
          (fun a => { draft with quantity := some a }) fin (fun _ => rfl) id known.quantity
        exact fun a grown => ⟨known.customer.other (by decide) value,
          known.sku.other (by decide) value, grown.same, known.cents.other (by decide) value⟩
    | cents =>
        apply readMember_field between formed ended readLarge_reads .cents
          (fun a => { draft with cents := some a }) fin (fun _ => rfl) id known.cents
        exact fun a grown => ⟨known.customer.other (by decide) value,
          known.sku.other (by decide) value, known.quantity.other (by decide) value, grown.same⟩
  · exact readMember_other between formed ended (fun field same => named ⟨field, same⟩) known

end

/-! Objects. -/

theorem finish_cases {draft : Draft} {members : List (String × Bytes)} (known : Seen draft members) :
    (∃ order, draft.finish? = some order ∧ Describes members order) ∨
      (draft.finish? = none ∧ Flawed members) := by
  obtain ⟨customer, sku, quantity, cents⟩ := draft
  cases customer with
  | none => exact .inr ⟨rfl, .customer, .inl known.customer⟩
  | some customer =>
      cases sku with
      | none => exact .inr ⟨rfl, .sku, .inl known.sku⟩
      | some sku =>
          cases quantity with
          | none => exact .inr ⟨rfl, .quantity, .inl known.quantity⟩
          | some quantity =>
              cases cents with
              | none => exact .inr ⟨rfl, .cents, .inl known.cents⟩
              | some cents =>
                  exact .inl ⟨_, rfl, known.customer, known.sku, known.quantity, known.cents⟩

/-- What becomes of the members of an object, without the lengths by which their reading ends. -/
theorem readMembers_step (first : Bool) (draft : Draft) (bytes : Bytes) :
    readMembers first draft bytes =
      match Json.nextKey first bytes with
      | .error fault => .error fault
      | .ok (none, rest) =>
          match draft.finish? with
          | some order => .ok (order, rest)
          | none => .error .mistyped
      | .ok (some key, rest) =>
          match draft.readMember key rest with
          | .error fault => .error fault
          | .ok (draft, rest) => readMembers false draft rest := by
  rw [readMembers]
  repeat' split
  all_goals simp_all

def Decided (read : Reading Order) (members : List (String × Bytes)) (rest : Bytes) : Prop :=
  (∃ order, read = .ok (order, rest) ∧ Describes members order) ∨
    (read = .error .mistyped ∧ Flawed members)

theorem readMembers_end (first : Bool) {draft : Draft} {members : List (String × Bytes)}
    (known : Seen draft members) {blanks : Bytes} (blank : Blanks blanks) (rest : Bytes) :
    Decided (readMembers first draft (blanks ++ '\x7d'.toUInt8 :: rest)) members rest := by
  have ended : nextKey first (blanks ++ '\x7d'.toUInt8 :: rest) = .ok (none, rest) :=
    nextKey_none_iff.mpr ⟨blanks, blank, rfl⟩
  rw [readMembers_step]
  rcases finish_cases known with ⟨order, complete, described⟩ | ⟨incomplete, flawed⟩
  · exact .inl ⟨order, by simp only [ended, complete], described⟩
  · exact .inr ⟨by simp only [ended, incomplete], flawed⟩

/-- The values of members are well formed, and numbers that stand for fields are in range. -/
structure Admissible (members : List (String × Bytes)) : Prop where
  formed : ∀ member ∈ members, WellFormed (fun _ => True) member.2
  finite : ∀ (field : Field) (numeral : Numeral), (field.key, numeral.bytes) ∈ members →
    numeral.Finite

theorem Admissible.tail {member : String × Bytes} {members : List (String × Bytes)}
    (admissible : Admissible (member :: members)) : Admissible members where
  formed other listed := admissible.formed other (List.mem_cons_of_mem member listed)
  finite field numeral listed := admissible.finite field numeral (List.mem_cons_of_mem member listed)

theorem Admissible.head {key : String} {value : Bytes} {members : List (String × Bytes)}
    (admissible : Admissible ((key, value) :: members)) (field : Field) (named : key = field.key)
    (numeral : Numeral) (spelled : value = numeral.bytes) : numeral.Finite := by
  apply admissible.finite field numeral
  rw [← named, ← spelled]
  exact List.mem_cons_self

/-- A member whose key comes next refuses the object for good, or the members after it decide. -/
theorem readMembers_member {first : Bool} {draft : Draft} {seen members : List (String × Bytes)}
    {key : String} {bytes colon value after rest : Bytes} (known : Seen draft seen)
    (admissible : Admissible ((key, value) :: members))
    (next : nextKey first bytes = .ok (some key, colon ++ (value ++ after)))
    (between : Mark ':' colon) (ended : Ended after)
    (remaining : ∀ later blanks, Seen later (seen ++ [(key, value)]) → Blanks blanks →
      Decided (readMembers false later (blanks ++ after)) (seen ++ [(key, value)] ++ members) rest) :
    Decided (readMembers first draft bytes) (seen ++ (key, value) :: members) rest := by
  have formed := admissible.formed (key, value) List.mem_cons_self
  have whole : seen ++ (key, value) :: members = seen ++ [(key, value)] ++ members := by
    rw [List.append_assoc, List.singleton_append]
  rw [readMembers_step, whole]
  rcases readMember_step between formed ended admissible.head known with
    ⟨later, blanks, blank, read, grown⟩ | ⟨refused, spoiled⟩
  · simp only [next, read]
    exact remaining later blanks grown blank
  · exact .inr ⟨by simp only [next, refused], (spoiled.append members).flawed⟩

theorem ended_members {members : List (String × Bytes)} {bytes finish : Bytes}
    (listed : Listed Entry members bytes) (closed : Blanks finish) (rest : Bytes) :
    Ended (bytes ++ (finish ++ '\x7d'.toUInt8 :: rest)) := by
  have closing : Mark '\x7d' (finish ++ '\x7d'.toUInt8 :: []) := .blanks closed blanks_nil
  have ended := ended_listed listed (by decide) closing rest
  simpa only [List.append_assoc, List.cons_append, List.nil_append] using ended

theorem readMembers_listed {members : List (String × Bytes)} {bytes finish : Bytes}
    (listed : Listed Entry members bytes) (closed : Blanks finish) {draft : Draft}
    {seen : List (String × Bytes)} (known : Seen draft seen) (admissible : Admissible members)
    {blanks : Bytes} (blank : Blanks blanks) (rest : Bytes) :
    Decided (readMembers false draft (blanks ++ (bytes ++ (finish ++ '\x7d'.toUInt8 :: rest))))
      (seen ++ members) rest := by
  -- Each member leaves the fields that are known after it, or refuses the object for good.
  induction listed generalizing draft seen blanks with
  | none =>
      have ended := readMembers_end false known (blanks_append blank closed) rest
      simpa only [List.append_assoc, List.nil_append, List.append_nil] using ended
  | @more member members comma spelled later between next further ih =>
      obtain @⟨key, name, colon, value, quoted, mark⟩ := next
      obtain @⟨left, right, leftBlank, rightBlank⟩ := between
      have comma : Mark ',' (blanks ++ left ++ ','.toUInt8 :: right) :=
        .blanks (blanks_append blank leftBlank) rightBlank
      have start : nextKey false (blanks ++ (left ++ ','.toUInt8 :: right ++
          (name ++ (colon ++ value) ++ later) ++ (finish ++ '\x7d'.toUInt8 :: rest))) =
            .ok (some key, colon ++ (value ++ (later ++ (finish ++ '\x7d'.toUInt8 :: rest)))) :=
        nextKey_false_iff.mpr ⟨_, name, comma, quoted, by simp only [List.append_assoc, List.cons_append]⟩
      exact readMembers_member known admissible start mark (ended_members further closed rest)
        fun _ _ grown gap => ih grown admissible.tail gap

theorem ofJson_cases {members : List (String × Bytes)} {bytes : Bytes}
    (object : Enclosed Entry '\x7b' '\x7d' members bytes) (admissible : Admissible members) :
    (∃ order, ofJson bytes = .ok order ∧ Describes members order) ∨
      (ofJson bytes = .error .mistyped ∧ Flawed members) := by
  obtain ⟨blanks, inside, rest, blank, last, rfl, decided⟩ :
      ∃ blanks inside rest, Blanks blanks ∧ Blanks rest ∧
        bytes = blanks ++ '\x7b'.toUInt8 :: inside ∧
        Decided (readMembers true {} inside) members rest := by
    cases object with
    | empty opened closed =>
        obtain @⟨before, after, left, right⟩ := opened
        obtain @⟨finish, rest, inner, last⟩ := closed
        have ended := readMembers_end true seen_nil (blanks_append right inner) rest
        refine ⟨before, _, rest, left, last, ?_, ended⟩
        simp only [List.append_assoc, List.cons_append]
    | @items member members start spelled further finish opened first later closed =>
        obtain @⟨before, after, left, right⟩ := opened
        obtain @⟨finish, rest, inner, last⟩ := closed
        obtain @⟨key, name, colon, value, quoted, mark⟩ := first
        have start : nextKey true (after ++ (name ++ (colon ++ value) ++
            (further ++ (finish ++ '\x7d'.toUInt8 :: rest)))) =
              .ok (some key, colon ++ (value ++ (further ++ (finish ++ '\x7d'.toUInt8 :: rest)))) :=
          nextKey_true_iff.mpr ⟨after, name, right, quoted, by simp only [List.append_assoc]⟩
        have decided := readMembers_member seen_nil admissible start mark
          (ended_members later inner rest)
          fun _ _ grown gap => readMembers_listed later inner grown admissible.tail gap rest
        refine ⟨before, _, rest, left, last, ?_, decided⟩
        simp only [List.append_assoc, List.cons_append]
  have read : readOrder (blanks ++ '\x7b'.toUInt8 :: inside) = readMembers true {} inside := by
    rw [readOrder, skipBlanks_solid blank (by decide)]
    rfl
  rcases decided with ⟨order, complete, described⟩ | ⟨refused, flawed⟩
  · exact .inl ⟨order, Metadata.document_eq_ok_iff.mpr ⟨rest, read.trans complete, last⟩, described⟩
  · exact .inr ⟨by rw [ofJson, document, read, refused], flawed⟩

/-! Descriptions. -/

theorem mem_given_iff {key : String} {value : Bytes} {members : List (String × Bytes)} :
    value ∈ given key members ↔ (key, value) ∈ members := by
  simp [given]

theorem finite_of_natural {n : Nat} {numeral : Numeral} (natural : Natural n numeral.bytes)
    (small : n < UInt64.size) : numeral.Finite := by
  have ended : Ended [] := fun b next => by cases next
  have read := readNumber_natural natural small ended
  rw [readNumber_numeral numeral ended] at read
  have number : numeral.number = ⟨false, n, 0, true⟩ := by
    unfold finishNumber at read
    split at read
    · cases read
    · exact (Prod.mk.inj (Except.ok.inj read)).1
  have range : outOfRange n (0 : Nat) = false := by
    apply not_outOfRange
    have least : UInt64.size * 2 ^ 60 ≤ thirdDouble * (2 ^ 60 + 1) := by decide +kernel
    rw [Nat.pow_zero, Nat.mul_one]
    exact Nat.le_trans (Nat.mul_le_mul_right _ (Nat.le_of_lt small)) least
  rw [Numeral.Finite, number]
  exact range

theorem not_quoted_numeral (numeral : Numeral) (text : String) : ¬ Quoted text numeral.bytes := by
  intro spelled
  obtain ⟨inner, made⟩ := quoted_eq_cons spelled
  obtain ⟨b, tail, other, start⟩ := numeral_cons numeral
  rw [made] at other
  cases other
  cases start

theorem natural_unique {m n : Nat} {bytes : Bytes} (first : Natural m bytes)
    (second : Natural n bytes) : m = n := by
  have value {k : Nat} (natural : Natural k bytes) : k = digitsFrom 0 bytes := by
    cases natural
    rfl
  rw [value first, value second]

theorem quoted_unique {first second : String} {quoted : Bytes} (left : Quoted first quoted)
    (right : Quoted second quoted) : first = second := by
  obtain ⟨inner, rfl⟩ := quoted_eq_cons left
  have one : readString (inner ++ []) = .ok (first, []) :=
    readString_eq_ok_iff.mpr ⟨_, left, rfl⟩
  have other : readString (inner ++ []) = .ok (second, []) :=
    readString_eq_ok_iff.mpr ⟨_, right, rfl⟩
  rw [one] at other
  cases other
  rfl

namespace Describes
variable {members : List (String × Bytes)} {order : Order} (described : Describes members order)
include described

theorem fits (field : Field) : ∃ value, given field.key members = [value] ∧ field.Fits value := by
  cases field with
  | customer => exact described.customer.imp fun _ found => ⟨found.1, _, found.2⟩
  | sku => exact described.sku.imp fun _ found => ⟨found.1, _, found.2⟩
  | quantity => exact described.quantity.imp fun _ found => ⟨found.1, _, found.2⟩
  | cents => exact described.cents.imp fun _ found => ⟨found.1, _, found.2⟩

theorem not_flawed : ¬ Flawed members := by
  rintro ⟨field, flaw⟩
  obtain ⟨value, single, fit⟩ := described.fits field
  rw [single] at flaw
  rcases flaw with missing | many | ⟨other, member, unfit⟩
  · cases missing
  · simp at many
  · obtain rfl := List.mem_singleton.mp member
    exact unfit fit

theorem finite (field : Field) (numeral : Numeral) (member : (field.key, numeral.bytes) ∈ members) :
    numeral.Finite := by
  obtain ⟨value, single, fit⟩ := described.fits field
  have same : numeral.bytes = value := by
    have found := mem_given_iff.mpr member
    rw [single] at found
    exact List.mem_singleton.mp found
  subst same
  cases field with
  | customer =>
      obtain ⟨n, natural⟩ := fit
      exact finite_of_natural natural (Nat.lt_trans n.toNat_lt (by decide))
  | sku =>
      obtain ⟨text, spelled⟩ := fit
      exact absurd spelled (not_quoted_numeral numeral text)
  | quantity =>
      obtain ⟨n, natural⟩ := fit
      exact finite_of_natural natural (Nat.lt_trans n.toNat_lt (by decide))
  | cents =>
      obtain ⟨n, natural⟩ := fit
      exact finite_of_natural natural n.toNat_lt

theorem unique {other : Order} (second : Describes members other) : order = other := by
  have same {value next : Bytes} {values : List Bytes} (left : values = [value])
      (right : values = [next]) : value = next := (List.cons.inj (left.symm.trans right)).1
  obtain ⟨⟨a, customer, n⟩, ⟨b, sku, text⟩, ⟨c, quantity, m⟩, d, cents, k⟩ := described
  obtain ⟨⟨_, customer', n'⟩, ⟨_, sku', text'⟩, ⟨_, quantity', m'⟩, _, cents', k'⟩ := second
  obtain rfl := same customer customer'
  obtain rfl := same sku sku'
  obtain rfl := same quantity quantity'
  obtain rfl := same cents cents'
  obtain ⟨_, _, _, _⟩ := order
  obtain ⟨_, _, _, _⟩ := other
  obtain rfl := UInt32.toNat_inj.mp (natural_unique n n')
  obtain rfl := quoted_unique text text'
  obtain rfl := UInt32.toNat_inj.mp (natural_unique m m')
  obtain rfl := UInt64.toNat_inj.mp (natural_unique k k')
  rfl

end Describes

section
variable {members : List (String × Bytes)} {bytes : Bytes}
  (object : Enclosed Entry '\x7b' '\x7d' members bytes)
  (formed : ∀ member ∈ members, WellFormed (fun _ => True) member.2)
include object formed

theorem ofJson_described {order : Order} (described : Describes members order) :
    ofJson bytes = .ok order := by
  rcases ofJson_cases object ⟨formed, described.finite⟩ with ⟨other, read, found⟩ | ⟨-, flawed⟩
  · rw [read, described.unique found]
  · exact absurd flawed described.not_flawed

theorem ofJson_flawed (finite : ∀ (field : Field) (numeral : Numeral),
      (field.key, numeral.bytes) ∈ members → numeral.Finite) (flawed : Flawed members) :
    ofJson bytes = .error .mistyped := by
  rcases ofJson_cases object ⟨formed, finite⟩ with ⟨order, -, described⟩ | ⟨refused, -⟩
  · exact absurd flawed described.not_flawed
  · exact refused

end

end TopicLog.Order
