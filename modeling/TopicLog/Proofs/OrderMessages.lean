import TopicLog.Proofs.CanonicalMetadata
import TopicLog.Proofs.Fidelity
import TopicLog.Proofs.OrderFields

/-!
Orders as they travel. A written order is an object with the four fields, each number in plain decimal,
so it is read as it was, whatever characters its article has. Delivery keeps payloads, so an order
that was published is still the same when it is handed over.
-/
namespace TopicLog.Order
open Json

/-! Written numbers. -/

theorem isDigitByte_written {c : Char} (digit : Decimal.isDigit c) :
    isDigitByte c.toUInt8 = true ∧ c.toUInt8.toNat = c.toNat := by
  have bounds := Decimal.digit_bounds digit
  have value : c.toUInt8.toNat = c.toNat := by
    rw [Char.toUInt8, UInt32.toNat_toUInt8]
    exact Nat.mod_eq_of_lt (Nat.lt_of_le_of_lt bounds.2 (by decide))
  refine ⟨?_, value⟩
  rw [isDigitByte, value]
  simpa using bounds

theorem digitsFrom_written {chars : List Char} (all : ∀ c ∈ chars, Decimal.isDigit c) (start : Nat) :
    digitsFrom start (chars.map Char.toUInt8) = Nat.ofDigitChars 10 chars start := by
  induction chars generalizing start with
  | nil => rfl
  | cons c rest ih =>
      have value := (isDigitByte_written (all c List.mem_cons_self)).2
      have later := ih fun other member => all other (List.mem_cons_of_mem c member)
      rw [Nat.ofDigitChars_cons, List.map_cons, digitsFrom, List.foldl_cons, value, Nat.mul_comm]
      exact later _

theorem digits_toDigits (n : Nat) : ∀ c ∈ Nat.toDigits 10 n, Decimal.isDigit c := by
  intro c member
  rw [Decimal.isDigit_eq]
  exact Nat.isDigit_of_mem_toDigits (by decide) (by decide) member

theorem digitsFrom_writeNumber (n : Nat) : digitsFrom 0 (writeNumber n) = n := by
  rw [writeNumber, digitsFrom_written (digits_toDigits n), Nat.ofDigitChars_ten_toDigits]

theorem writeNumber_digit {n : Nat} {b : UInt8} (member : b ∈ writeNumber n) :
    isDigitByte b = true := by
  obtain ⟨c, inside, rfl⟩ := List.mem_map.mp member
  exact (isDigitByte_written (digits_toDigits n c inside)).1

theorem writeNumber_trimmed {n : Nat} {tail : Bytes} (made : writeNumber n = '0'.toUInt8 :: tail) :
    tail = [] := by
  have length : (Nat.toDigits 10 n).length = tail.length + 1 := by
    rw [← List.length_map Char.toUInt8, ← List.length_cons, ← made]
    rfl
  cases tail with
  | nil => rfl
  | cons b rest =>
      -- Without the zero in front the number has the same value in fewer digits.
      have value : digitsFrom 0 (b :: rest) = n := by
        have whole := digitsFrom_writeNumber n
        rwa [made] at whole
      have bound := digitsFrom_lt 0 fun c (member : c ∈ b :: rest) =>
        writeNumber_digit (made ▸ List.mem_cons_of_mem _ member)
      rw [value, Nat.zero_add, Nat.one_mul] at bound
      have fewer := (Nat.length_toDigits_le_iff (by decide) (Nat.succ_pos rest.length)).mpr bound
      rw [length, List.length_cons] at fewer
      omega

theorem natural_writeNumber (n : Nat) : Natural n (writeNumber n) := by
  let digits : Json.Digits :=
    { bytes := writeNumber n
      digit := fun _ member => writeNumber_digit member
      any := fun none => Nat.toDigits_ne_nil (List.map_eq_nil_iff.mp none) }
  have trimmed : digits.Trimmed := by
    intro zero
    obtain ⟨tail, made⟩ : ∃ tail, writeNumber n = '0'.toUInt8 :: tail := List.head?_eq_some_iff.mp zero
    change (writeNumber n).length = 1
    rw [made, writeNumber_trimmed made]
    rfl
  have natural : Natural (digitsFrom 0 (writeNumber n)) (writeNumber n) := .digits digits trimmed
  rwa [digitsFrom_writeNumber] at natural

/-! Written orders. -/

def written (order : Order) : List (String × Bytes) :=
  [("customer", writeNumber order.customer.toNat), ("sku", writeText order.sku),
    ("quantity", writeNumber order.quantity.toNat), ("cents", writeNumber order.cents.toNat)]

theorem enclosed_written (order : Order) :
    Enclosed Entry '\x7b' '\x7d' order.written order.toJson := by
  have colon := mark_plain ':'
  have comma := mark_plain ','
  have object : Enclosed Entry '\x7b' '\x7d' order.written _ :=
    .items (mark_plain '\x7b') (.pair (quoted_writeText "customer") colon)
      (.more comma (.pair (quoted_writeText "sku") colon)
        (.more comma (.pair (quoted_writeText "quantity") colon)
          (.more comma (.pair (quoted_writeText "cents") colon) .none))) (mark_plain '\x7d')
  simpa only [toJson, writeMember, List.append_assoc, List.cons_append, List.nil_append] using object

theorem described_written (order : Order) : Describes order.written order :=
  ⟨⟨_, rfl, natural_writeNumber _⟩, ⟨_, rfl, quoted_writeText _⟩, ⟨_, rfl, natural_writeNumber _⟩,
    _, rfl, natural_writeNumber _⟩

theorem ofJson_toJson (order : Order) : ofJson order.toJson = .ok order := by
  apply ofJson_described order.enclosed_written _ order.described_written
  simp only [written, List.forall_mem_cons, List.not_mem_nil, false_imp_iff, implies_true, and_true]
  exact ⟨wellFormed_natural (natural_writeNumber _), .text (quoted_writeText _),
    wellFormed_natural (natural_writeNumber _), wellFormed_natural (natural_writeNumber _)⟩

end TopicLog.Order

namespace TopicLog

/-! Delivered orders. -/

/-- What a faithful log holds is handed over to a group that has acknowledged nothing, if its topic has
the database for itself. -/
theorem Faithful.delivers {σ : Type} {namings : Namings} {topic : String} {member : Member}
    {published : List Message} {system : System} {handler : Handler σ} {sizes : Nat → Sizing} (state : σ)
    (faithful : Faithful namings topic member.codec published system) (valid : isTopic topic = true)
    (dedicated : System.Dedicated namings topic system)
    (unreserved : isReserved (namings.messageTable topic) = false ∧
      isReserved (namings.cursorTable topic) = false)
    (undoes : member.codec.Undoes published)
    (accepts : ∀ delivery state, (handler delivery state).1 = some .accepted)
    (small : ∀ place, (sizes place).effective ≤ Value.greatestInteger)
    (closed : system.storage.holds = []) :
    let ready := (member.subscriber namings).setUp topic system.storage
    Cursors.bound member.group (namings.cursorRows topic ready.2.committed) = .int 0 →
    ready.1 = .ok () ∧ ∃ count, HandsOver published
      (member.drain namings topic handler (count + 1) sizes state ready.2).1 := by
  intro ready unacknowledged
  obtain ⟨done, ended, log, cursors, tables⟩ :=
    member.setUp_owned valid dedicated.everywhere.committed closed unreserved
  have kept : log = namings.log topic system.storage.committed :=
    (Database.logOf_eq tables.messages).symm.trans
      (member.setUp_log valid faithful.appendOnly.appending.tracks.consistent)
  have ordered : log.Ordered := kept ▸ faithful.appendOnly.appending.logged.ordered
  have bounded : Cursors.bound member.group cursors = .int 0 := by
    rw [← Database.cursorsOf_eq tables.cursors]
    exact unacknowledged
  refine ⟨done, ?_⟩
  apply Member.hands_over valid accepts small ⟨ended, ordered.toArranged, tables, bounded⟩ _ undoes
  rw [Log.pending_zero ordered, kept]
  exact faithful.rows

/-- The message of an order has the order for its payload and the customer for its metadata. Wherever
such messages are published to a topic that has the database for itself, each is handed over at its place
to a group that has acknowledged nothing, and its payload is still read as the order. -/
theorem orders_survive_messages :
    (∀ (order : Order) (uuid : String),
      Order.ofJson (order.toMessage uuid).payload = .ok order ∧
        (order.toMessage uuid).uuid = uuid ∧
        (order.toMessage uuid).metadata.entries =
          [("customer", toString order.customer.toNat)]) ∧
    (∀ {σ : Type} (topic : String) (clock : Timestamp) (events : List Event) (handler : Handler σ)
        (sizes : Nat → Sizing) (member : Member) (state : σ),
      let start : System := { storage := { clock } }
      let system := System.run .usual topic events start
      let published := System.published .usual topic events start
      let ready := (member.subscriber .usual).setUp topic system.storage
      member.codec = .json → isTopic topic = true → Timestamp.inEra clock.date.year = true →
      (∀ event ∈ events, event.IsFaithful .json) →
      (∀ delivery state, (handler delivery state).1 = some .accepted) →
      (∀ place, (sizes place).effective ≤ Value.greatestInteger) →
      system.storage.holds = [] →
      Cursors.bound member.group (Namings.usual.cursorRows topic ready.2.committed) = .int 0 →
      ready.1 = .ok () ∧ ∃ count,
        let polls := (member.drain .usual topic handler (count + 1) sizes state ready.2).1
        HandsOver published polls ∧
          ∀ (place : Nat) (order : Order) (uuid : String),
            published[place]? = some (order.toMessage uuid) →
            ∃ message, (messagesIn polls)[place]? = some message ∧
              Order.ofJson message.payload = .ok order) := by
  constructor
  · intro order uuid
    exact ⟨order.ofJson_toJson, rfl, rfl⟩
  · intro σ topic clock events handler sizes member state start system published ready json valid era
      plain accepts small closed unacknowledged
    have faithful : Faithful .usual topic member.codec published system :=
      json ▸ (Faithful.start .usual topic .json era).run valid plain
    have dedicated : System.Dedicated .usual topic system :=
      (System.Dedicated.start .usual topic clock).run valid events
    have undoes : member.codec.Undoes published := json ▸ Codec.json_undoes published
    obtain ⟨done, count, handsOver⟩ := faithful.delivers state valid dedicated (usual_unreserved topic)
      undoes accepts small closed unacknowledged
    refine ⟨done, count, handsOver, ?_⟩
    intro place order uuid found
    exact ⟨_, handsOver.handed.symm ▸ found, order.ofJson_toJson⟩

def oddOrder : Order := ⟨0, "\"\\/\x00\u2028😀", 4294967295, 18446744073709551615⟩

theorem orders_survive_messages_oddly :
    let member : Member := { settings := { group := "billing" } }
    let start : System := { storage := { clock := newYear } }
    let events : List Event := [.publish .json {} [] [oddOrder.toMessage "a", {}]]
    let ready := (member.subscriber .usual).setUp "orders"
      (System.run .usual "orders" events start).storage
    System.published .usual "orders" events start = [oddOrder.toMessage "a", {}] ∧
      ready.1 = .ok () ∧ ∃ count,
        let polls := (member.drain .usual "orders" acceptAll (count + 1) twoAndThree () ready.2).1
        ∃ message, (messagesIn polls)[0]? = some message ∧
          Order.ofJson message.payload = .ok oddOrder := by
  intro member start events ready
  have plain : ∀ event ∈ events, event.IsFaithful Codec.json := by
    simp [events, Event.IsFaithful]
  have accepts (delivery : Delivery) (state : Unit) :
      (acceptAll delivery state).1 = some .accepted := rfl
  have small (place : Nat) : (twoAndThree place).effective ≤ Value.greatestInteger := by
    unfold twoAndThree
    split <;> decide
  have published : System.published .usual "orders" events start = [oddOrder.toMessage "a", {}] := by
    decide +kernel
  obtain ⟨done, count, -, delivered⟩ := orders_survive_messages.2 "orders" newYear events
    acceptAll twoAndThree member () rfl (by decide) (by decide) plain accepts small (by decide +kernel)
    (by decide +kernel)
  exact ⟨published, done, count, delivered 0 oddOrder "a" (by rw [published]; rfl)⟩

end TopicLog
