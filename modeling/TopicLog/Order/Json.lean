import TopicLog.Order
import TopicLog.Json.Skip

/-!
Orders as JSON. Writing gives an object with the four fields in declaration order. Reading takes the
fields of an object in any order and passes over members with other keys, or takes an array of the
four values; a field that is missing or given twice is a mismatch.
-/
namespace TopicLog.Order

def writeNumber (n : Nat) : Bytes := (Nat.toDigits 10 n).map Char.toUInt8

def writeMember (key : String) (value : Bytes) : Bytes :=
  Json.writeText key ++ ':'.toUInt8 :: value

def toJson (order : Order) : Bytes :=
  '\x7b'.toUInt8 :: (writeMember "customer" (writeNumber order.customer.toNat) ++
    ','.toUInt8 :: writeMember "sku" (Json.writeText order.sku) ++
    ','.toUInt8 :: writeMember "quantity" (writeNumber order.quantity.toNat) ++
    ','.toUInt8 :: writeMember "cents" (writeNumber order.cents.toNat) ++ ['\x7d'.toUInt8])

/-- The message that carries an order; its metadata name the customer. -/
def toMessage (order : Order) (uuid : String) : Message :=
  ({ uuid, payload := order.toJson } : Message).withMetadata
    "customer" (toString order.customer.toNat)

structure Draft where
  customer : Option UInt32 := none
  sku : Option String := none
  quantity : Option UInt32 := none
  cents : Option UInt64 := none

def Draft.finish? (draft : Draft) : Option Order := do
  return ⟨← draft.customer, ← draft.sku, ← draft.quantity, ← draft.cents⟩

def readSmall (bytes : Bytes) : Json.Reading UInt32 :=
  (Json.readNatural UInt32.size bytes).map fun (n, rest) => (.ofNat n, rest)

def readLarge (bytes : Bytes) : Json.Reading UInt64 :=
  (Json.readNatural UInt64.size bytes).map fun (n, rest) => (.ofNat n, rest)

/-- Reads a field that must not have been given before; that is found out before its colon. -/
def readField {α : Type} (known : Option α) (read : Bytes → Json.Reading α)
    (bytes : Bytes) : Json.Reading α :=
  if known.isSome then .error .mistyped
  else match Json.readColon bytes with
    | .error fault => .error fault
    | .ok rest => read rest

def skipMember (bytes : Bytes) : Except Json.Fault Bytes :=
  match Json.readColon bytes with
  | .error fault => .error fault
  | .ok rest => Json.skipValue [] rest

def Draft.readMember (draft : Draft) (key : String) (bytes : Bytes) : Json.Reading Draft :=
  if key = "customer" then
    (readField draft.customer readSmall bytes).map fun (value, rest) =>
      ({ draft with customer := some value }, rest)
  else if key = "sku" then
    (readField draft.sku Json.readText bytes).map fun (value, rest) =>
      ({ draft with sku := some value }, rest)
  else if key = "quantity" then
    (readField draft.quantity readSmall bytes).map fun (value, rest) =>
      ({ draft with quantity := some value }, rest)
  else if key = "cents" then
    (readField draft.cents readLarge bytes).map fun (value, rest) =>
      ({ draft with cents := some value }, rest)
  else (skipMember bytes).map fun rest => (draft, rest)

theorem map_rest {α β : Type} {reading : Json.Reading α} {f : α → β} {value : β} {rest : Bytes}
    (read : (reading.map fun (a, rest) => (f a, rest)) = .ok (value, rest)) :
    ∃ a, reading = .ok (a, rest) := by
  cases reading with
  | error fault => cases read
  | ok pair => exact ⟨pair.1, by rw [← (Prod.mk.inj (Except.ok.inj read)).2]⟩

theorem readField_length {α : Type} {known : Option α} {read : Bytes → Json.Reading α}
    (reads : ∀ bytes value rest, read bytes = .ok (value, rest) → rest.length < bytes.length)
    {bytes rest : Bytes} {value : α} (found : readField known read bytes = .ok (value, rest)) :
    rest.length < bytes.length := by
  unfold readField at found
  repeat' split at found
  · contradiction
  · contradiction
  · exact Nat.lt_trans (reads _ _ _ found) (Json.readColon_length ‹_›)

theorem readSmall_length (bytes : Bytes) (value : UInt32) (rest : Bytes)
    (read : readSmall bytes = .ok (value, rest)) : rest.length < bytes.length := by
  obtain ⟨_, found⟩ := map_rest (f := fun n : Fin UInt32.size => UInt32.ofNat n) read
  exact Json.readNatural_length found

theorem readLarge_length (bytes : Bytes) (value : UInt64) (rest : Bytes)
    (read : readLarge bytes = .ok (value, rest)) : rest.length < bytes.length := by
  obtain ⟨_, found⟩ := map_rest (f := fun n : Fin UInt64.size => UInt64.ofNat n) read
  exact Json.readNatural_length found

theorem skipMember_length {bytes rest : Bytes} (read : skipMember bytes = .ok rest) :
    rest.length < bytes.length := by
  unfold skipMember at read
  split at read
  · contradiction
  · exact Nat.lt_trans (Json.skipValue_length read) (Json.readColon_length ‹_›)

theorem readMember_length {draft result : Draft} {key : String} {bytes rest : Bytes}
    (read : draft.readMember key bytes = .ok (result, rest)) : rest.length < bytes.length := by
  unfold Draft.readMember at read
  repeat' split at read
  · obtain ⟨_, found⟩ := map_rest (f := fun value => { draft with customer := some value }) read
    exact readField_length readSmall_length found
  · obtain ⟨_, found⟩ := map_rest (f := fun value => { draft with sku := some value }) read
    exact readField_length (fun _ _ _ => Json.readText_length) found
  · obtain ⟨_, found⟩ := map_rest (f := fun value => { draft with quantity := some value }) read
    exact readField_length readSmall_length found
  · obtain ⟨_, found⟩ := map_rest (f := fun value => { draft with cents := some value }) read
    exact readField_length readLarge_length found
  · cases found : skipMember bytes with
    | error fault => simp [found, Except.map] at read
    | ok after =>
        simp only [found, Except.map] at read
        obtain ⟨_, rfl⟩ := Prod.mk.inj (Except.ok.inj read)
        exact skipMember_length found

def readMembers (first : Bool) (draft : Draft) (bytes : Bytes) : Json.Reading Order :=
  match _key : Json.nextKey first bytes with
  | .error fault => .error fault
  | .ok (none, rest) =>
      match draft.finish? with
      | some order => .ok (order, rest)
      | none => .error .mistyped
  | .ok (some key, rest) =>
      match _member : draft.readMember key rest with
      | .error fault => .error fault
      | .ok (draft, rest) => readMembers false draft rest
termination_by bytes.length
decreasing_by exact Nat.lt_trans (readMember_length _member) (Json.nextKey_length _key)

def readElement {α : Type} (first : Bool) (read : Bytes → Json.Reading α) (bytes : Bytes) :
    Except Json.Fault (α × Bytes) :=
  (Json.nextElement first bytes).bind read

def readElements (bytes : Bytes) : Except Json.Fault (Order × Bytes) := do
  let (customer, bytes) ← readElement true readSmall bytes
  let (sku, bytes) ← readElement false Json.readText bytes
  let (quantity, bytes) ← readElement false readSmall bytes
  let (cents, bytes) ← readElement false readLarge bytes
  let bytes ← Json.endArray bytes
  return (⟨customer, sku, quantity, cents⟩, bytes)

def readOrder (bytes : Bytes) : Json.Reading Order :=
  match Json.skipBlanks bytes with
  | [] => .error .truncated
  | b :: rest =>
      if b = '\x7b'.toUInt8 then readMembers true {} rest
      else if b = '['.toUInt8 then readElements rest
      else .error (Json.mismatch (b :: rest))

def ofJson (bytes : Bytes) : Except Json.Fault Order := Json.document readOrder bytes

end TopicLog.Order
