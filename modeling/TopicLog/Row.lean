import TopicLog.Failure
import TopicLog.Message
import TopicLog.Codec
import TopicLog.Value

/-!
Rows as they come back from a selection, and the delivery that a row holds. Columns are read by
position and wanted type. The five columns of a delivery are read from left to right, and the first
one that cannot be read decides the failure.
-/
namespace TopicLog

structure Row where
  int : Nat → Except Failure Int
  text : Nat → Except Failure String
  /-- A null is no bytes at all, which differs from an empty value. -/
  blob : Nat → Except Failure (Option Bytes)

namespace Row

/-- The columns that a database returned. A value read as bytes may also be text. -/
def ofColumns (columns : List Value) : Row :=
  let wrong (index : Nat) : Failure := .scan index (.driver .columnDecode)
  { int := fun index => match columns[index]? with
      | some (.int n) => .ok n
      | _ => .error (wrong index)
    text := fun index => match columns[index]? with
      | some (.text s) => .ok s
      | _ => .error (wrong index)
    blob := fun index => match columns[index]? with
      | some (.blob bytes) => .ok (some bytes)
      | some (.text s) => .ok (some (Utf8.encode s))
      | some .null => .ok none
      | _ => .error (wrong index) }

/-- Values put together by hand, which are read as exactly what they are. -/
def ofValues (values : List Value) : Row :=
  let read {α : Type} (index : Nat) (wanted : Value → Option α) : Except Failure α :=
    match values[index]? with
    | none => .error (.scan index (.other "column out of range"))
    | some value => match wanted value with
      | some a => .ok a
      | none => .error (.scan index (.other "unexpected column type"))
  { int := fun index => read index fun | .int n => some n | _ => none
    text := fun index => read index fun | .text s => some s | _ => none
    blob := fun index => read index fun
      | .blob bytes => some (some bytes)
      | .null => some none
      | _ => none }

def createdAt (offset : Int) (text : String) : Except Failure Timestamp :=
  match Timestamp.ofText? text with
  | some moment => .ok moment
  | none => .error (.decode (some offset) ("invalid created_at " ++ quoted text) none)

/-- The metadata of a row, from the bytes of their column; none at all count as empty. -/
def metadata (codec : Codec) (offset : Int) : Option Bytes → Except Failure Metadata
  | none => .ok .empty
  | some bytes =>
      match codec.decode bytes with
      | .ok metadata => .ok metadata
      | .error cause => .error (.decode (some offset) "could not decode metadata" (some cause))

def delivery (row : Row) (codec : Codec) : Except Failure Delivery := do
  let offset ← row.int 0
  let uuid ← row.text 1
  let createdAt ← createdAt offset (← row.text 2)
  let payload ← row.blob 3
  let metadata ← metadata codec offset (← row.blob 4)
  return { offset, createdAt, message := { uuid, payload := payload.getD [], metadata } }

end Row
end TopicLog
