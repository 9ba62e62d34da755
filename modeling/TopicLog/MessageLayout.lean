import TopicLog.CursorLayout
import TopicLog.Row
import TopicLog.Isolation

/-!
How the messages of a topic are kept: the statements that make, fill and read their table, and how a
row that was read becomes a delivery. A batch is encoded as a whole before its statement exists, so
one message that cannot be encoded leaves nothing of the batch.
-/
namespace TopicLog

structure MessageLayout where
  /-- Makes the table. Running it again changes nothing. -/
  setup : (topic : String) → Except Failure (List Statement)
  append : (topic : String) → List Message → Except Failure Statement
  /-- The next batch of a group: the messages after its bound in ascending order. -/
  fetch : (topic group : String) → CursorLayout → Except Failure Statement
  decode : Row → Except Failure Delivery
  /-- The weakest isolation in which a claim and the batch after it agree. -/
  isolation : Isolation

def Codec.record (codec : Codec) (message : Message) : Except Failure Record :=
  match codec.encode message.metadata with
  | .ok metadata => .ok ⟨message.uuid, message.payload, metadata⟩
  | .error cause => .error (.encoding message.uuid cause)

/-- The records of a batch; the first message that cannot be encoded decides the failure. -/
def Codec.records (codec : Codec) : List Message → Except Failure (List Record)
  | [] => .ok []
  | message :: rest => do
      let record ← codec.record message
      let records ← codec.records rest
      return record :: records

def defaultBatchSize : Nat := 100

structure MessageSettings where
  dialect : Dialect
  naming : TableNaming := .messages
  /-- As it was chosen; zero stands for the default. -/
  batchSize : Nat := defaultBatchSize
  codec : Codec := .json

namespace MessageSettings

def effectiveBatchSize (settings : MessageSettings) : Nat :=
  if settings.batchSize = 0 then defaultBatchSize else settings.batchSize

def quotedTable (settings : MessageSettings) (topic : String) : Except Failure String :=
  (settings.naming.table topic).map settings.dialect.quote

/-! The statements, once it is known how the table gets its name. -/

section Builders

variable {m : Type → Type} [Monad m] [MonadLiftT (Except Failure) m] (settings : MessageSettings)
  (table : m String)

def setupOn : m (List Statement) := do
  let table ← table
  return [⟨settings.dialect, .createLog table⟩]

def appendOn (messages : List Message) : m Statement := do
  let table ← table
  if messages.isEmpty then liftM (.error .emptyBatch : Except Failure Unit)
  let records ← settings.codec.records messages
  return ⟨settings.dialect, .append table records⟩

def fetchOn (bound : m Claim) : m Statement := do
  let table ← table
  let bound ← bound
  return ⟨settings.dialect, .fetch table bound settings.effectiveBatchSize⟩

end Builders

def append (settings : MessageSettings) (topic : String) (messages : List Message) :
    Except Failure Statement :=
  settings.appendOn (settings.naming.table topic) messages

def fetch (settings : MessageSettings) (topic group : String) (cursors : CursorLayout) :
    Except Failure Statement :=
  settings.fetchOn (settings.naming.table topic) (cursors.claim topic group)

theorem append_eq (settings : MessageSettings) (topic : String) (messages : List Message) :
    settings.append topic messages = do
      let table ← settings.naming.table topic
      if messages.isEmpty then .error .emptyBatch
      let records ← settings.codec.records messages
      return ⟨settings.dialect, .append table records⟩ := rfl

def layout (settings : MessageSettings) : MessageLayout where
  setup topic := settings.setupOn (settings.naming.table topic)
  append := settings.append
  fetch := settings.fetch
  decode row := row.delivery settings.codec
  isolation := .serializable

end MessageSettings
end TopicLog
