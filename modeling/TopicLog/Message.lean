import TopicLog.Text.Utf8
import TopicLog.Metadata
import TopicLog.Timestamp.Reading

/-!
Messages as they are published, and as they are delivered with the place and the time that the topic
gave them.
-/
namespace TopicLog

structure Message where
  /-- Chosen by the publisher; not required to be unique. -/
  uuid : String := ""
  payload : Bytes := []
  metadata : Metadata := .empty
  deriving DecidableEq

/-- Adds an entry to the metadata; a later entry replaces one of the same key. -/
def Message.withMetadata (message : Message) (key value : String) : Message :=
  { message with metadata := message.metadata.insert key value }

structure Delivery where
  offset : Int
  createdAt : Timestamp
  message : Message
  deriving DecidableEq

end TopicLog
