import TopicLog.Script
import TopicLog.MessageLayout

/-!
Publishing appends a batch to a topic, whole or not at all. A publisher sets a topic up before its
first batch, unless it was told not to, and remembers the topics for which that succeeded.
-/
namespace TopicLog

structure PublisherSettings where
  autoInitialize : Bool := true
  deriving DecidableEq, Repr

structure Publisher where
  layout : MessageLayout
  settings : PublisherSettings := {}
  /-- The topics that this publisher has set up. -/
  initialized : List String := []

namespace Publisher

def setUp (publisher : Publisher) (topic : String) (storage : Storage) :
    Except Failure Unit × Storage :=
  storage.setUp topic (publisher.layout.setup topic)

def ensureInitialized (publisher : Publisher) (topic : String) (storage : Storage) :
    Except Failure Unit × Publisher × Storage :=
  if publisher.initialized.contains topic then (.ok (), publisher, storage)
  else match publisher.setUp topic storage with
    | (.ok (), storage) =>
        (.ok (), { publisher with initialized := topic :: publisher.initialized }, storage)
    | (.error failure, storage) => (.error failure, publisher, storage)

def append (publisher : Publisher) (topic : String) (messages : List Message)
    (storage : Storage) : Except Failure Unit × Storage :=
  match publisher.layout.append topic messages with
  | .error failure => (.error failure, storage)
  | .ok statement =>
      match storage.autocommit (.run statement.action) with
      | (.ok _, storage) => (.ok (), storage)
      | (.error fault, storage) => (.error (.ofFault fault), storage)

/-- Publishes a batch. The topic is checked first, and an empty batch does nothing more. -/
def publish (publisher : Publisher) (topic : String) (messages : List Message)
    (storage : Storage) : Except Failure Unit × Publisher × Storage :=
  match validateTopic topic with
  | .error failure => (.error failure, publisher, storage)
  | .ok () =>
      if messages.isEmpty then (.ok (), publisher, storage)
      else
        let (ready, publisher, storage) :=
          if publisher.settings.autoInitialize then publisher.ensureInitialized topic storage
          else (.ok (), publisher, storage)
        match ready with
        | .error failure => (.error failure, publisher, storage)
        | .ok () =>
            let (result, storage) := publisher.append topic messages storage
            (result, publisher, storage)

end Publisher
end TopicLog
