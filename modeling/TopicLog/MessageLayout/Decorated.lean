import TopicLog.MessageLayout

/-!
A layout with some of its operations replaced. What has no replacement is left to the layout inside,
and the isolation always is.
-/
namespace TopicLog

structure Decorated where
  inner : MessageLayout
  setup : Option (String → Except Failure (List Statement)) := none
  append : Option (String → List Message → Except Failure Statement) := none
  fetch : Option (String → String → CursorLayout → Except Failure Statement) := none
  decode : Option (Row → Except Failure Delivery) := none

namespace Decorated

def withSetup (decorated : Decorated) (f : String → Except Failure (List Statement)) : Decorated :=
  { decorated with setup := some f }

def withAppend (decorated : Decorated) (f : String → List Message → Except Failure Statement) :
    Decorated :=
  { decorated with append := some f }

def withFetch (decorated : Decorated)
    (f : String → String → CursorLayout → Except Failure Statement) : Decorated :=
  { decorated with fetch := some f }

def withDecode (decorated : Decorated) (f : Row → Except Failure Delivery) : Decorated :=
  { decorated with decode := some f }

def layout (decorated : Decorated) : MessageLayout where
  setup := decorated.setup.getD decorated.inner.setup
  append := decorated.append.getD decorated.inner.append
  fetch := decorated.fetch.getD decorated.inner.fetch
  decode := decorated.decode.getD decorated.inner.decode
  isolation := decorated.inner.isolation

end Decorated

/-! Replacements that build on the usual layout. -/

namespace MessageSettings

def setupWithIndex (settings : MessageSettings) (topic : String) :
    Except Failure (List Statement) := do
  let statements ← settings.layout.setup topic
  let table ← settings.naming.table topic
  return statements ++ [⟨settings.dialect, .createIndex (topic ++ "_uuid") table⟩]

def appendReversed (settings : MessageSettings) (topic : String) (messages : List Message) :
    Except Failure Statement :=
  settings.layout.append topic messages.reverse

def fetchOne (settings : MessageSettings) : String → String → CursorLayout →
    Except Failure Statement :=
  { settings with batchSize := 1 }.layout.fetch

def decodeTagged (settings : MessageSettings) (row : Row) : Except Failure Delivery := do
  let delivery ← settings.layout.decode row
  return { delivery with
    message := delivery.message.withMetadata "offset" (toString delivery.offset) }

end MessageSettings
end TopicLog
