import TopicLog.Publisher
import TopicLog.Subscriber.Run

/-!
A database at work: one publisher, subscribers of any group, and transactions that are opened by name
and driven step by step, so that their steps can be laid between those of others.
-/
namespace TopicLog

structure Session where
  messages : MessageSettings
  cursorTables : CursorSettings
  layout : MessageLayout
  cursors : CursorLayout
  publisher : Publisher
  storage : Storage
  named : List (String × Handle) := []

namespace Session

variable {σ : Type}

abbrev Step (α : Type) := Except Failure α × Session

def subscriber (session : Session) (settings : SubscriberSettings) : Subscriber :=
  ⟨session.layout, session.cursors, settings⟩

/-- The session after a step that left a storage behind; steps have a pause between them. -/
def after (session : Session) (storage : Storage) : Session :=
  { session with storage := storage.settle }

def withStorage {α : Type} (session : Session) : Except Failure α × Storage → Step α
  | (result, storage) => (result, session.after storage)

/-! Whole operations. -/

def newPublisher (session : Session) (settings : PublisherSettings) : Session :=
  { session with publisher := { layout := session.layout, settings } }

def setUpPublisher (session : Session) (topic : String) : Step Unit :=
  session.withStorage (session.publisher.setUp topic session.storage)

def publish (session : Session) (topic : String) (messages : List Message) : Step Unit :=
  let (result, publisher, storage) := session.publisher.publish topic messages session.storage
  (result, { session with publisher }.after storage)

def setUpSubscriber (session : Session) (settings : SubscriberSettings) (topic : String) :
    Step Unit :=
  session.withStorage ((session.subscriber settings).setUp topic session.storage)

def beforeSubscribing (session : Session) (settings : SubscriberSettings) (topic : String) :
    Step Unit :=
  session.withStorage ((session.subscriber settings).beforeSubscribing topic session.storage)

def poll (session : Session) (settings : SubscriberSettings) (topic : String)
    (handler : Handler σ) (state : σ) : PollResult × σ × Session :=
  let (result, state, storage) :=
    (session.subscriber settings).poll topic handler state session.storage
  (result, state, session.after storage)

def run (session : Session) (settings : SubscriberSettings) (topic : String)
    (handler : Handler σ) (count : Nat) (state : σ) : Subscriber.Run σ × Session :=
  let run := (session.subscriber settings).run topic handler count state session.storage
  (run, session.after run.storage)

/-! Named transactions. -/

/-- Opens a transaction; one that had the name before is dropped. -/
def beginNamed (session : Session) (name : String) : Session :=
  let (handle, storage) := session.storage.beginIsolated
  let storage := match session.named.lookup name with
    | some old => storage.rollback old
    | none => storage
  { session with
    named := (name, handle) :: session.named.filter fun entry => entry.1 ≠ name }.after storage

def endNamed (session : Session) (name : String) (finish : Storage → Handle → Storage) : Session :=
  match session.named.lookup name with
  | none => session
  | some handle =>
      { session with
        named := session.named.filter fun entry => entry.1 ≠ name
      }.after (finish session.storage handle)

def commitNamed (session : Session) (name : String) : Session :=
  session.endNamed name Storage.commit

def rollbackNamed (session : Session) (name : String) : Session :=
  session.endNamed name Storage.rollback

/-- Runs a statement in a transaction of a name, or as one of its own. -/
def command (session : Session) (name : Option String) (command : Command) : Step Effect :=
  let handle := name.bind fun name => session.named.lookup name
  let (result, storage) := match handle with
    | some handle => session.storage.execute handle command
    | none => session.storage.autocommit command
  (result.mapError .ofFault, session.after storage)

def attempt (session : Session) (name : Option String) (built : Except Failure Command) :
    Step Effect :=
  match built with
  | .error failure => (.error failure, session)
  | .ok command => session.command name command

def statement (built : Except Failure Statement) : Except Failure Command :=
  built.map fun statement => .run statement.action

/-! Single statements. -/

def claim (session : Session) (name : Option String) (topic group : String) : Step Int :=
  let (result, session) := session.attempt name <|
    statement ((session.cursors.claim topic group).map Claim.statement)
  (result.bind Script.scalar, session)

/-- The rows of the next batch, each decoded by itself. -/
def fetch (session : Session) (name : Option String) (topic group : String) :
    Step (List (Except Failure Delivery)) :=
  let (result, session) := session.attempt name <|
    statement (session.layout.fetch topic group session.cursors)
  (result.map fun effect =>
    effect.rows.map fun columns => session.layout.decode (.ofColumns columns), session)

def deliveryAt (session : Session) (offset : Int) : Delivery :=
  { offset, createdAt := session.storage.clock, message := {} }

def mark (session : Session) (name : Option String) (topic group : String) (offset : Int) :
    Step Nat :=
  let (result, session) := session.attempt name <|
    statement (session.cursors.markConsumed topic (session.deliveryAt offset) group)
  (result.map Effect.affected, session)

def acknowledge (session : Session) (name : Option String) (topic group : String)
    (offset : Int) : Step Nat :=
  let (result, session) := session.attempt name <|
    statement (session.cursors.acknowledge topic (session.deliveryAt offset) group)
  (result.map Effect.affected, session)

def commands (session : Session) (name : Option String) : List Statement → Step Unit
  | [] => (.ok (), session)
  | first :: rest =>
      match session.command name (.run first.action) with
      | (.ok _, session) => session.commands name rest
      | (.error failure, session) => (.error failure, session)

def setUpIn (session : Session) (name topic : String) : Step Unit :=
  let statements := do
    let messages ← session.layout.setup topic
    let cursors ← session.cursors.setup topic
    return messages ++ cursors
  match statements with
  | .error failure => (.error failure, session)
  | .ok statements => session.commands (some name) statements

/-! Direct access to the tables. -/

def messageTable (session : Session) (topic : String) : Except Failure String :=
  session.messages.naming.table topic

def cursorTable (session : Session) (topic : String) : Except Failure String :=
  session.cursorTables.naming.table topic

def insertRow (session : Session) (name : Option String) (topic : String) (draft : LogDraft) :
    Step Nat :=
  let (result, session) := session.attempt name <|
    (session.messageTable topic).map (.insertRow · draft)
  (result.map Effect.affected, session)

def deleteRow (session : Session) (name : Option String) (topic : String) (offset : Int) :
    Step Nat :=
  let (result, session) := session.attempt name <|
    (session.messageTable topic).map (.deleteRow · offset)
  (result.map Effect.affected, session)

def dropMessages (session : Session) (topic : String) : Step Unit :=
  let (result, session) := session.attempt none <| (session.messageTable topic).map .dropTable
  (result.map fun _ => (), session)

def dropCursors (session : Session) (topic : String) : Step Unit :=
  let (result, session) := session.attempt none <| (session.cursorTable topic).map .dropTable
  (result.map fun _ => (), session)

def putCursor (session : Session) (topic : String) (row : CursorRow) : Step Nat :=
  let (result, session) := session.attempt none <|
    (session.cursorTable topic).map (.putCursor · row)
  (result.map Effect.affected, session)

structure Cursor where
  group : String
  acked : Option Int
  consumed : Int

def readCursor (columns : List Value) : Except Failure Cursor := do
  let row := Row.ofColumns columns
  let group ← row.text 0
  let acked ← if columns[1]? = some .null then pure none else (row.int 1).map some
  let consumed ← row.int 2
  return ⟨group, acked, consumed⟩

def listCursors (session : Session) (topic : String) : Step (List Cursor) :=
  let (result, session) := session.attempt none <| (session.cursorTable topic).map .listCursors
  let cursors := result.bind fun effect => effect.rows.mapM readCursor
  (cursors.map fun cursors => cursors.mergeSort fun a b => a.group ≤ b.group, session)

/-- What an index or a table is listed as: its kind and its name. -/
def readName (columns : List Value) : Except Failure String := do
  let row := Row.ofColumns columns
  return (← row.text 0) ++ " " ++ (← row.text 1)

def listNames (session : Session) : Step (List String) :=
  let (result, session) := session.command none .listNames
  let names := result.bind fun effect => effect.rows.mapM readName
  (names.map fun names => names.mergeSort fun a b => a ≤ b, session)

end Session
end TopicLog
