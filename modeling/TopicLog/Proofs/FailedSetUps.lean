import TopicLog.Proofs.Alone
import TopicLog.Publisher

/-!
Set-ups that fail. Layouts may want any text run, which is then free to do what it likes to the database
that its transaction sees, to fail for any reason, and even to end the transaction. A set-up commits
nothing of a list of which a text fails; so unless a text ended the transaction by itself, nothing of
the list remains.
-/
namespace TopicLog

namespace Storage

def isOpen (storage : Storage) (handle : Handle) : Bool := (storage.held? handle).isSome

/-- All that anybody else can see is as before, and the transaction is open still. -/
structure Inside (handle : Handle) (before after : Storage) : Prop where
  opened : after.isOpen handle = true
  committed : after.committed = before.committed
  version : after.version = before.version
  clock : after.clock = before.clock
  others : after.holds.filter (fun entry => entry.1 ≠ handle) =
    before.holds.filter fun entry => entry.1 ≠ handle

end Storage

structure Text.Outcome where
  result : Except Cause Unit
  /-- Whether the text ended the transaction, be it that it began another one after that. -/
  ended : Bool := false
  storage : Storage

/-- A text of any kind. Unless it ends the transaction that runs it, nobody else sees what it does. -/
structure Text where
  run : Handle → Storage → Text.Outcome
  contained : ∀ {handle : Handle} {storage : Storage}, storage.isOpen handle = true →
    (run handle storage).ended = false → storage.Inside handle (run handle storage).storage

namespace Text

def noTransaction : Cause :=
  .database ⟨some "1", "cannot commit - no transaction is active"⟩

def commit : Text where
  run handle storage :=
    if storage.isOpen handle then
      { result := .ok (), ended := true, storage := storage.commit handle }
    else { result := .error noTransaction, storage }
  contained opened unended := by
    rw [if_pos opened] at unended
    cases unended

end Text

namespace Storage

variable {storage : Storage} {handle : Handle} {command : Command}

theorem isOpen_begin (storage : Storage) : storage.begin.2.isOpen storage.begin.1 = true := by
  change ((storage.holds ++ [(storage.fresh, Hold.idle)]).lookup storage.fresh).isSome = true
  rw [List.lookup_append]
  cases storage.holds.lookup storage.fresh <;> simp

theorem isOpen_setHold (hold : Hold) :
    (storage.setHold handle hold).isOpen handle = storage.isOpen handle := by
  rw [isOpen, held_setHold, if_pos rfl, Option.isSome_map, isOpen]

theorem isOpen_execute :
    (storage.execute handle command).2.isOpen handle = storage.isOpen handle := by
  rcases storage.execute_cases handle command with
    ⟨fault, -, holds⟩ | ⟨plan, -, -, ⟨-, holds⟩ | ⟨-, -, -, holds⟩⟩
  · rw [isOpen, held?, holds]
    rfl
  all_goals
    rw [isOpen, held?, holds]
    exact isOpen_setHold _

theorem execute_inside (opened : storage.isOpen handle = true) (command : Command) :
    storage.Inside handle (storage.execute handle command).2 where
  opened := isOpen_execute.trans opened
  committed := (storage.execute_frame handle command).1
  version := (storage.execute_frame handle command).2.1
  clock := (storage.execute_frame handle command).2.2.1
  others := storage.execute_others handle command

theorem Inside.trans {before middle after : Storage} (first : before.Inside handle middle)
    (second : middle.Inside handle after) : before.Inside handle after where
  opened := second.opened
  committed := second.committed.trans first.committed
  version := second.version.trans first.version
  clock := second.clock.trans first.clock
  others := second.others.trans first.others

end Storage

def Fault.cause (fault : Fault) : Cause := .database ⟨some (toString fault.code), fault.text⟩

/-- The text of a statement. Where its transaction has ended it is a transaction of its own. -/
def Text.ofStatement (statement : Statement) : Text where
  run handle storage :=
    let (answer, left) :=
      if storage.isOpen handle then storage.execute handle (.run statement.action)
      else storage.autocommit (.run statement.action)
    { result := match answer with
        | .ok _ => .ok ()
        | .error fault => .error fault.cause
      storage := left }
  contained {handle storage} opened _ := by
    dsimp only
    rw [if_pos opened]
    exact Storage.execute_inside opened _

def Text.ofStatements (statements : Except Failure (List Statement)) : Except Failure (List Text) :=
  statements.map (List.map Text.ofStatement)

/-! Set-ups of texts. -/

namespace Storage

/-- Runs texts in order and commits, or stops at the first that fails and keeps nothing. -/
def runTexts (handle : Handle) : List Text → Storage → Except Cause Unit × Storage
  | [], storage =>
      if storage.isOpen handle then (.ok (), storage.commit handle)
      else (.error Text.noTransaction, storage.rollback handle)
  | first :: rest, storage =>
      let outcome := first.run handle storage
      match outcome.result with
      | .ok () => runTexts handle rest outcome.storage
      | .error cause => (.error cause, outcome.storage.rollback handle)

def setUpTexts (storage : Storage) (topic : String) (texts : Except Failure (List Text)) :
    Except Failure Unit × Storage :=
  match texts with
  | .error failure => (.error (.schema topic failure), storage)
  | .ok texts =>
      let (handle, begun) := storage.begin
      let (result, left) := runTexts handle texts begun
      (result.mapError fun cause => .schema topic (.ofCause cause), left)

end Storage

/-- What layouts, be they what they may, want run before the first message or the first poll. -/
inductive SetUp where
  | ofPublisher (messages : Except Failure (List Text))
  | ofSubscriber (cursors messages : Except Failure (List Text))
  | beforeSubscribing (cursors : Except Failure (List Text))

namespace SetUp

def texts : SetUp → Except Failure (List Text)
  | .ofPublisher messages => messages
  | .ofSubscriber cursors messages => do
      let first ← cursors
      let second ← messages
      return first ++ second
  | .beforeSubscribing cursors => cursors

def perform (setUp : SetUp) (topic : String) (storage : Storage) :
    Except Failure Unit × Storage :=
  match setUp with
  | .beforeSubscribing (.ok []) => (.ok (), storage)
  | setUp => storage.setUpTexts topic setUp.texts

end SetUp

section Texts

variable {handle : Handle} {storage : Storage}

theorem Script.run_texts (handler : Handler Unit) (opened : storage.isOpen handle = true)
    (statements : List Statement) :
    (Script.all statements).run handler handle () storage =
      let ran := storage.runTexts handle (statements.map Text.ofStatement)
      (some (ran.1.mapError .ofCause), (), ran.2) := by
  induction statements generalizing storage with
  | nil =>
      simp only [Script.all, Script.run, List.map_nil, Storage.runTexts, opened, ↓reduceIte]
      rfl
  | cons first rest ih =>
      have next : (storage.execute handle (.run first.action)).2.isOpen handle = true :=
        Storage.isOpen_execute.trans opened
      simp only [Script.all, Script.statement, Script.run, List.map_cons, Storage.runTexts,
        Text.ofStatement, opened, ↓reduceIte]
      cases executed : (storage.execute handle (.run first.action)).1 with
      | error fault => rfl
      | ok effect => exact ih next

theorem Storage.setUp_texts (storage : Storage) (topic : String)
    (statements : Except Failure (List Statement)) :
    storage.setUp topic statements =
      storage.setUpTexts topic (Text.ofStatements statements) := by
  cases statements with
  | error failure => rfl
  | ok statements =>
      have ran := Script.run_texts (fun _ _ => (none, ())) storage.isOpen_begin statements
      simp only [setUp, perform, ran, setUpTexts, Text.ofStatements, Except.map]
      rcases runTexts storage.begin.1 (statements.map Text.ofStatement) storage.begin.2 with
        ⟨_ | _, left⟩ <;> rfl

theorem Publisher.setUp_texts (publisher : Publisher) (topic : String) (storage : Storage) :
    publisher.setUp topic storage =
      (SetUp.ofPublisher (Text.ofStatements (publisher.layout.setup topic))).perform topic storage :=
  storage.setUp_texts topic _

theorem Subscriber.setUp_texts (subscriber : Subscriber) (topic : String) (storage : Storage) :
    subscriber.setUp topic storage =
      (SetUp.ofSubscriber (Text.ofStatements (subscriber.cursors.setup topic))
        (Text.ofStatements (subscriber.layout.setup topic))).perform topic storage := by
  rw [setUp, storage.setUp_texts]
  apply congrArg (storage.setUpTexts topic)
  cases subscriber.cursors.setup topic with
  | error failure => rfl
  | ok cursors =>
      cases subscriber.layout.setup topic with
      | error failure => rfl
      | ok messages => exact congrArg Except.ok List.map_append

end Texts

end TopicLog
