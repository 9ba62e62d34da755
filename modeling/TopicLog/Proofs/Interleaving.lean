import TopicLog.Publisher
import TopicLog.Subscriber
import TopicLog.Proofs.Journal
import TopicLog.Proofs.Tables

/-!
One topic at work. Any number of members of consumer groups poll it at the same time, each step of a
poll by itself, while publishers append and set-ups make the tables. An event says who takes the next
step; a handler returns the verdict that the event brings, or is never heard of again.
-/
namespace TopicLog

/-- The names of a topic's two tables, which never are the same. -/
structure Namings where
  messages : TableNaming
  cursors : TableNaming
  apart : ∀ topic, isTopic topic = true →
    sameName (messages.generate topic) (cursors.generate topic) = false

theorem usual_apart (topic : String) :
    sameName (TableNaming.messages.generate topic) (TableNaming.offsets.generate topic) = false := by
  rw [Bool.eq_false_iff]
  intro same
  have lengths := congrArg List.length ((sameName_iff _ _).mp same)
  simp [TableNaming.messages, TableNaming.offsets, TableNaming.prefixed] at lengths

namespace Namings

def usual : Namings where
  messages := .messages
  cursors := .offsets
  apart topic _ := usual_apart topic

def messageTable (namings : Namings) (topic : String) : String := namings.messages.generate topic

def cursorTable (namings : Namings) (topic : String) : String := namings.cursors.generate topic

def layout (namings : Namings) (batchSize : Nat) (codec : Codec) : MessageLayout :=
  MessageSettings.layout { dialect := .sqlite, naming := namings.messages, batchSize, codec }

def cursorLayout (namings : Namings) : CursorLayout :=
  CursorSettings.layout { dialect := .sqlite, naming := namings.cursors }

end Namings

/-- A member of a consumer group, with what it chose of the usual layouts. -/
structure Member where
  settings : SubscriberSettings
  batchSize : Nat := defaultBatchSize
  codec : Codec := .json

def newYear : Timestamp := ⟨⟨2024, 1, 1, by decide⟩, 0, 0, 0, 0, by decide⟩

def Member.subscriber (member : Member) (namings : Namings) : Subscriber :=
  ⟨namings.layout member.batchSize member.codec, namings.cursorLayout, member.settings⟩

structure Poll where
  member : Member
  script : Script (Except Failure Nat)
  journal : Journal := []

namespace Poll

def group (poll : Poll) : String := poll.member.settings.group

def after (poll : Poll) (stepped : Stepped (Except Failure Nat)) : Poll :=
  { poll with script := stepped.script, journal := poll.journal ++ stepped.journal }

end Poll

def acknowledgedBy (group : String) (polls : List Poll) : List Int :=
  (polls.filter fun poll => poll.group = group).flatMap fun poll => poll.journal.acknowledged

/-- A step of a transaction in which a publisher or a set-up runs its statements. -/
inductive Move where
  | begin
  | execute (handle : Handle) (action : Action)
  | commit (handle : Handle)
  | rollback (handle : Handle)

inductive Event where
  | begin (member : Member)
  /-- A poll takes its next step; a handler that is at work returns this verdict. -/
  | advance (handle : Handle) (verdict : Verdict)
  | drop (handle : Handle)
  | publish (codec : Codec) (settings : PublisherSettings) (initialized : List String)
      (messages : List Message)
  | setUp (member : Member)
  | move (move : Move)
  | pause (clock : Timestamp)

def Namings.publishes (namings : Namings) (topic : String) : Action → Bool
  | .createLog table => table = namings.messageTable topic
  | .createCursors table => table = namings.cursorTable topic
  | .append table _ => table = namings.messageTable topic
  | _ => false

structure System where
  storage : Storage
  /-- The polls that were begun and not dropped. -/
  polls : Handle → Option Poll := fun _ => none
  /-- The polls that committed, in the order of their commits. -/
  committed : List Poll := []

namespace System

def setPoll (system : System) (handle : Handle) (poll : Option Poll) : Handle → Option Poll :=
  fun other => if other = handle then poll else system.polls other

def withStorage (system : System) (storage : Storage) : System := { system with storage }

/-- One step of a poll; its commit puts it at the end of those that committed. -/
def advance (system : System) (handle : Handle) (verdict : Verdict) (poll : Poll) : System :=
  let stepped := poll.script.advance handle verdict system.storage
  let poll := poll.after stepped
  { storage := stepped.storage
    polls := system.setPoll handle (some poll)
    committed :=
      if stepped.journal.isCommitted then system.committed ++ [poll] else system.committed }

def moved (namings : Namings) (topic : String) (system : System) : Move → Storage
  | .begin => system.storage.begin.2
  | .execute handle action =>
      if (system.polls handle).isNone && namings.publishes topic action then
        (system.storage.execute handle (.run action)).2
      else system.storage
  | .commit handle =>
      if (system.polls handle).isNone then system.storage.commit handle else system.storage
  | .rollback handle =>
      if (system.polls handle).isNone then system.storage.rollback handle else system.storage

def step (namings : Namings) (topic : String) (system : System) : Event → System
  | .begin member =>
      match (member.subscriber namings).pollScript? topic with
      | .error _ => system
      | .ok script =>
          let (handle, storage) := system.storage.beginIsolated
          { system with storage, polls := system.setPoll handle (some { member, script }) }
  | .advance handle verdict =>
      match system.polls handle with
      | none => system
      | some poll => system.advance handle verdict poll
  | .drop handle =>
      match system.polls handle with
      | none => system
      | some _ =>
          { system with
            storage := system.storage.rollback handle
            polls := system.setPoll handle none }
  | .publish codec settings initialized messages =>
      let publisher : Publisher :=
        { layout := namings.layout defaultBatchSize codec, settings, initialized }
      system.withStorage (publisher.publish topic messages system.storage).2.2
  | .setUp member =>
      system.withStorage ((member.subscriber namings).setUp topic system.storage).2
  | .move move => system.withStorage (system.moved namings topic move)
  | .pause clock => system.withStorage { system.storage with clock }.settle

def run (namings : Namings) (topic : String) (events : List Event) (system : System) : System :=
  events.foldl (fun system event => system.step namings topic event) system

end System
end TopicLog
