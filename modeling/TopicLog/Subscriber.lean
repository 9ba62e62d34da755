import TopicLog.Script
import TopicLog.MessageLayout

/-!
A consumer group's side of a topic. A poll claims the group's bound, fetches the batch after it and
hands over one message after another, each marked as consumed before and acknowledged after. All of
that is one transaction: a message that cannot be decoded commits what came before it, any other
failure keeps nothing.
-/
namespace TopicLog

structure SubscriberSettings where
  group : String
  pollMillis : Nat := 1000
  retryMillis : Nat := 1000
  initializeSchema : Bool := true
  deriving DecidableEq, Repr

structure Subscriber where
  layout : MessageLayout
  cursors : CursorLayout
  settings : SubscriberSettings

/-- How a poll ended: with the number of acknowledged messages, or a failure; a poll that was dropped
while its handler ran has no result. -/
abbrev PollResult := Option (Except Failure Nat)

namespace Subscriber

variable {σ : Type}

def group (subscriber : Subscriber) : String := subscriber.settings.group

def setUp (subscriber : Subscriber) (topic : String) (storage : Storage) :
    Except Failure Unit × Storage :=
  storage.setUp topic do
    let cursors ← subscriber.cursors.setup topic
    let messages ← subscriber.layout.setup topic
    return cursors ++ messages

/-- What the layout of cursors wants done before the first poll. -/
def beforeSubscribing (subscriber : Subscriber) (topic : String) (storage : Storage) :
    Except Failure Unit × Storage :=
  match subscriber.cursors.beforeSubscribing topic subscriber.group with
  | .ok [] => (.ok (), storage)
  | statements => storage.setUp topic statements

/-- Delivers the rows of a batch, of which some are acknowledged already. -/
def deliver (subscriber : Subscriber) (topic : String) :
    List (List Value) → (acknowledged : Nat) → Script (Except Failure Nat)
  | [], acknowledged => .commit (.done (.ok acknowledged))
  | columns :: rest, acknowledged =>
      match subscriber.layout.decode (.ofColumns columns) with
      | .error failure => .commit (.done (.error failure))
      | .ok delivery =>
          .require (subscriber.cursors.markConsumed topic delivery subscriber.group) fun mark =>
          .statement mark fun _ =>
          .hand delivery fun
            | .refused text =>
                .rollback (.done (.error (.handler delivery.offset (.other text))))
            | .accepted =>
                .require (subscriber.cursors.acknowledge topic delivery subscriber.group) fun ack =>
                .statement ack fun _ =>
                deliver subscriber topic rest (acknowledged + 1)

def pollScript (subscriber : Subscriber) (topic : String) (claim fetch : Statement) :
    Script (Except Failure Nat) :=
  .statement claim fun claimed =>
  .require (Script.scalar claimed) fun _ =>
  .statement fetch fun fetched =>
  subscriber.deliver topic fetched.rows 0

def pollScript? (subscriber : Subscriber) (topic : String) :
    Except Failure (Script (Except Failure Nat)) := do
  let claim ← subscriber.cursors.claim topic subscriber.group
  let fetch ← subscriber.layout.fetch topic subscriber.group subscriber.cursors
  return subscriber.pollScript topic claim.statement fetch

/-- Polls once with no other transaction taking steps in between. -/
def poll (subscriber : Subscriber) (topic : String) (handler : Handler σ) (state : σ)
    (storage : Storage) : PollResult × σ × Storage :=
  match subscriber.pollScript? topic with
  | .error failure => (some (.error failure), state, storage)
  | .ok script =>
      let (handle, storage) := storage.beginIsolated
      script.run handler handle state storage

end Subscriber
end TopicLog
