import TopicLog.Proofs.Agreement
import TopicLog.Proofs.DecoratedLayouts
import TopicLog.Proofs.PublisherCalls
import TopicLog.Subscriber.Run

/-!
Layouts that agree on all that is asked of them. A publisher asks for the statements that make and fill a
table; a subscriber asks for those that make and read it, with cursors of its own, and for the deliveries in
rows of the database. Nobody asks for more, so what they do over one such layout they do over the other.
-/
namespace TopicLog

/-- Two layouts that agree on all that is asked of them with cursors that are in use. -/
structure MessageLayout.Alike (used : CursorLayout → Prop) (one other : MessageLayout) : Prop where
  setup : ∀ topic, one.setup topic = other.setup topic
  append : ∀ topic messages, one.append topic messages = other.append topic messages
  fetch : ∀ topic group cursors, used cursors →
    one.fetch topic group cursors = other.fetch topic group cursors
  decode : ∀ columns, one.decode (.ofColumns columns) = other.decode (.ofColumns columns)
  isolation : one.isolation = other.isolation

/-- A replacement that does what the layout does. -/
def Change.Agrees (used : CursorLayout → Prop) (base : MessageLayout) : Change → Prop
  | .setup f => ∀ topic, f topic = base.setup topic
  | .append f => ∀ topic messages, f topic messages = base.append topic messages
  | .fetch f => ∀ topic group cursors, used cursors →
      f topic group cursors = base.fetch topic group cursors
  | .decode f => ∀ columns, f (.ofColumns columns) = base.decode (.ofColumns columns)

theorem MessageLayout.decorated_alike {used : CursorLayout → Prop} {base : MessageLayout}
    {levels : List (List Change)}
    (agree : ∀ changes ∈ levels, ∀ change ∈ changes, change.Agrees used base) :
    (base.decorated levels).Alike used base := by
  have whole {β : Type} (aspect : Aspect β) (holds : β → Prop) (bottom : holds (aspect.get base))
      (each : ∀ change f, aspect.kind change = some f → change.Agrees used base → holds f) :
      holds (aspect.get (base.decorated levels)) :=
    aspect.get_keeps holds bottom fun changes level change member f sets =>
      each change f sets (agree changes level change member)
  refine ⟨?_, ?_, ?_, ?_, (base.layered levels).isolation⟩
  · refine whole .setup (fun f => ∀ topic, f topic = base.setup topic) (fun topic => rfl) ?_
    rintro (_ | _ | _ | _) f ⟨⟩ agrees
    exact agrees
  · refine whole .append (fun f => ∀ topic messages, f topic messages = base.append topic messages)
      (fun topic messages => rfl) ?_
    rintro (_ | _ | _ | _) f ⟨⟩ agrees
    exact agrees
  · refine whole .fetch (fun f => ∀ topic group cursors, used cursors →
      f topic group cursors = base.fetch topic group cursors)
      (fun topic group cursors use => rfl) ?_
    rintro (_ | _ | _ | _) f ⟨⟩ agrees
    exact agrees
  · refine whole .decode (fun f => ∀ columns,
      f (.ofColumns columns) = base.decode (.ofColumns columns)) (fun columns => rfl) ?_
    rintro (_ | _ | _ | _) f ⟨⟩ agrees
    exact agrees

/-! Publishers. -/

namespace Publisher

def withLayout (publisher : Publisher) (layout : MessageLayout) : Publisher :=
  { publisher with layout }

variable (publisher : Publisher) {used : CursorLayout → Prop} {layout : MessageLayout}
  (alike : layout.Alike used publisher.layout)
include alike

theorem setUp_withLayout (topic : String) (storage : Storage) :
    (publisher.withLayout layout).setUp topic storage = publisher.setUp topic storage := by
  simp only [setUp, withLayout, alike.setup]

theorem ensureInitialized_withLayout (topic : String) (storage : Storage) :
    let ensured := publisher.ensureInitialized topic storage
    (publisher.withLayout layout).ensureInitialized topic storage =
      (ensured.1, ensured.2.1.withLayout layout, ensured.2.2) := by
  have made := publisher.setUp_withLayout alike topic storage
  have known : (publisher.withLayout layout).initialized = publisher.initialized := rfl
  simp only [ensureInitialized, made, known]
  split
  · rfl
  · rcases publisher.setUp topic storage with ⟨_ | _, after⟩ <;> rfl

theorem append_withLayout (topic : String) (messages : List Message) (storage : Storage) :
    (publisher.withLayout layout).append topic messages storage =
      publisher.append topic messages storage := by
  simp only [append, withLayout, alike.append]

theorem publish_withLayout (topic : String) (messages : List Message) (storage : Storage) :
    let published := publisher.publish topic messages storage
    (publisher.withLayout layout).publish topic messages storage =
      (published.1, published.2.1.withLayout layout, published.2.2) := by
  have auto : (publisher.withLayout layout).settings = publisher.settings := rfl
  have ensuring := publisher.ensureInitialized_withLayout alike topic storage
  have kept := publisher.ensureInitialized_layout topic storage
  simp only [publish, auto, ensuring]
  cases validateTopic topic with
  | error failure => rfl
  | ok checked =>
      cases messages.isEmpty with
      | true => rfl
      | false =>
          cases publisher.settings.autoInitialize with
          | false => simp only [publisher.append_withLayout alike, Bool.false_eq_true, ↓reduceIte]
          | true =>
              rcases ensured : publisher.ensureInitialized topic storage with
                ⟨_ | _, next, between⟩
              · rfl
              · rw [ensured] at kept
                have nextAlike : layout.Alike used next.layout := kept ▸ alike
                simp only [next.append_withLayout nextAlike, Bool.false_eq_true, ↓reduceIte]

theorem perform_withLayout (storage : Storage) (task : Task) :
    let performed := publisher.perform storage task
    (publisher.withLayout layout).perform storage task =
      (performed.1, performed.2.1.withLayout layout, performed.2.2) := by
  cases task with
  | publish topic messages => exact publisher.publish_withLayout alike topic messages storage
  | setUp topic =>
      simp only [perform, publisher.setUp_withLayout alike]

theorem openSetUp_withLayout (storage : Storage) (topic : String) :
    (publisher.withLayout layout).openSetUp storage topic = publisher.openSetUp storage topic := by
  simp only [openSetUp, withLayout, alike.setup]

theorem openAppend_withLayout (storage : Storage) (topic : String) (messages : List Message) :
    (publisher.withLayout layout).openAppend storage topic messages =
      publisher.openAppend storage topic messages := by
  simp only [openAppend, withLayout, alike.append]

theorem beginCall_withLayout (storage : Storage) (task : Task) :
    (publisher.withLayout layout).beginCall storage task = publisher.beginCall storage task := by
  cases task with
  | setUp topic => exact publisher.openSetUp_withLayout alike storage topic
  | publish topic messages =>
      simp only [beginCall, publisher.openSetUp_withLayout alike]
      rfl

theorem advance_withLayout (storage : Storage) (task : Task) (phase : Call.Phase) :
    let next := phase.advance publisher storage task
    phase.advance (publisher.withLayout layout) storage task =
      { next with publisher := next.publisher.withLayout layout } := by
  cases phase with
  | inside purpose handle script =>
      cases script with
      | done result => cases purpose <;> cases result <;> cases task <;> rfl
      | _ => rfl
  | ready =>
      cases task with
      | setUp topic => rfl
      | publish topic messages =>
          simp only [Call.Phase.advance, publisher.openAppend_withLayout alike]
  | ended result => rfl

end Publisher

/-! Subscribers. -/

namespace Subscriber

def withLayout (subscriber : Subscriber) (layout : MessageLayout) : Subscriber :=
  { subscriber with layout }

def tables (subscriber : Subscriber) (topic : String) : Except Failure (List Statement) := do
  let cursors ← subscriber.cursors.setup topic
  let messages ← subscriber.layout.setup topic
  return cursors ++ messages

theorem setUp_tables (subscriber : Subscriber) (topic : String) (storage : Storage) :
    subscriber.setUp topic storage = storage.setUp topic (subscriber.tables topic) := rfl

variable {σ : Type} (subscriber : Subscriber) {used : CursorLayout → Prop} {layout : MessageLayout}
  (alike : layout.Alike used subscriber.layout)
include alike

theorem tables_withLayout (topic : String) :
    (subscriber.withLayout layout).tables topic = subscriber.tables topic := by
  simp only [tables, withLayout, alike.setup]

theorem setUp_withLayout (topic : String) (storage : Storage) :
    (subscriber.withLayout layout).setUp topic storage = subscriber.setUp topic storage := by
  rw [setUp_tables, setUp_tables, subscriber.tables_withLayout alike]

theorem deliver_withLayout (topic : String) (rows : List (List Value)) (acknowledged : Nat) :
    (subscriber.withLayout layout).deliver topic rows acknowledged =
      subscriber.deliver topic rows acknowledged := by
  induction rows generalizing acknowledged with
  | nil => rfl
  | cons columns rest ih =>
      -- A subscriber decodes no rows but those that the database returned.
      have decoded : (subscriber.withLayout layout).layout.decode (.ofColumns columns) =
          subscriber.layout.decode (.ofColumns columns) := alike.decode columns
      simp only [deliver, decoded, ih]
      rfl

theorem pollScript_withLayout (uses : used subscriber.cursors) (topic : String) :
    (subscriber.withLayout layout).pollScript? topic = subscriber.pollScript? topic := by
  have fetched :
      (subscriber.withLayout layout).layout.fetch topic subscriber.group subscriber.cursors =
        subscriber.layout.fetch topic subscriber.group subscriber.cursors :=
    alike.fetch topic subscriber.group subscriber.cursors uses
  have cursors : (subscriber.withLayout layout).cursors = subscriber.cursors := rfl
  have group : (subscriber.withLayout layout).group = subscriber.group := rfl
  have delivered : (subscriber.withLayout layout).deliver topic = subscriber.deliver topic := by
    funext rows acknowledged
    exact subscriber.deliver_withLayout alike topic rows acknowledged
  simp only [pollScript?, pollScript, cursors, group, fetched, delivered]

theorem poll_withLayout (uses : used subscriber.cursors) (topic : String) (handler : Handler σ)
    (state : σ) (storage : Storage) :
    (subscriber.withLayout layout).poll topic handler state storage =
      subscriber.poll topic handler state storage := by
  simp only [poll, subscriber.pollScript_withLayout alike uses]

theorem prepare_withLayout (topic : String) (storage : Storage) :
    (subscriber.withLayout layout).prepare topic storage = subscriber.prepare topic storage := by
  simp only [prepare, subscriber.setUp_withLayout alike]
  rfl

theorem step_withLayout (uses : used subscriber.cursors) (topic : String) (handler : Handler σ)
    (subscription : Subscription σ) (occasion : Occasion) :
    (subscriber.withLayout layout).step topic handler subscription occasion =
      subscriber.step topic handler subscription occasion := by
  cases occasion with
  | turn =>
      simp only [step, turn, subscriber.prepare_withLayout alike,
        subscriber.poll_withLayout alike uses]
      rfl
  | _ => rfl

end Subscriber

end TopicLog
