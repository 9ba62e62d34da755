import TopicLog.Proofs.EncodedBatches
import TopicLog.Proofs.ForwardedFailures
import TopicLog.Proofs.StatementTokens

/-!
An invalid topic gets nowhere. Each operation on it fails with the topic before a name is asked for, so
no statement exists, nothing is run and nothing is handed over.
-/
namespace TopicLog

def TopicCharacter (c : Char) : Prop :=
  'A' ≤ c ∧ c ≤ 'Z' ∨ 'a' ≤ c ∧ c ≤ 'z' ∨ '0' ≤ c ∧ c ≤ '9' ∨ c ∈ ['_', '.', ':', '$', '-']

/-- A text that is no topic: it is empty, or has a character that topics have not. -/
def Malformed (topic : String) : Prop :=
  topic = "" ∨ ∃ c ∈ topic.toList, ¬ TopicCharacter c

theorem isTopicChar_iff {c : Char} : isTopicChar c = true ↔ TopicCharacter c := by
  have within (first last : Char) :
      (decide (c.val ≥ first.val) && decide (c.val ≤ last.val)) = true ↔ first ≤ c ∧ c ≤ last := by
    simp [Char.le_def]
  have upper : c.isUpper = true ↔ 'A' ≤ c ∧ c ≤ 'Z' := decide_eq_true_iff
  have lower : c.isLower = true ↔ 'a' ≤ c ∧ c ≤ 'z' := within 'a' 'z'
  have digit : c.isDigit = true ↔ '0' ≤ c ∧ c ≤ '9' := within '0' '9'
  have letters : c.isAlphanum = (c.isUpper || c.isLower || c.isDigit) := rfl
  simp only [isTopicChar, TopicCharacter, letters, Bool.or_eq_true, upper, lower, digit,
    decide_eq_true_eq, List.mem_cons, List.not_mem_nil]
  grind

theorem malformed_iff {topic : String} : Malformed topic ↔ isTopic topic = false := by
  simp only [Malformed, isTopic, ← isTopicChar_iff, Bool.and_eq_false_iff, Bool.not_eq_false',
    List.isEmpty_iff, String.toList_eq_nil_iff, List.all_eq_false]

/-! What a table is named. -/

/-- Something that is built while it is noted for which topics a name was made. -/
abbrev Asking := ExceptT Failure (StateM (List String))

def Asking.name (naming : TableNaming) (topic : String) : Asking String := do
  modify (· ++ [topic])
  return naming.generate topic

namespace Request

/-- What comes of an operation of the usual layouts, and the topics for which it had a name made. -/
def asked (log : MessageSettings) (cursors : CursorSettings) (topic : String) (request : Request) :
    Except Failure (List Statement) × List String :=
  (request.build log cursors (nameTable (Asking.name log.naming) topic)
    (nameTable (Asking.name cursors.naming) topic)).run.run []

variable (log : MessageSettings) (cursors : CursorSettings) (request : Request) {topic : String}

theorem statements_invalid (invalid : isTopic topic = false) :
    request.statements log.layout cursors.layout topic = .error (.invalidTopic topic) := by
  rw [statements_build, TableNaming.table_eq, TableNaming.table_eq, invalid]
  exact request.build_unnamed log cursors _

theorem asked_invalid (invalid : isTopic topic = false) :
    request.asked log cursors topic = (.error (.invalidTopic topic), []) := by
  have unnamed (naming : TableNaming) : nameTable (Asking.name naming) topic =
      liftM (.error (.invalidTopic topic) : Except Failure String) := by
    simp only [nameTable, validateTopic, invalid]
    rfl
  rw [asked, unnamed, unnamed]
  cases request <;> rfl

theorem asked_statements (topic : String) :
    (request.asked log cursors topic).1 = request.statements log.layout cursors.layout topic := by
  cases valid : isTopic topic with
  | false =>
      rw [asked_invalid log cursors request valid, statements_invalid log cursors request valid]
  | true =>
      have named (naming : TableNaming) :
          nameTable (Asking.name naming) topic = Asking.name naming topic := by
        simp only [nameTable, validateTopic, valid]
        rfl
      rw [asked, named, named, statements_build, TableNaming.table_eq, TableNaming.table_eq, valid]
      cases request with
      | append messages =>
          simp only [build, MessageSettings.appendOn]
          cases messages.isEmpty with
          | true => rfl
          | false => cases log.codec.records messages <;> rfl
      | _ => rfl

end Request

/-! An invalid topic. -/

theorem validateTopic_invalid {topic : String} (invalid : isTopic topic = false) :
    validateTopic topic = .error (.invalidTopic topic) := by
  rw [validateTopic, invalid]
  rfl

theorem TableNaming.table_invalid {topic : String} (invalid : isTopic topic = false)
    (naming : TableNaming) : naming.table topic = .error (.invalidTopic topic) := by
  rw [table_eq, invalid]
  rfl

/-- A subscription that cannot begin. It ends as soon as it takes a turn, and does nothing else. -/
structure Subscription.Barred {σ : Type} (failure : Failure) (state : σ) (turned : Bool)
    (storage : Storage) (subscription : Subscription σ) : Prop where
  phase : subscription.phase = if turned then .ended (.error failure) else .starting
  kept : subscription.state = state
  stored : subscription.storage = storage
  silent : subscription.errors = []

theorem Subscription.Barred.never_polls {σ : Type} {failure : Failure} {state : σ} {turned : Bool}
    {storage : Storage} {subscription : Subscription σ}
    (barred : subscription.Barred failure state turned storage) (occasion : Occasion) :
    subscription.polls occasion = false := by
  have phase := barred.phase
  cases turned <;> simp [Subscription.polls, phase]

namespace Subscriber

variable {σ : Type} {subscriber : Subscriber} {topic : String} (handler : Handler σ) {state : σ}
  {failure : Failure} {turned : Bool} {storage : Storage} {subscription : Subscription σ}

theorem barred_step
    (fails : ∀ storage, subscriber.prepare topic storage = (.error failure, storage))
    (barred : subscription.Barred failure state turned storage) (occasion : Occasion) :
    (subscriber.step topic handler subscription occasion).Barred failure state
      (turned || occasion = .turn) storage := by
  obtain ⟨phase, kept, stored, silent⟩ := barred
  cases occasion with
  | turn =>
      cases turned with
      | false =>
          replace phase : subscription.phase = .starting := phase
          simp only [step, turn, phase, fails]
          exact ⟨rfl, kept, stored, silent⟩
      | true =>
          replace phase : subscription.phase = .ended (.error failure) := phase
          simp only [step, turn, phase]
          exact ⟨phase, kept, stored, silent⟩
  | wake =>
      have still : subscriber.step topic handler subscription .wake = subscription := by
        cases turned <;> simp [step, phase]
      rw [still]
      exact ⟨by simpa using phase, kept, stored, silent⟩
  | _ =>
      simp only [step]
      split <;> exact ⟨by simpa using phase, kept, stored, silent⟩

theorem barred_steps
    (fails : ∀ storage, subscriber.prepare topic storage = (.error failure, storage))
    (barred : subscription.Barred failure state turned storage) (happened : List Amid) :
    (subscriber.stepsAmid topic handler happened subscription).Barred failure state
      (turned || happened.any (·.1 = .turn))
      (happened.foldl (fun storage amid => amid.2 storage) storage) := by
  -- The storage is only what the others make of it; the subscription adds nothing to that.
  induction happened generalizing turned storage subscription with
  | nil => simpa [stepsAmid] using barred
  | cons first rest ih =>
      obtain ⟨phase, kept, stored, silent⟩ := barred_step handler fails barred first.1
      have next : (subscriber.stepAmid topic handler subscription first).Barred failure state
          (turned || first.1 = .turn) (first.2 storage) :=
        ⟨phase, kept, congrArg first.2 stored, silent⟩
      have later := ih next
      rwa [Bool.or_assoc] at later

end Subscriber

/-! Publishers and subscribers of the usual layouts. -/

namespace MessageSettings

variable (log : MessageSettings) (cursors : CursorSettings)

def publisher (settings : PublisherSettings) (initialized : List String) : Publisher :=
  ⟨log.layout, settings, initialized⟩

def subscriber (settings : SubscriberSettings) : Subscriber :=
  ⟨log.layout, cursors.layout, settings⟩

section Invalid

variable {topic : String} (invalid : isTopic topic = false)
include invalid

theorem setup_invalid : log.layout.setup topic = .error (.invalidTopic topic) := by
  simp only [layout, setupOn, TableNaming.table_invalid invalid]
  rfl

theorem fetch_invalid (group : String) (cursors : CursorLayout) :
    log.layout.fetch topic group cursors = .error (.invalidTopic topic) := by
  simp only [layout, fetch, TableNaming.table_invalid invalid]
  rfl

theorem publisher_setUp_invalid (settings : PublisherSettings) (initialized : List String)
    (storage : Storage) :
    (log.publisher settings initialized).setUp topic storage =
      (.error (.schema topic (.invalidTopic topic)), storage) := by
  simp only [publisher, Publisher.setUp, log.setup_invalid invalid, Storage.setUp]

theorem subscriber_setUp_invalid (settings : SubscriberSettings) (storage : Storage) :
    (log.subscriber cursors settings).setUp topic storage =
      (.error (.schema topic (.invalidTopic topic)), storage) := by
  have failed : cursors.layout.setup topic = .error (.invalidTopic topic) :=
    Request.createCursors.statements_invalid log cursors invalid
  simp only [subscriber, Subscriber.setUp, failed]
  rfl

theorem pollScript_invalid (settings : SubscriberSettings) :
    (log.subscriber cursors settings).pollScript? topic = .error (.invalidTopic topic) := by
  simp only [subscriber, Subscriber.pollScript?, CursorSettings.layout,
    TableNaming.table_invalid invalid]
  rfl

theorem prepare_invalid {settings : SubscriberSettings} (wanted : settings.initializeSchema = true)
    (storage : Storage) :
    (log.subscriber cursors settings).prepare topic storage =
      (.error (.schema topic (.invalidTopic topic)), storage) := by
  have failed := log.subscriber_setUp_invalid cursors invalid settings storage
  have wants : (log.subscriber cursors settings).settings.initializeSchema = true := wanted
  simp only [Subscriber.prepare, wants, failed, ↓reduceIte]

end Invalid

end MessageSettings

/-- Whatever takes an invalid topic fails with it: no name is asked for, no handler called, nothing done
to a database and nothing remembered. -/
structure Rejects (log : MessageSettings) (cursors : CursorSettings) (topic : String) : Prop where
  checked : validateTopic topic = .error (.invalidTopic topic)
  messageTable : log.quotedTable topic = .error (.invalidTopic topic)
  cursorTable : cursors.quotedTable topic = .error (.invalidTopic topic)
  request : ∀ request : Request,
    request.statements log.layout cursors.layout topic = .error (.invalidTopic topic)
  fetch : ∀ group other, log.layout.fetch topic group other = .error (.invalidTopic topic)
  unasked : ∀ request : Request,
    request.asked log cursors topic = (.error (.invalidTopic topic), [])
  publish : ∀ settings initialized messages storage,
    let publisher := log.publisher settings initialized
    publisher.publish topic messages storage = (.error (.invalidTopic topic), publisher, storage)
  setUpMessages : ∀ settings initialized storage,
    (log.publisher settings initialized).setUp topic storage =
      (.error (.schema topic (.invalidTopic topic)), storage)
  setUp : ∀ settings storage, (log.subscriber cursors settings).setUp topic storage =
    (.error (.schema topic (.invalidTopic topic)), storage)
  script : ∀ settings,
    (log.subscriber cursors settings).pollScript? topic = .error (.invalidTopic topic)
  poll : ∀ settings {σ : Type} (handler : Handler σ) state storage,
    let subscriber := log.subscriber cursors settings
    subscriber.poll topic handler state storage =
        (some (.error (.invalidTopic topic)), state, storage) ∧
      subscriber.journal topic handler state storage = []
  run : ∀ settings {σ : Type} (handler : Handler σ) count state storage,
    settings.initializeSchema = true →
    (log.subscriber cursors settings).run topic handler count state storage =
      { result := some (.error (.schema topic (.invalidTopic topic))), state, storage }
  amid : ∀ settings {σ : Type} (handler : Handler σ) listener state storage (happened : List Amid),
    settings.initializeSchema = true →
    let subscription := (log.subscriber cursors settings).stepsAmid topic handler happened
      { listener, state, storage }
    subscription.Barred (.schema topic (.invalidTopic topic)) state (happened.any (·.1 = .turn))
        (happened.foldl (fun storage others => others.2 storage) storage) ∧
      ∀ occasion, subscription.polls occasion = false

theorem rejects_invalid {topic : String} (invalid : isTopic topic = false) (log : MessageSettings)
    (cursors : CursorSettings) : Rejects log cursors topic where
  checked := validateTopic_invalid invalid
  messageTable := congrArg (Except.map _) (TableNaming.table_invalid invalid log.naming)
  cursorTable := congrArg (Except.map _) (TableNaming.table_invalid invalid cursors.naming)
  request request := request.statements_invalid log cursors invalid
  fetch := log.fetch_invalid invalid
  unasked request := request.asked_invalid log cursors invalid
  publish settings initialized messages storage := by
    simp only [Publisher.publish, validateTopic_invalid invalid]
  setUpMessages := log.publisher_setUp_invalid invalid
  setUp := log.subscriber_setUp_invalid cursors invalid
  script := log.pollScript_invalid cursors invalid
  poll settings σ handler state storage := by
    have failed := log.pollScript_invalid cursors invalid settings
    simp only [Subscriber.poll, Subscriber.journal, failed, and_self]
  run settings σ handler count state storage wanted :=
    Subscriber.run_failed (log.prepare_invalid cursors invalid wanted storage) count
  amid settings σ handler listener state storage happened wanted := by
    have begun : Subscription.Barred (.schema topic (.invalidTopic topic)) state false storage
        { listener, state, storage } := ⟨rfl, rfl, rfl, rfl⟩
    have barred := Subscriber.barred_steps handler
      (log.prepare_invalid cursors invalid wanted) begun happened
    exact ⟨barred, barred.never_polls⟩

end TopicLog
