import TopicLog.Session
import TopicLog.Proofs.Agreement

/-!
Publishers and members of consumer groups that take turns on one database: each operation has ended
before the next begins. Some operations may be left out of a sequence without any of the others telling
so by its answer. To show that of a sequence, it is enough to look at one operation at a time: those
that stay do the same from states that are related, those that go leave a state related to what it was.
-/
namespace TopicLog

structure Site where
  publishers : Nat → Publisher
  storage : Storage

inductive Operation (σ : Type) where
  | setUpPublisher (number : Nat) (topic : String)
  | publish (number : Nat) (topic : String) (messages : List Message)
  | setUpSubscriber (member : Member) (topic : String)
  | poll (member : Member) (topic : String) (handler : Handler σ) (state : σ)
  /-- The bound of a group, read by itself. -/
  | claim (topic group : String)
  | mark (topic group : String) (offset : Int)
  | acknowledge (topic group : String) (offset : Int)
  | pause (clock : Timestamp)

inductive Answer (σ : Type) where
  | done (result : Except Failure Unit)
  | polled (result : PollResult) (state : σ) (handed : List (Delivery × Option Verdict))
  | bounded (result : Except Failure Int)
  | affected (result : Except Failure Nat)
  | paused

def Names.session (names : Names) (storage : Storage) : Session where
  messages := { dialect := .sqlite, naming := names.messages }
  cursorTables := { dialect := .sqlite, naming := names.cursors }
  layout := names.layout defaultBatchSize .json
  cursors := names.cursorLayout
  publisher := { layout := names.layout defaultBatchSize .json }
  storage

namespace Operation

variable {σ : Type}

def topic? : Operation σ → Option String
  | .setUpPublisher _ topic | .publish _ topic _ | .setUpSubscriber _ topic | .poll _ topic _ _
  | .claim topic _ | .mark topic _ _ | .acknowledge topic _ _ => some topic
  | .pause _ => none

/-- The group whose cursor an operation reads or moves. -/
def group? : Operation σ → Option String
  | .poll member _ _ _ => some member.settings.group
  | .claim _ group | .mark _ group _ | .acknowledge _ group _ => some group
  | _ => none

end Operation

namespace Site

variable {σ : Type}

def after (site : Site) (storage : Storage) : Site := { site with storage := storage.settle }

def withPublisher (site : Site) (number : Nat) (publisher : Publisher) : Site :=
  { site with
    publishers := fun other => if other = number then publisher else site.publishers other }

def perform (namings : Namings) (site : Site) : Operation σ → Answer σ × Site
  | .setUpPublisher number topic =>
      let (result, storage) := (site.publishers number).setUp topic site.storage
      (.done result, site.after storage)
  | .publish number topic messages =>
      let (result, publisher, storage) :=
        (site.publishers number).publish topic messages site.storage
      (.done result, (site.withPublisher number publisher).after storage)
  | .setUpSubscriber member topic =>
      let (result, storage) := (member.subscriber namings).setUp topic site.storage
      (.done result, site.after storage)
  | .poll member topic handler state =>
      let subscriber := member.subscriber namings
      let journal := subscriber.journal topic handler state site.storage
      let (result, state, storage) := subscriber.poll topic handler state site.storage
      (.polled result state journal.handed, site.after storage)
  | .claim topic group =>
      let (result, session) := (namings.names.session site.storage).claim none topic group
      (.bounded result, { site with storage := session.storage })
  | .mark topic group offset =>
      let (result, session) := (namings.names.session site.storage).mark none topic group offset
      (.affected result, { site with storage := session.storage })
  | .acknowledge topic group offset =>
      let (result, session) := (namings.names.session site.storage).acknowledge none topic group offset
      (.affected result, { site with storage := session.storage })
  | .pause clock => (.paused, { site with storage := { site.storage with clock } })

def run (namings : Namings) : List (Operation σ) → Site → List (Operation σ × Answer σ) × Site
  | [], site => ([], site)
  | operation :: rest, site =>
      let (answer, site) := site.perform namings operation
      let (answers, site) := run namings rest site
      ((operation, answer) :: answers, site)

theorem run_filter {namings : Namings} (related : Site → Site → Prop) (keep : Operation σ → Bool)
    (operations : List (Operation σ))
    (kept : ∀ operation ∈ operations, keep operation = true → ∀ first second,
      related first second →
        (first.perform namings operation).1 = (second.perform namings operation).1 ∧
          related (first.perform namings operation).2 (second.perform namings operation).2)
    (dropped : ∀ operation ∈ operations, keep operation = false → ∀ first second,
      related first second → related (first.perform namings operation).2 second)
    {first second : Site} (start : related first second) :
    (run namings operations first).1.filter (fun answered => keep answered.1) =
        (run namings (operations.filter keep) second).1 ∧
      related (run namings operations first).2 (run namings (operations.filter keep) second).2 := by
  -- An operation that is left out moves only the first site, which the relation bears.
  induction operations generalizing first second with
  | nil => exact ⟨rfl, start⟩
  | cons operation rest ih =>
      have later {first second : Site} (start : related first second) :=
        ih (fun other member => kept other (.tail _ member))
          (fun other member => dropped other (.tail _ member)) start
      cases stays : keep operation with
      | true =>
          obtain ⟨same, left⟩ := kept operation (.head _) stays first second start
          obtain ⟨answers, final⟩ := later left
          simp only [run, List.filter_cons, stays, ↓reduceIte]
          exact ⟨by rw [same, answers], final⟩
      | false =>
          obtain ⟨answers, final⟩ := later (dropped operation (.head _) stays first second start)
          simp only [run, List.filter_cons, stays, Bool.false_eq_true, ↓reduceIte]
          exact ⟨answers, final⟩

end Site

/-! One operation. -/

def Operation.Runs {σ : Type} (namings : Namings) (allowed : Action → Prop) : Operation σ → Prop
  | .setUpPublisher _ topic => allowed (.createLog (namings.messageTable topic))
  | .publish _ topic _ =>
      allowed (.createLog (namings.messageTable topic)) ∧
        ∀ records, allowed (.append (namings.messageTable topic) records)
  | .setUpSubscriber _ topic =>
      allowed (.createCursors (namings.cursorTable topic)) ∧
        allowed (.createLog (namings.messageTable topic))
  | .poll member topic _ _ =>
      let claim : Claim := ⟨.sqlite, namings.cursorTable topic, member.settings.group⟩
      allowed (.claim claim) ∧ (∀ limit, allowed (.fetch (namings.messageTable topic) claim limit)) ∧
        ∀ offset, allowed (.markConsumed claim.table claim.group offset) ∧
          allowed (.acknowledge claim.table claim.group offset)
  | .claim topic group => allowed (.claim ⟨.sqlite, namings.cursorTable topic, group⟩)
  | .mark topic group offset => allowed (.markConsumed (namings.cursorTable topic) group offset)
  | .acknowledge topic group offset =>
      allowed (.acknowledge (namings.cursorTable topic) group offset)
  | .pause _ => True

def Site.Standard (namings : Namings) (site : Site) : Prop :=
  ∀ number, ∃ batchSize codec, (site.publishers number).layout = namings.layout batchSize codec

/-- Sites that do the same for a topic. -/
structure Site.Agrees (namings : Namings) (topic : String) (agree : Database → Database → Prop)
    (first second : Site) : Prop where
  storage : first.storage.Agrees agree second.storage
  publishers : ∀ number, (first.publishers number).Matches topic (second.publishers number)
  standard : first.Standard namings

/-! The statements that the usual layouts build. -/

section Statements

variable {namings : Namings} {topic : String} {allowed : Action → Prop}

theorem Namings.setup_allowed (batchSize : Nat) (codec : Codec)
    (log : allowed (.createLog (namings.messageTable topic))) (list : List Statement)
    (built : (namings.layout batchSize codec).setup topic = .ok list) :
    ∀ statement ∈ list, allowed statement.action := by
  rw [← ofTopic_built (namings.layout_setup topic batchSize codec) built]
  simpa using log

theorem Namings.setups_allowed (member : Member)
    (cursors : allowed (.createCursors (namings.cursorTable topic)))
    (log : allowed (.createLog (namings.messageTable topic))) (list : List Statement)
    (built : (do
      let cursors ← (member.subscriber namings).cursors.setup topic
      let messages ← (member.subscriber namings).layout.setup topic
      return cursors ++ messages) = .ok list) :
    ∀ statement ∈ list, allowed statement.action := by
  rw [← ofTopic_built (namings.layouts_setup topic member.batchSize member.codec) built]
  simpa using ⟨cursors, log⟩

theorem Namings.append_allowed (batchSize : Nat) (codec : Codec) (messages : List Message)
    (appends : ∀ records, allowed (.append (namings.messageTable topic) records))
    (statement : Statement)
    (built : (namings.layout batchSize codec).append topic messages = .ok statement) :
    allowed statement.action := by
  obtain ⟨records, -, rfl⟩ := Namings.layout_append built
  exact appends records

theorem Member.poll_allowed {member : Member} {handler : Handler σ} {state : σ}
    (runs : (Operation.poll member topic handler state).Runs namings allowed) :
    (member.subscriber namings).Runs topic (Command.IsRun allowed) := by
  obtain ⟨claim, fetch, moves⟩ := runs
  exact member.runs namings topic ⟨_, rfl, claim⟩ (fun limit => ⟨_, rfl, fetch limit⟩)
    (fun offset => ⟨_, rfl, (moves offset).1⟩) (fun offset => ⟨_, rfl, (moves offset).2⟩)

end Statements

section Agreement

variable {σ : Type} {namings : Namings} {names : Names} {topic : String}
  {agree : Database → Database → Prop} {first second : Site}

def Names.single (names : Names) (storage : Storage) (topic : String) (action : Action) :
    Session.Step Effect :=
  (names.session storage).attempt none (Session.statement (ofTopic topic ⟨.sqlite, action⟩))

theorem Names.session_claim (names : Names) (storage : Storage) (topic group : String) :
    (names.session storage).claim none topic group =
      let (result, session) :=
        names.single storage topic (.claim ⟨.sqlite, names.cursorTable topic, group⟩)
      (result.bind Script.scalar, session) := by
  have built : ((names.session storage).cursors.claim topic group).map Claim.statement =
      ofTopic topic ⟨.sqlite, .claim ⟨.sqlite, names.cursorTable topic, group⟩⟩ :=
    (congrArg _ (names.cursors_claim topic group)).trans (ofTopic_map topic _ _)
  simp only [Session.claim, single, built]

theorem Names.session_write (names : Names) (storage : Storage) (topic : String) (upsert : Upsert) :
    (names.session storage).write none topic upsert =
      let (result, session) :=
        names.single storage topic (upsert.action (names.cursorTable topic))
      (result.map Effect.affected, session) :=
  Session.write_usual rfl none topic upsert

theorem Storage.Agrees.single (stable : Stable agree) {first second : Storage}
    (agrees : first.Agrees agree second) {action : Action} (respects : action.Respects agree) :
    (names.single first topic action).1.map Effect.told =
        (names.single second topic action).1.map Effect.told ∧
      (names.single first topic action).2.storage.Agrees agree
        (names.single second topic action).2.storage := by
  unfold Names.single ofTopic
  cases isTopic topic with
  | false => exact ⟨rfl, agrees⟩
  | true =>
      obtain ⟨told, left⟩ := agrees.autocommit stable respects
      refine ⟨?_, left.settle⟩
      simp only [↓reduceIte, Session.attempt, Session.statement, Except.map, Session.command,
        Option.bind_none, Names.session]
      rcases Script.told_cases told with ⟨fault, failed, failedToo⟩ | ⟨effect, done, ok, okToo, same⟩
      · simp only [failed, failedToo, Except.mapError]
      · simp only [ok, okToo, Except.mapError, same]

theorem Storage.Agrees.single_spared (stable : Stable agree) {first second : Storage}
    (agrees : first.Agrees agree second) {action : Action} (spares : action.Spares agree) :
    (names.single first topic action).2.storage.Agrees agree second := by
  unfold Names.single ofTopic
  cases isTopic topic with
  | false => exact agrees
  | true =>
      have left := agrees.autocommit_spared stable spares
      exact ⟨left.closed, left.closedToo, left.clock, left.committed⟩

theorem scalar_told {one other : Except Failure Effect}
    (told : one.map Effect.told = other.map Effect.told) :
    one.bind Script.scalar = other.bind Script.scalar := by
  rcases Script.told_cases told with ⟨failure, rfl, rfl⟩ | ⟨effect, effect', rfl, rfl, same⟩
  · rfl
  · have rows : effect.rows = effect'.rows := congrArg Prod.fst same
    simp only [Except.bind, Script.scalar, rows]

theorem affected_told {one other : Except Failure Effect}
    (told : one.map Effect.told = other.map Effect.told) :
    one.map Effect.affected = other.map Effect.affected := by
  rcases Script.told_cases told with ⟨failure, rfl, rfl⟩ | ⟨effect, effect', rfl, rfl, same⟩
  · rfl
  · exact congrArg (fun pair : List (List Value) × Nat => (.ok pair.2 : Except Failure Nat)) same

namespace Site.Agrees

theorem after (agrees : first.Agrees namings topic agree second) {storage other : Storage}
    (left : storage.Agrees agree other) :
    Site.Agrees namings topic agree { first with storage } { second with storage := other } :=
  ⟨left, agrees.publishers, agrees.standard⟩

theorem pause (agrees : first.Agrees namings topic agree second) (clock : Timestamp) :
    Site.Agrees namings topic agree
      { first with storage := { first.storage with clock } }
      { second with storage := { second.storage with clock } } :=
  agrees.after ⟨agrees.storage.closed, agrees.storage.closedToo, rfl, agrees.storage.committed⟩

theorem withPublisher (agrees : first.Agrees namings topic agree second) {number : Nat}
    {publisher other : Publisher} (same : publisher.Matches topic other)
    (layout : publisher.layout = (first.publishers number).layout) :
    Site.Agrees namings topic agree (first.withPublisher number publisher)
      (second.withPublisher number other) where
  storage := agrees.storage
  publishers place := by
    unfold Site.withPublisher
    by_cases here : place = number
    · simpa [here] using same
    · simpa [here] using agrees.publishers place
  standard place := by
    unfold Site.withPublisher
    by_cases here : place = number
    · simpa [here, layout] using agrees.standard number
    · simpa [here] using agrees.standard place

theorem write (stable : Stable agree) (agrees : first.Agrees namings topic agree second)
    (named : String) (upsert other : Upsert)
    (same : ∀ table, upsert.action table = other.action table)
    (respects : (upsert.action (namings.cursorTable named)).Respects agree) :
    let written := (namings.names.session first.storage).write none named upsert
    let writtenToo := (namings.names.session second.storage).write none named other
    written.1 = writtenToo.1 ∧ Site.Agrees namings topic agree
      { first with storage := written.2.storage } { second with storage := writtenToo.2.storage } := by
  obtain ⟨told, left⟩ := agrees.storage.single stable respects
  simp only [Names.session_write, ← same]
  exact ⟨affected_told told, agrees.after left⟩

theorem write_spared (stable : Stable agree) (agrees : first.Agrees namings topic agree second)
    (named : String) (upsert : Upsert)
    (spares : (upsert.action (namings.cursorTable named)).Spares agree) :
    let written := (namings.names.session first.storage).write none named upsert
    Site.Agrees namings topic agree { first with storage := written.2.storage } second := by
  simp only [Names.session_write]
  exact ⟨agrees.storage.single_spared stable spares, agrees.publishers, agrees.standard⟩

/-- An operation whose statements respect an agreement answers alike where there is one. -/
theorem kept (stable : Stable agree) {operation : Operation σ}
    (runs : operation.Runs namings (Action.Respects agree))
    (about : ∀ other, operation.topic? = some other → other = topic)
    (agrees : first.Agrees namings topic agree second) :
    (first.perform namings operation).1 = (second.perform namings operation).1 ∧
      (first.perform namings operation).2.Agrees namings topic agree
        (second.perform namings operation).2 := by
  cases operation with
  | setUpPublisher number other =>
      obtain ⟨batchSize, codec, layout⟩ := agrees.standard number
      have same := (agrees.publishers number).layout
      obtain ⟨result, left⟩ :=
        agrees.storage.setUp stable other (Namings.setup_allowed batchSize codec runs)
      simp only [perform, Publisher.setUp, ← same, layout]
      exact ⟨congrArg Answer.done result, agrees.after left.settle⟩
  | publish number other messages =>
      obtain rfl := about other rfl
      obtain ⟨batchSize, codec, layout⟩ := agrees.standard number
      obtain ⟨result, matching, left⟩ := agrees.storage.publish stable (agrees.publishers number)
        (layout ▸ Namings.setup_allowed batchSize codec runs.1)
        (layout ▸ Namings.append_allowed batchSize codec messages runs.2)
      have kept := (first.publishers number).publish_layout other messages first.storage
      exact ⟨congrArg Answer.done result, (agrees.withPublisher matching kept).after left.settle⟩
  | setUpSubscriber member other =>
      obtain ⟨result, left⟩ :=
        agrees.storage.setUp stable other (Namings.setups_allowed member runs.1 runs.2)
      exact ⟨congrArg Answer.done result, agrees.after left.settle⟩
  | poll member other handler state =>
      obtain ⟨result, left, handed, storage⟩ :=
        agrees.storage.poll stable (Member.poll_allowed runs) handler state
      simp only [perform, result, left, handed]
      exact ⟨trivial, agrees.after storage.settle⟩
  | claim other group =>
      obtain ⟨told, left⟩ := agrees.storage.single stable runs
      simp only [perform, Names.session_claim]
      exact ⟨congrArg Answer.bounded (scalar_told told), agrees.after left⟩
  | mark other group offset =>
      let upsert (site : Site) : Upsert :=
        .mark ((namings.names.session site.storage).deliveryAt offset) group
      obtain ⟨counted, left⟩ :=
        agrees.write stable other (upsert first) (upsert second) (fun _ => rfl) runs
      exact ⟨congrArg Answer.affected counted, left⟩
  | acknowledge other group offset =>
      let upsert (site : Site) : Upsert :=
        .acknowledge ((namings.names.session site.storage).deliveryAt offset) group
      obtain ⟨counted, left⟩ :=
        agrees.write stable other (upsert first) (upsert second) (fun _ => rfl) runs
      exact ⟨congrArg Answer.affected counted, left⟩
  | pause clock => exact ⟨rfl, agrees.pause clock⟩

theorem after_spared (agrees : first.Agrees namings topic agree second) {storage : Storage}
    (left : storage.Agrees agree second.storage) :
    Site.Agrees namings topic agree (first.after storage) second :=
  ⟨⟨left.closed, left.closedToo, left.clock, left.committed⟩, agrees.publishers, agrees.standard⟩

theorem publisher_spared (agrees : first.Agrees namings topic agree second) (number : Nat)
    {other : String} (apart : other ≠ topic) (messages : List Message) :
    Site.Agrees namings topic agree (first.withPublisher number
      ((first.publishers number).publish other messages first.storage).2.1) second := by
  have next := (first.publishers number).publish_next other messages first.storage
  have kept := (first.publishers number).publish_layout other messages first.storage
  generalize ((first.publishers number).publish other messages first.storage).2.1 = publisher
    at next kept ⊢
  have matching : publisher.Matches topic (second.publishers number) := by
    rcases next with rfl | rfl
    · exact agrees.publishers number
    · exact (agrees.publishers number).learn_other apart
  refine ⟨agrees.storage, fun place => ?_, fun place => ?_⟩
  · unfold Site.withPublisher
    by_cases here : place = number
    · simpa [here] using matching
    · simpa [here] using agrees.publishers place
  · unfold Site.withPublisher
    by_cases here : place = number
    · simpa [here, kept] using agrees.standard number
    · simpa [here] using agrees.standard place

/-- An operation whose statements leave an agreement as it is might not have been, unless it is a pause
or a batch for the topic itself. -/
theorem dropped (stable : Stable agree) {operation : Operation σ}
    (runs : operation.Runs namings (Action.Spares agree))
    (timeless : operation.topic?.isSome)
    (foreign : ∀ number other messages, operation = .publish number other messages → other ≠ topic)
    (agrees : first.Agrees namings topic agree second) :
    (first.perform namings operation).2.Agrees namings topic agree second := by
  cases operation with
  | setUpPublisher number other =>
      obtain ⟨batchSize, codec, layout⟩ := agrees.standard number
      have left :=
        agrees.storage.setUp_spared stable other (Namings.setup_allowed batchSize codec runs)
      rw [← layout] at left
      exact agrees.after_spared left
  | publish number other messages =>
      obtain ⟨batchSize, codec, layout⟩ := agrees.standard number
      have left := agrees.storage.publish_spared stable
        (layout ▸ Namings.setup_allowed batchSize codec runs.1)
        (layout ▸ Namings.append_allowed batchSize codec messages runs.2)
      exact (agrees.publisher_spared number (foreign number other messages rfl)
        messages).after_spared left
  | setUpSubscriber member other =>
      exact agrees.after_spared
        (agrees.storage.setUp_spared stable other (Namings.setups_allowed member runs.1 runs.2))
  | poll member other handler state =>
      exact agrees.after_spared
        (agrees.storage.poll_spared stable (Member.poll_allowed runs) handler state)
  | claim other group =>
      simp only [perform, Names.session_claim]
      exact ⟨agrees.storage.single_spared stable runs, agrees.publishers, agrees.standard⟩
  | mark other group offset =>
      exact agrees.write_spared stable other
        (.mark ((namings.names.session first.storage).deliveryAt offset) group) runs
  | acknowledge other group offset =>
      exact agrees.write_spared stable other
        (.acknowledge ((namings.names.session first.storage).deliveryAt offset) group) runs
  | pause clock => cases timeless

end Site.Agrees

end Agreement

end TopicLog
