import TopicLog.Proofs.InvalidTopics

/-!
Failures of topics. What fails for a valid topic fails for a reason of its own: no statement, set-up, batch,
poll or subscription ends with the failure of a topic, whatever the database answers. So the texts that are
refused as topics are exactly the malformed ones.
-/
namespace TopicLog

namespace Failure

def blamesTopic : Failure → Bool
  | .invalidTopic _ => true
  | .schema _ failure => failure.blamesTopic
  | _ => false

theorem blamesTopic_ofFault (fault : Fault) : (ofFault fault).blamesTopic = false := by
  unfold ofFault ofCause
  split <;> rfl

end Failure

def BlamesNoTopic {α : Type} (result : Except Failure α) : Prop :=
  ∀ failure, result = .error failure → failure.blamesTopic = false

section Blameless

variable {α β : Type} {result : Except Failure α} {failure : Failure}

theorem blamesNoTopic_ok (value : α) : BlamesNoTopic (.ok value) := nofun

theorem blamesNoTopic_error (blameless : failure.blamesTopic = false) :
    BlamesNoTopic (.error failure : Except Failure α) := by
  rintro _ ⟨⟩
  exact blameless

theorem BlamesNoTopic.map (blameless : BlamesNoTopic result) (read : α → β) :
    BlamesNoTopic (result.map read) :=
  fun failure failed => blameless failure (map_failed failed)

theorem blamesNoTopic_of_map {read : α → β} (blameless : BlamesNoTopic (result.map read)) :
    BlamesNoTopic result := by
  rintro failure rfl
  exact blameless failure rfl

theorem BlamesNoTopic.bind {next : α → Except Failure β} (blameless : BlamesNoTopic result)
    (later : ∀ value, BlamesNoTopic (next value)) : BlamesNoTopic (result >>= next) := by
  intro failure failed
  rcases failed_bind failed with first | ⟨value, -, second⟩
  · exact blameless failure first
  · exact later value failure second

end Blameless

namespace Script

variable {α β σ : Type}

/-- A script whose results all have a property, whatever answers it gets. -/
def EndsIn (property : α → Prop) : Script α → Prop
  | .done result => property result
  | .execute _ next => ∀ answer, (next answer).EndsIn property
  | .hand _ next => ∀ verdict, (next verdict).EndsIn property
  | .commit next | .rollback next => next.EndsIn property

theorem EndsIn.goes {property : α → Prop} {script : Script α} (ends : script.EndsIn property)
    {journal : Journal} {ended : Option α} (goes : script.Goes journal ended) :
    ∀ result, ended = some result → property result := by
  induction goes with
  | done result =>
      rintro _ ⟨⟩
      exact ends
  | execute later ih => exact ih (ends _)
  | hand later ih => exact ih (ends _)
  | hang delivery next => nofun
  | commit later ih => exact ih ends
  | rollback later ih => exact ih ends

theorem EndsIn.run {property : α → Prop} {script : Script α} (ends : script.EndsIn property)
    (handler : Handler σ) (handle : Handle) (state : σ) (storage : Storage) :
    ∀ result, (script.run handler handle state storage).1 = some result → property result :=
  ends.goes (script.journal_goes handler handle state storage)

theorem statement_blamesNoTopic (statement : Statement) {next : Effect → Script (Except Failure α)}
    (later : ∀ effect, (next effect).EndsIn BlamesNoTopic) :
    (Script.statement statement next).EndsIn BlamesNoTopic := by
  intro answer
  cases answer with
  | error fault => exact blamesNoTopic_error (Failure.blamesTopic_ofFault fault)
  | ok effect => exact later effect

theorem require_blamesNoTopic {wanted : Except Failure β} {next : β → Script (Except Failure α)}
    (blameless : BlamesNoTopic wanted) (later : ∀ value, (next value).EndsIn BlamesNoTopic) :
    (Script.require wanted next).EndsIn BlamesNoTopic := by
  cases wanted with
  | error failure => exact blamesNoTopic_error (blameless failure rfl)
  | ok value => exact later value

theorem all_blamesNoTopic (statements : List Statement) :
    (Script.all statements).EndsIn BlamesNoTopic := by
  induction statements with
  | nil => exact blamesNoTopic_ok ()
  | cons first rest ih => exact statement_blamesNoTopic first fun _ => ih

theorem scalar_blamesNoTopic (effect : Effect) : BlamesNoTopic (Script.scalar effect) := by
  intro failure failed
  obtain ⟨cause, rfl⟩ := (Row.failed_column _ _).1 _ failed
  rfl

end Script

theorem Row.delivery_blamesNoTopic (columns : List Value) (codec : Codec) :
    BlamesNoTopic ((Row.ofColumns columns).delivery codec) := by
  intro failure failed
  rcases Row.failed_delivery failed with ⟨index, cause, rfl⟩ | ⟨offset, -, reason, cause, rfl⟩
  · rfl
  · rfl

theorem Storage.setUp_blamesNoTopic {statements : Except Failure (List Statement)}
    (blameless : BlamesNoTopic statements) (topic : String) (storage : Storage) :
    BlamesNoTopic (storage.setUp topic statements).1 := by
  cases statements with
  | error failure => exact blamesNoTopic_error (blameless failure rfl)
  | ok statements =>
      have ends := (Script.all_blamesNoTopic statements).run (fun _ _ => (none, ()))
        storage.begin.1 () storage.begin.2
      rw [Storage.setUp_performed]
      cases performed : (storage.perform (Script.all statements)).1 with
      | none => exact blamesNoTopic_ok ()
      | some result =>
          have blameless := ends result performed
          cases result with
          | ok done => exact blamesNoTopic_ok ()
          | error failure => exact blamesNoTopic_error (blameless failure rfl)

section Valid

variable {topic : String} (valid : isTopic topic = true) (log : MessageSettings)
  (cursors : CursorSettings)
include valid

theorem TableNaming.table_valid (naming : TableNaming) :
    naming.table topic = .ok (naming.generate topic) := by
  rw [table_eq, valid]
  rfl

theorem MessageSettings.append_blamesNoTopic (messages : List Message) :
    BlamesNoTopic (log.layout.append topic messages) := by
  -- Of the reasons to refuse a batch only the first is the topic's, and that is excluded.
  rcases log.encodable_or_refuses topic messages with ⟨-, nonempty, all⟩ | ⟨failure, refuses⟩
  · obtain ⟨statement, built, -⟩ := append_encodable valid nonempty all
    rw [built]
    exact blamesNoTopic_ok statement
  · rw [refuses.append]
    apply blamesNoTopic_error
    cases refuses with
    | invalidTopic invalid => cases valid.symm.trans invalid
    | emptyBatch => rfl
    | encoding => rfl

theorem Request.statements_blamesNoTopic (request : Request) :
    BlamesNoTopic (request.statements log.layout cursors.layout topic) := by
  cases request with
  | append messages => exact (log.append_blamesNoTopic valid messages).map _
  | _ =>
      rw [statements_build, TableNaming.table_valid valid, TableNaming.table_valid valid]
      exact blamesNoTopic_ok _

namespace MessageSettings

variable (settings : SubscriberSettings)

theorem publisher_setUp_blamesNoTopic (settings : PublisherSettings) (initialized : List String)
    (storage : Storage) :
    BlamesNoTopic ((log.publisher settings initialized).setUp topic storage).1 :=
  Storage.setUp_blamesNoTopic
    (Request.createLog.statements_blamesNoTopic valid log ⟨log.dialect, log.naming⟩) topic storage

theorem ensureInitialized_blamesNoTopic (settings : PublisherSettings) (initialized : List String)
    (storage : Storage) :
    BlamesNoTopic ((log.publisher settings initialized).ensureInitialized topic storage).1 := by
  have made := log.publisher_setUp_blamesNoTopic valid settings initialized storage
  unfold Publisher.ensureInitialized
  split
  · exact blamesNoTopic_ok ()
  · split
    · exact blamesNoTopic_ok ()
    · rename_i ran
      rwa [ran] at made

theorem publish_append_blamesNoTopic {publisher : Publisher} (usual : publisher.layout = log.layout)
    (messages : List Message) (storage : Storage) :
    BlamesNoTopic (publisher.append topic messages storage).1 := by
  have built := log.append_blamesNoTopic valid messages
  rw [← usual] at built
  unfold Publisher.append
  split
  · exact blamesNoTopic_error (built _ ‹_›)
  · split
    · exact blamesNoTopic_ok ()
    · exact blamesNoTopic_error (Failure.blamesTopic_ofFault _)

theorem publish_blamesNoTopic (settings : PublisherSettings) (initialized : List String)
    (messages : List Message) (storage : Storage) :
    BlamesNoTopic ((log.publisher settings initialized).publish topic messages storage).1 := by
  have checked : validateTopic topic = .ok () := by
    rw [validateTopic, valid]
    rfl
  have ensuring := log.ensureInitialized_blamesNoTopic valid settings initialized storage
  have kept := (log.publisher settings initialized).ensureInitialized_layout topic storage
  simp only [Publisher.publish, checked]
  cases messages.isEmpty with
  | true => exact blamesNoTopic_ok ()
  | false =>
      cases (log.publisher settings initialized).settings.autoInitialize with
      | false => exact log.publish_append_blamesNoTopic valid rfl messages storage
      | true =>
          simp only [Bool.false_eq_true, ↓reduceIte]
          rcases ensured : (log.publisher settings initialized).ensureInitialized topic storage with
            ⟨ready, next, between⟩
          rw [ensured] at ensuring kept
          cases ready with
          | error failure => exact ensuring
          | ok done => exact log.publish_append_blamesNoTopic valid kept messages between

theorem subscriber_setUp_blamesNoTopic (storage : Storage) :
    BlamesNoTopic ((log.subscriber cursors settings).setUp topic storage).1 := by
  apply Storage.setUp_blamesNoTopic
  apply (Request.createCursors.statements_blamesNoTopic valid log cursors).bind
  intro made
  exact (Request.createLog.statements_blamesNoTopic valid log cursors).bind fun _ =>
    blamesNoTopic_ok _

theorem prepare_blamesNoTopic (storage : Storage) :
    BlamesNoTopic ((log.subscriber cursors settings).prepare topic storage).1 := by
  have first : BlamesNoTopic (if settings.initializeSchema then
      (log.subscriber cursors settings).setUp topic storage else (.ok (), storage)).1 := by
    split
    · exact log.subscriber_setUp_blamesNoTopic valid cursors settings storage
    · exact blamesNoTopic_ok ()
  have usual : (log.subscriber cursors settings).settings = settings := rfl
  simp only [Subscriber.prepare, usual]
  rcases made : (if settings.initializeSchema then
    (log.subscriber cursors settings).setUp topic storage else (.ok (), storage)) with ⟨ready, left⟩
  rw [made] at first
  cases ready with
  | error failure => exact first
  | ok done => exact blamesNoTopic_ok ()

theorem deliver_blamesNoTopic (rows : List (List Value)) (acknowledged : Nat) :
    ((log.subscriber cursors settings).deliver topic rows acknowledged).EndsIn BlamesNoTopic := by
  induction rows generalizing acknowledged with
  | nil => exact blamesNoTopic_ok acknowledged
  | cons columns rest ih =>
      unfold Subscriber.deliver
      cases decoded : (log.subscriber cursors settings).layout.decode (.ofColumns columns) with
      | error failure =>
          exact blamesNoTopic_error (Row.delivery_blamesNoTopic columns log.codec failure decoded)
      | ok delivery =>
          have marks := (Request.markConsumed delivery settings.group).statements_blamesNoTopic
            valid log cursors
          have acknowledges :=
            (Request.acknowledge delivery settings.group).statements_blamesNoTopic
              valid log cursors
          refine Script.require_blamesNoTopic (blamesNoTopic_of_map marks) fun mark => ?_
          refine Script.statement_blamesNoTopic mark fun _ verdict => ?_
          cases verdict with
          | refused text => exact blamesNoTopic_error rfl
          | accepted =>
              refine Script.require_blamesNoTopic (blamesNoTopic_of_map acknowledges) fun ack => ?_
              exact Script.statement_blamesNoTopic ack fun _ => ih (acknowledged + 1)

theorem pollScript_blamesNoTopic :
    BlamesNoTopic ((log.subscriber cursors settings).pollScript? topic) := by
  have claims := (Request.claim settings.group).statements_blamesNoTopic valid log cursors
  have fetches := (Request.fetch settings.group).statements_blamesNoTopic valid log cursors
  exact (blamesNoTopic_of_map claims).bind fun _ =>
    (blamesNoTopic_of_map fetches).bind fun _ => blamesNoTopic_ok _

theorem pollScript_ends {script : Script (Except Failure Nat)}
    (built : (log.subscriber cursors settings).pollScript? topic = .ok script) :
    script.EndsIn BlamesNoTopic := by
  obtain ⟨claim, fetch, -, -, rfl⟩ := Subscriber.pollScript_built built
  refine Script.statement_blamesNoTopic _ fun claimed => ?_
  refine Script.require_blamesNoTopic (Script.scalar_blamesNoTopic claimed) fun _ => ?_
  exact Script.statement_blamesNoTopic fetch fun fetched =>
    log.deliver_blamesNoTopic valid cursors settings fetched.rows 0

theorem poll_blamesNoTopic {σ : Type} (handler : Handler σ) (state : σ) (storage : Storage) :
    ∀ result, ((log.subscriber cursors settings).poll topic handler state storage).1 =
      some result → BlamesNoTopic result := by
  unfold Subscriber.poll
  cases built : (log.subscriber cursors settings).pollScript? topic with
  | error failure =>
      rintro _ ⟨⟩
      have blameless := log.pollScript_blamesNoTopic valid cursors settings failure built
      exact blamesNoTopic_error blameless
  | ok script => exact (log.pollScript_ends valid cursors settings built).run handler _ state _

end MessageSettings

end Valid

def Phase.BlamesNoTopic : Phase → Prop
  | .polled result => TopicLog.BlamesNoTopic result
  | .ended result => TopicLog.BlamesNoTopic result
  | _ => True

/-- A subscription that neither forwarded the failure of a topic nor holds one. -/
structure Subscription.BlamesNoTopic {σ : Type} (subscription : Subscription σ) : Prop where
  forwarded : ∀ failure ∈ subscription.errors, failure.blamesTopic = false
  phase : subscription.phase.BlamesNoTopic

namespace Subscriber

variable {σ : Type} {subscriber : Subscriber} {topic : String} {handler : Handler σ}
  {subscription : Subscription σ}

theorem forwarded_failed {result : Except Failure Nat} {failure : Failure}
    (told : failure ∈ forwarded result) : result = .error failure := by
  unfold forwarded at told
  repeat' split at told
  all_goals simp_all

theorem step_blamesNoTopic
    (prepares : ∀ storage, BlamesNoTopic (subscriber.prepare topic storage).1)
    (polls : ∀ state storage result,
      (subscriber.poll topic handler state storage).1 = some result → BlamesNoTopic result)
    (blameless : subscription.BlamesNoTopic) (occasion : Occasion) :
    (subscriber.step topic handler subscription occasion).BlamesNoTopic := by
  obtain ⟨told, holds⟩ := blameless
  have signalled : (Phase.ended (.ok ())).BlamesNoTopic := blamesNoTopic_ok ()
  cases occasion with
  | turn =>
      simp only [step, turn]
      cases phase : subscription.phase with
      | starting =>
          have prepared := prepares subscription.storage
          rcases ready : subscriber.prepare topic subscription.storage with ⟨_ | _, left⟩
          · rw [ready] at prepared
            exact ⟨told, prepared⟩
          · exact ⟨told, trivial⟩
      | ready =>
          have next := polls subscription.state subscription.storage
          dsimp only
          split
          · exact ⟨told, signalled⟩
          · rcases ran : subscriber.poll topic handler subscription.state subscription.storage with
              ⟨_ | result, after, left⟩
            · exact ⟨told, trivial⟩
            · rw [ran] at next
              exact ⟨told, next result rfl⟩
      | polled result =>
          rw [phase] at holds
          -- What is forwarded now is the failure that the phase held as a result.
          have later : ∀ failure ∈ subscription.errors ++
              (if subscription.listener = .present then forwarded result else []),
              failure.blamesTopic = false := by
            intro failure member
            rcases List.mem_append.mp member with earlier | now
            · exact told failure earlier
            · split at now
              · exact holds failure (forwarded_failed now)
              · cases now
          have continues : (subscriber.next result).BlamesNoTopic := by
            rcases subscriber.next_continues result with next | ⟨millis, next⟩ <;> rw [next] <;> trivial
          exact ⟨later, continues⟩
      | pausing millis =>
          dsimp only
          split
          · exact ⟨told, signalled⟩
          · exact ⟨told, holds⟩
      | ended result => exact ⟨told, holds⟩
      | hung => exact ⟨told, holds⟩
  | wake =>
      simp only [step]
      split
      · exact ⟨told, trivial⟩
      · exact ⟨told, holds⟩
  | _ =>
      simp only [step]
      split <;> exact ⟨told, holds⟩

theorem steps_blamesNoTopic
    (prepares : ∀ storage, BlamesNoTopic (subscriber.prepare topic storage).1)
    (polls : ∀ state storage result,
      (subscriber.poll topic handler state storage).1 = some result → BlamesNoTopic result)
    (blameless : subscription.BlamesNoTopic) (happened : List Amid) :
    (subscriber.stepsAmid topic handler happened subscription).BlamesNoTopic := by
  induction happened generalizing subscription with
  | nil => exact blameless
  | cons first rest ih =>
      have next := step_blamesNoTopic prepares polls blameless first.1
      exact ih ⟨next.forwarded, next.phase⟩

theorem stepsAmid_alone (happened : List Occasion) :
    subscriber.stepsAmid topic handler (happened.map (·, id)) subscription =
      subscriber.steps topic handler happened subscription := by
  induction happened generalizing subscription with
  | nil => rfl
  | cons first rest ih => exact ih

end Subscriber

/-- Nothing that takes a valid topic fails with a topic. -/
structure Accepts (log : MessageSettings) (cursors : CursorSettings) (topic : String) : Prop where
  checked : validateTopic topic = .ok ()
  messageTable : BlamesNoTopic (log.quotedTable topic)
  cursorTable : BlamesNoTopic (cursors.quotedTable topic)
  request : ∀ request : Request,
    BlamesNoTopic (request.statements log.layout cursors.layout topic)
  publish : ∀ settings initialized messages storage,
    BlamesNoTopic ((log.publisher settings initialized).publish topic messages storage).1
  setUpMessages : ∀ settings initialized storage,
    BlamesNoTopic ((log.publisher settings initialized).setUp topic storage).1
  setUp : ∀ settings storage,
    BlamesNoTopic ((log.subscriber cursors settings).setUp topic storage).1
  built : ∀ settings, BlamesNoTopic ((log.subscriber cursors settings).pollScript? topic)
  script : ∀ settings script, (log.subscriber cursors settings).pollScript? topic = .ok script →
    ∀ journal result, script.Goes journal (some result) → BlamesNoTopic result
  poll : ∀ settings {σ : Type} (handler : Handler σ) state storage result,
    ((log.subscriber cursors settings).poll topic handler state storage).1 = some result →
    BlamesNoTopic result
  run : ∀ settings {σ : Type} (handler : Handler σ) count state storage,
    let run := (log.subscriber cursors settings).run topic handler count state storage
    (∀ result, run.result = some result → BlamesNoTopic result) ∧
      ∀ failure ∈ run.errors, failure.blamesTopic = false
  amid : ∀ settings {σ : Type} (handler : Handler σ) listener state storage happened,
    ((log.subscriber cursors settings).stepsAmid topic handler happened
      { listener, state, storage }).BlamesNoTopic

theorem accepts_valid {topic : String} (valid : isTopic topic = true) (log : MessageSettings)
    (cursors : CursorSettings) : Accepts log cursors topic := by
  have amid (settings : SubscriberSettings) {σ : Type} (handler : Handler σ) (listener : Listener)
      (state : σ) (storage : Storage) (happened : List Amid) :
      ((log.subscriber cursors settings).stepsAmid topic handler happened
        { listener, state, storage }).BlamesNoTopic := by
    have begun : ({ listener, state, storage } : Subscription σ).BlamesNoTopic :=
      ⟨List.forall_mem_nil _, trivial⟩
    exact Subscriber.steps_blamesNoTopic (log.prepare_blamesNoTopic valid cursors settings)
      (log.poll_blamesNoTopic valid cursors settings handler) begun happened
  exact
    { checked := by
        rw [validateTopic, valid]
        rfl
      messageTable := by
        rw [MessageSettings.quotedTable, TableNaming.table_valid valid]
        exact blamesNoTopic_ok _
      cursorTable := by
        rw [CursorSettings.quotedTable, TableNaming.table_valid valid]
        exact blamesNoTopic_ok _
      request := Request.statements_blamesNoTopic valid log cursors
      publish := log.publish_blamesNoTopic valid
      setUpMessages := log.publisher_setUp_blamesNoTopic valid
      setUp := log.subscriber_setUp_blamesNoTopic valid cursors
      built := log.pollScript_blamesNoTopic valid cursors
      script := fun settings script made journal result goes =>
        (log.pollScript_ends valid cursors settings made).goes goes result rfl
      poll := log.poll_blamesNoTopic valid cursors
      run := by
        intro settings σ handler count state storage
        have left := amid settings handler .present state storage
          ((Subscriber.occasions count).map (·, id))
        rw [Subscriber.stepsAmid_alone] at left
        refine ⟨fun result ran => ?_, left.forwarded⟩
        simp only [Subscriber.run] at ran
        split at ran
        · rename_i ended
          have holds := left.phase
          rw [ended] at holds
          cases ran
          exact holds
        · cases ran
      amid }

/-- A text that is empty or has a character that topics have not is refused by everything that takes a
topic, before a name is asked for and with nothing done; no other text is refused as a topic. -/
theorem malformed_refused (log : MessageSettings) (cursors : CursorSettings) (topic : String) :
    (∀ request : Request, (request.asked log cursors topic).1 =
      request.statements log.layout cursors.layout topic) ∧
    (Malformed topic → Rejects log cursors topic) ∧
    (¬ Malformed topic → Accepts log cursors topic) := by
  refine ⟨fun request => request.asked_statements log cursors topic, ?_, ?_⟩
  · intro malformed
    exact rejects_invalid (malformed_iff.mp malformed) log cursors
  · intro well
    rw [malformed_iff, Bool.not_eq_false] at well
    exact accepts_valid well log cursors

/-- A letter with an accent is refused, and a name of letters, digits and signs is not. -/
theorem accent_refused :
    let log : MessageSettings := { dialect := .sqlite }
    let cursors : CursorSettings := { dialect := .mysql }
    Malformed "cafés" ∧ Rejects log cursors "cafés" ∧
      ¬ Malformed "Orders-1.v:2_$" ∧ Accepts log cursors "Orders-1.v:2_$" := by
  intro log cursors
  have malformed : Malformed "cafés" := malformed_iff.mpr (by decide +kernel)
  have well : ¬ Malformed "Orders-1.v:2_$" := malformed_iff.not.mpr (by decide +kernel)
  exact ⟨malformed, (malformed_refused log cursors _).2.1 malformed,
    well, (malformed_refused log cursors _).2.2 well⟩

end TopicLog
