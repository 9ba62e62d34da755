import TopicLog.Session
import TopicLog.Subscriber.Run
import TopicLog.Text.Decimal
import TopicLog.Proofs.Agreement
import TopicLog.Proofs.FaultNames

/-!
Which failures are conflicts. A report of the database is told from others by its code or by its text,
which repeats names of tables. Where no name of a topic's tables reads like a conflict, the failures of
the operations on the topic are conflicts exactly if a lock was lost.
-/
namespace TopicLog

def Failure.report? : Failure → Option DatabaseError
  | .conflict (.database error) | .database (.database error) => some error
  | _ => none

def DatabaseError.primaryCode? (error : DatabaseError) : Option Nat :=
  error.code.map fun code => Decimal.value code.toList % 256

def DatabaseError.IsLock (error : DatabaseError) : Prop :=
  error.primaryCode? = some 5 ∨ error.primaryCode? = some 6

/-- A failure that is a conflict exactly if what was reported is the loss of a lock. The failure of a
set-up is judged by what it is about. -/
def Failure.Classified : Failure → Prop
  | .schema _ failure => failure.Classified
  | failure =>
      failure.isConflict = true ↔ ∃ error, failure.report? = some error ∧ error.IsLock

theorem Failure.Classified.kept {failure : Failure} (classified : failure.Classified)
    (other : ∀ error, failure.report? = some error → ¬ error.IsLock) :
    failure.isConflict = false := by
  cases failure with
  | conflict cause =>
      obtain ⟨error, reported, lock⟩ := classified.mp rfl
      exact absurd lock (other error reported)
  | _ => rfl

theorem Fault.primaryCode (fault : Fault) :
    DatabaseError.primaryCode? ⟨some (toString fault.code), fault.text⟩ =
      some (fault.code % 256) := by
  have all : ∀ code ∈ Fault.codes, Decimal.value (toString code).toList = code := by decide +kernel
  simp only [DatabaseError.primaryCode?, Option.map_some, all fault.code fault.code_mem]

theorem Fault.isLock_iff (fault : Fault) :
    DatabaseError.IsLock ⟨some (toString fault.code), fault.text⟩ ↔ fault.isLock = true := by
  unfold DatabaseError.IsLock
  rw [fault.primaryCode]
  simp [Fault.isLock]

theorem Failure.report_ofFault (fault : Fault) :
    (Failure.ofFault fault).report? = some ⟨some (toString fault.code), fault.text⟩ := by
  unfold Failure.ofFault Failure.ofCause
  split <;> rfl

/-- A report is told rightly if it is that of a lost lock, or if no name in it reads like a conflict. -/
theorem Failure.classified_ofFault {fault : Fault}
    (plain : fault.isLock = true ∨ ∀ name ∈ fault.names, tellsConflict name = false) :
    (Failure.ofFault fault).Classified := by
  have told : (Failure.ofFault fault).isConflict = true ↔ fault.isLock = true := by
    rw [Failure.ofFault_isConflict]
    rcases plain with lock | plain
    · simp [lock]
    · have none : fault.names.any tellsConflict = false := by simpa using plain
      rw [none, Bool.or_false]
  -- Which of the two kinds of failure it became makes no difference to what is to be shown.
  have classified : (Failure.ofFault fault).isConflict = true ↔
      ∃ error, (Failure.ofFault fault).report? = some error ∧ error.IsLock := by
    rw [told, Failure.report_ofFault, ← fault.isLock_iff]
    simp
  revert classified
  unfold Failure.ofFault Failure.ofCause
  split <;> exact id

/-! Scripts. -/

/-- An answer that a command may get in a storage that is reached. -/
def Command.Gets (command : Command) (answer : Except Fault Effect) : Prop :=
  ∃ storage handle, Storage.Reached storage ∧ (storage.execute handle command).1 = answer

/-- A command whose reports are told rightly. -/
def Command.Told (command : Command) : Prop :=
  ∀ fault, command.Gets (.error fault) → (Failure.ofFault fault).Classified

def Happening.IsAnswered : Happening → Prop
  | .executed command answer => command.Gets answer
  | _ => True

def Journal.Answered (journal : Journal) : Prop :=
  ∀ happening ∈ journal, happening.IsAnswered

namespace Script

variable {α σ : Type}

theorem journal_answered (handler : Handler σ) (handle : Handle) (script : Script α) (state : σ)
    {storage : Storage} (reached : storage.Reached) :
    (script.journal handler handle state storage : Journal).Answered := by
  induction script generalizing state storage with
  | done result => simp [Script.journal, Journal.Answered]
  | execute command next ih =>
      have later := ih (storage.execute handle command).1 state (reached.execute handle command)
      exact List.forall_mem_cons.mpr ⟨⟨storage, handle, reached, rfl⟩, later⟩
  | hand delivery next ih =>
      cases judged : handler delivery state with
      | mk verdict after =>
          cases verdict with
          | none => simp [Script.journal, judged, Journal.Answered, Happening.IsAnswered]
          | some verdict =>
              simp only [Script.journal, judged]
              exact List.forall_mem_cons.mpr ⟨trivial, ih verdict after reached⟩
  | commit next ih =>
      exact List.forall_mem_cons.mpr ⟨trivial, ih state (reached.commit handle)⟩
  | rollback next ih =>
      exact List.forall_mem_cons.mpr ⟨trivial, ih state (reached.rollback handle)⟩

/-- A script whose failures are classified, whatever answers it gets. -/
def FailsWell : Script (Except Failure α) → Prop
  | .done (.ok _) => True
  | .done (.error failure) => failure.Classified
  | .execute command next => ∀ answer, command.Gets answer → (next answer).FailsWell
  | .hand _ next => ∀ verdict, (next verdict).FailsWell
  | .commit next | .rollback next => next.FailsWell

theorem FailsWell.goes {script : Script (Except Failure α)} (well : script.FailsWell)
    {journal : Journal} {result : Option (Except Failure α)} (goes : script.Goes journal result)
    (answered : journal.Answered) :
    ∀ failure, result = some (.error failure) → failure.Classified := by
  -- Each step of the way is one entry of the journal, and the script after it still fails well.
  induction goes with
  | done result =>
      rintro failure ⟨⟩
      exact well
  | execute later ih =>
      obtain ⟨gets, rest⟩ := List.forall_mem_cons.mp answered
      exact ih (well _ gets) rest
  | hand later ih => exact ih (well _) (List.forall_mem_cons.mp answered).2
  | hang delivery next => simp
  | commit later ih => exact ih well (List.forall_mem_cons.mp answered).2
  | rollback later ih => exact ih well (List.forall_mem_cons.mp answered).2

theorem statement_failsWell {statement : Statement} {next : Effect → Script (Except Failure α)}
    (told : (Command.run statement.action).Told) (later : ∀ effect, (next effect).FailsWell) :
    (Script.statement statement next).FailsWell := by
  intro answer gets
  cases answer with
  | error fault => exact told fault gets
  | ok effect => exact later effect

theorem require_failsWell {β : Type} {wanted : Except Failure β}
    {next : β → Script (Except Failure α)}
    (told : ∀ failure, wanted = .error failure → failure.Classified)
    (later : ∀ value, wanted = .ok value → (next value).FailsWell) :
    (Script.require wanted next).FailsWell := by
  cases wanted with
  | error failure => exact told failure rfl
  | ok value => exact later value rfl

theorem all_failsWell {statements : List Statement}
    (told : ∀ statement ∈ statements, (Command.run statement.action).Told) :
    (Script.all statements).FailsWell := by
  induction statements with
  | nil => trivial
  | cons first rest ih =>
      obtain ⟨here, later⟩ := List.forall_mem_cons.mp told
      exact statement_failsWell here fun _ => ih later

end Script

/-! Failures that nothing reported. -/

structure Failure.Unreported (failure : Failure) : Prop where
  kept : failure.isConflict = false
  report : failure.report? = none
  bare : ∀ topic inner, failure ≠ .schema topic inner

theorem Failure.Unreported.classified {failure : Failure} (unreported : failure.Unreported) :
    failure.Classified := by
  have nothing := unreported.report
  have kept := unreported.kept
  cases failure with
  | schema topic inner => exact absurd rfl (unreported.bare topic inner)
  | _ => simp [Classified, nothing, kept]

theorem ofTopic_unreported {α : Type} {topic : String} {made : Except Failure α} {value : α}
    {failure : Failure} (same : made = ofTopic topic value) (failed : made = .error failure) :
    failure.Unreported := by
  rw [same] at failed
  unfold ofTopic at failed
  split at failed
  · cases failed
  · cases failed
    exact ⟨rfl, rfl, by simp⟩

theorem map_failed {α β : Type} {result : Except Failure α} {read : α → β}
    {failure : Failure} (failed : result.map read = .error failure) : result = .error failure := by
  cases result with
  | error other =>
      cases failed
      rfl
  | ok value => cases failed

theorem Failure.scan_unreported (index : Nat) (cause : Cause) :
    (Failure.scan index cause).Unreported := ⟨rfl, rfl, by simp⟩

theorem Row.delivery_unreported {columns : List Value} {codec : Codec} {failure : Failure}
    (failed : (Row.ofColumns columns).delivery codec = .error failure) : failure.Unreported := by
  rcases Row.failed_delivery failed with ⟨index, cause, rfl⟩ | ⟨offset, -, reason, cause, rfl⟩
  · exact Failure.scan_unreported index cause
  · exact ⟨rfl, rfl, by simp⟩

theorem Script.scalar_unreported {effect : Effect} {failure : Failure}
    (failed : Script.scalar effect = .error failure) : failure.Unreported := by
  obtain ⟨cause, rfl⟩ := (Row.failed_column _ _).1 _ failed
  exact Failure.scan_unreported 0 cause

/-! Operations. -/

section Operations

variable {names : Names} {topic : String}

/-- Names that read like no conflict. -/
structure Names.Plain (names : Names) (topic : String) : Prop where
  messages : tellsConflict (names.messageTable topic) = false
  cursors : tellsConflict (names.cursorTable topic) = false

theorem Names.Plain.told (plain : names.Plain topic) {action : Action}
    (uses : names.Uses topic action) : (Command.run action).Told := by
  rintro fault ⟨storage, handle, reached, failed⟩
  apply Failure.classified_ofFault
  rcases Storage.execute_fault failed with rfl | rfl | answered
  · exact .inl (by decide)
  · exact .inl (by decide)
  · right
    intro name member
    have mentions := uses.mentions (reached.arranged.view handle) answered name member
    simp only [List.mem_cons, List.not_mem_nil, or_false] at mentions
    rcases mentions with rfl | rfl | rfl | rfl
    · exact plain.messages
    · exact plain.cursors
    · decide +kernel
    · decide +kernel

theorem Names.Plain.runs (plain : names.Plain topic) (member : Member) :
    (names.subscriber member).Runs topic Command.Told := by
  apply names.runs member topic
  · exact plain.told rfl
  · intro limit
    exact plain.told ⟨rfl, rfl⟩
  · intro offset
    exact plain.told rfl
  · intro offset
    exact plain.told rfl

theorem Names.Plain.deliver_failsWell (plain : names.Plain topic) (member : Member)
    (rows : List (List Value)) (count : Nat) :
    ((names.subscriber member).deliver topic rows count).FailsWell := by
  have told := plain.runs member
  induction rows generalizing count with
  | nil => trivial
  | cons columns rest ih =>
      unfold Subscriber.deliver
      cases decoded : (names.subscriber member).layout.decode (.ofColumns columns) with
      | error failure => exact (Row.delivery_unreported decoded).classified
      | ok delivery =>
          apply Script.require_failsWell
          · intro failure failed
            exact (ofTopic_unreported (names.cursors_mark topic _ delivery) failed).classified
          intro mark marks
          refine Script.statement_failsWell (told.mark delivery mark marks) fun _ verdict => ?_
          cases verdict with
          | refused text => exact Failure.Unreported.classified ⟨rfl, rfl, by simp⟩
          | accepted =>
              have same := names.cursors_acknowledge topic member.settings.group delivery
              apply Script.require_failsWell
              · intro failure failed
                exact (ofTopic_unreported same failed).classified
              · intro statement built
                exact Script.statement_failsWell (told.acknowledge delivery statement built)
                  fun _ => ih (count + 1)

theorem Names.Plain.poll_failsWell (plain : names.Plain topic) {member : Member}
    {script : Script (Except Failure Nat)}
    (built : (names.subscriber member).pollScript? topic = .ok script) : script.FailsWell := by
  have told := plain.runs member
  obtain ⟨claim, fetch, claims, fetches, rfl⟩ := Subscriber.pollScript_built built
  refine Script.statement_failsWell (told.claim claim claims) fun claimed => ?_
  apply Script.require_failsWell
  · intro failure failed
    exact (Script.scalar_unreported failed).classified
  · intro _ _
    exact Script.statement_failsWell (told.fetch fetch fetches) fun fetched =>
      plain.deliver_failsWell member fetched.rows 0

structure Session.Usual (session : Session) (names : Names) : Prop where
  layout : ∃ batchSize codec, session.layout = names.layout batchSize codec
  cursors : session.cursors = names.cursorLayout
  publisher : ∃ batchSize codec, session.publisher.layout = names.layout batchSize codec
  reached : session.storage.Reached

section Session

variable {session : Session} {name : Option String} {group : String} {failure : Failure}

theorem Session.command_classified (plain : names.Plain topic) (reached : session.storage.Reached)
    {action : Action} (uses : names.Uses topic action)
    (failed : (session.command name (.run action)).1 = .error failure) : failure.Classified := by
  have mapped {result : Except Fault Effect}
      (failed : result.mapError Failure.ofFault = .error failure) :
      ∃ fault, result = .error fault ∧ failure = .ofFault fault := by
    cases result with
    | error fault => exact ⟨fault, rfl, (Except.error.inj failed).symm⟩
    | ok effect => cases failed
  obtain ⟨fault, faulted, rfl⟩ := mapped failed
  split at faulted
  · exact plain.told uses fault ⟨_, _, reached, faulted⟩
  · rw [Storage.autocommit_answer] at faulted
    exact plain.told uses fault ⟨_, _, reached.begin, faulted⟩

theorem Session.attempt_classified (plain : names.Plain topic) (reached : session.storage.Reached)
    {built : Except Failure Statement} {statement : Statement}
    (same : built = ofTopic topic statement) (uses : names.Uses topic statement.action)
    (failed : (session.attempt name (Session.statement built)).1 = .error failure) :
    failure.Classified := by
  cases made : built with
  | error other =>
      rw [made] at failed
      cases failed
      exact (ofTopic_unreported same made).classified
  | ok value =>
      obtain rfl := ofTopic_built same made
      rw [made] at failed
      exact Session.command_classified plain reached uses failed

theorem Session.Usual.claim (usual : session.Usual names) (plain : names.Plain topic)
    (failed : (session.claim name topic group).1 = .error failure) : failure.Classified := by
  have same : (session.cursors.claim topic group).map Claim.statement =
      ofTopic topic ⟨.sqlite, .claim ⟨.sqlite, names.cursorTable topic, group⟩⟩ := by
    rw [usual.cursors, names.cursors_claim, ofTopic_map]
    rfl
  rcases failed_bind failed with failed | ⟨effect, -, failed⟩
  · exact Session.attempt_classified plain usual.reached same rfl failed
  · exact (Script.scalar_unreported failed).classified

theorem Session.Usual.fetch (usual : session.Usual names) (plain : names.Plain topic)
    (failed : (session.fetch name topic group).1 = .error failure) : failure.Classified := by
  obtain ⟨batchSize, codec, layout⟩ := usual.layout
  have same := names.layout_fetch topic group batchSize codec
  rw [← layout, ← usual.cursors] at same
  exact Session.attempt_classified plain usual.reached same ⟨rfl, rfl⟩ (map_failed failed)

theorem Session.Usual.write (usual : session.Usual names) (plain : names.Plain topic)
    {upsert : Upsert} (failed : (session.write name topic upsert).1 = .error failure) :
    failure.Classified := by
  rw [Session.write_usual usual.cursors] at failed
  have uses : names.Uses topic (upsert.action (names.cursorTable topic)) := by
    cases upsert <;> rfl
  exact Session.attempt_classified plain usual.reached rfl uses (map_failed failed)

end Session

/-! Publishing. -/

section Publish

variable {storage : Storage} {publisher : Publisher} {messages : List Message} {failure : Failure}

theorem Storage.perform_classified (plain : names.Plain topic) (reached : storage.Reached)
    {statements : List Statement}
    (uses : ∀ statement ∈ statements, names.Uses topic statement.action)
    (failed : (storage.perform (Script.all statements)).1 = some (.error failure)) :
    failure.Classified := by
  have well : (Script.all statements).FailsWell :=
    Script.all_failsWell fun statement member => plain.told (uses statement member)
  have goes := Script.journal_goes (fun _ _ => (none, ())) storage.begin.1 (Script.all statements) ()
    storage.begin.2
  have answered := Script.journal_answered (fun _ _ => (none, ())) storage.begin.1
    (Script.all statements) () reached.begin
  exact well.goes goes answered failure failed

theorem Storage.setUp_classified (plain : names.Plain topic) (reached : storage.Reached)
    {statements : Except Failure (List Statement)} {list : List Statement}
    (same : statements = ofTopic topic list)
    (uses : ∀ statement ∈ list, names.Uses topic statement.action)
    (failed : (storage.setUp topic statements).1 = .error failure) : failure.Classified := by
  cases made : statements with
  | error other =>
      rw [made] at failed
      cases failed
      exact (ofTopic_unreported same made).classified
  | ok value =>
      obtain rfl := ofTopic_built same made
      rw [made, Storage.setUp_performed] at failed
      cases performed : (storage.perform (Script.all list)).1 with
      | none => simp [performed, Storage.readiness] at failed
      | some result =>
          cases result with
          | ok done => simp [performed, Storage.readiness] at failed
          | error inner =>
              rw [performed] at failed
              cases failed
              have inside : inner.Classified :=
                Storage.perform_classified plain reached uses performed
              exact inside

theorem Publisher.setUp_classified (plain : names.Plain topic) (reached : storage.Reached)
    (layout : ∃ batchSize codec, publisher.layout = names.layout batchSize codec)
    (failed : (publisher.setUp topic storage).1 = .error failure) : failure.Classified := by
  obtain ⟨batchSize, codec, layout⟩ := layout
  have same := names.layout_setup topic batchSize codec
  rw [← layout] at same
  exact Storage.setUp_classified plain reached same (by simp [Names.Uses]) failed

theorem Publisher.ensureInitialized_classified (plain : names.Plain topic)
    (reached : storage.Reached)
    (layout : ∃ batchSize codec, publisher.layout = names.layout batchSize codec)
    (failed : (publisher.ensureInitialized topic storage).1 = .error failure) :
    failure.Classified := by
  unfold ensureInitialized at failed
  split at failed
  · cases failed
  · split at failed
    · cases failed
    · rename_i ran
      cases failed
      exact setUp_classified plain reached layout (congrArg Prod.fst ran)

theorem Codec.records_unreported {codec : Codec}
    (failed : codec.records messages = .error failure) : failure.Unreported := by
  induction messages with
  | nil => cases failed
  | cons message rest ih =>
      rcases failed_bind failed with failed | ⟨record, -, failed⟩
      · unfold Codec.record at failed
        split at failed
        · cases failed
        · cases failed
          exact ⟨rfl, rfl, by simp⟩
      rcases failed_bind failed with failed | ⟨records, -, failed⟩
      · exact ih failed
      · cases failed

theorem Names.append_unreported {batchSize : Nat} {codec : Codec}
    (failed : (names.layout batchSize codec).append topic messages = .error failure) :
    failure.Unreported := by
  simp only [layout, MessageSettings.layout, MessageSettings.append_eq] at failed
  rcases failed_bind failed with failed | ⟨table, -, failed⟩
  · exact ofTopic_unreported (names.messages_table topic) failed
  cases empty : messages.isEmpty with
  | true =>
      simp only [empty] at failed
      cases failed
      exact ⟨rfl, rfl, by simp⟩
  | false =>
      simp only [empty] at failed
      rcases failed_bind failed with failed | ⟨records, -, failed⟩
      · exact Codec.records_unreported failed
      · cases failed

theorem Publisher.append_classified (plain : names.Plain topic) (reached : storage.Reached)
    (layout : ∃ batchSize codec, publisher.layout = names.layout batchSize codec)
    (failed : (publisher.append topic messages storage).1 = .error failure) :
    failure.Classified := by
  obtain ⟨batchSize, codec, layout⟩ := layout
  unfold append at failed
  rw [layout] at failed
  cases built : (names.layout batchSize codec).append topic messages with
  | error other =>
      rw [built] at failed
      cases failed
      exact (Names.append_unreported built).classified
  | ok statement =>
      obtain ⟨records, -, rfl⟩ := Names.layout_append built
      rw [built] at failed
      dsimp only at failed
      split at failed
      · cases failed
      · rename_i fault _ ran
        cases failed
        have faulted := congrArg Prod.fst ran
        rw [Storage.autocommit_answer] at faulted
        have uses : names.Uses topic (.append (names.messageTable topic) records) := rfl
        exact plain.told uses fault ⟨_, _, reached.begin, faulted⟩

theorem Publisher.publish_classified (plain : names.Plain topic) (reached : storage.Reached)
    (layout : ∃ batchSize codec, publisher.layout = names.layout batchSize codec)
    (failed : (publisher.publish topic messages storage).1 = .error failure) :
    failure.Classified := by
  revert failed
  unfold publish
  cases valid : validateTopic topic with
  | error other =>
      have same : validateTopic topic = ofTopic topic () := rfl
      rintro ⟨⟩
      exact (ofTopic_unreported same valid).classified
  | ok done =>
      cases messages.isEmpty with
      | true => simp
      | false =>
          simp only [Bool.false_eq_true, ↓reduceIte]
          cases publisher.settings.autoInitialize with
          | false => exact append_classified plain reached layout
          | true =>
              have kept := publisher.ensureInitialized_layout topic storage
              have between := reached.ensureInitialized publisher topic
              simp only [↓reduceIte]
              rcases ensured : publisher.ensureInitialized topic storage with ⟨result, next, middle⟩
              rw [ensured] at kept between
              cases result with
              | error other =>
                  rintro ⟨⟩
                  exact ensureInitialized_classified plain reached layout (congrArg Prod.fst ensured)
              | ok done => exact append_classified plain between (kept ▸ layout)

end Publish

end Operations

end TopicLog
