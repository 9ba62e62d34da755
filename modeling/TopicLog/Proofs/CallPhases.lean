import TopicLog.Proofs.MissingTables
import TopicLog.Proofs.PublisherCalls

/-!
What is true of a call of a publisher between its steps, and what each step and the steps of others do to
it. Until its set-up is committed a call has changed nothing; from then on its table is there and its topic
is remembered, so that a batch never misses the table that it is appended to.
-/
namespace TopicLog

/-! What is true of a call. -/

def Journal.created (journal : Journal) : List String :=
  journal.filterMap fun
    | .executed (.run (.createLog table)) _ => some table
    | _ => none

/-- Whether a task takes the statements that set its topic up. -/
def Task.setsUp (known : List String) : Task → Bool
  | .publish topic messages => isTopic topic && !messages.isEmpty && !known.contains topic
  | .setUp topic => isTopic topic

namespace Call

def table (names : Names) (call : Call) : String := names.messageTable call.task.topic

def creations (names : Names) (call : Call) : List String :=
  if call.task.setsUp call.before then [call.table names] else []

/-- A call adds no topic to those that are known but the one that it publishes to. -/
def Gains (call : Call) : Prop :=
  call.after = call.before ∨
    ∃ topic messages, call.task = .publish topic messages ∧ call.after = topic :: call.before

/-- How far the set-up of a call has come. -/
inductive SettingUp (names : Names) (storage : Storage) (call : Call) (handle : Handle) :
    Script (Except Failure Unit) → Prop
  | opened (idle : storage.held? handle = some .idle) (none : call.journal.created = []) :
      SettingUp names storage call handle (Script.all [⟨.sqlite, .createLog (call.table names)⟩])
  | made (has : (storage.commit handle).committed.has (call.table names) = true)
      (created : call.journal.created = [call.table names]) :
      SettingUp names storage call handle (.commit (.done (.ok ())))
  | refused {fault : Fault} (found : fault.isMissing = false)
      (created : call.journal.created = [call.table names]) :
      SettingUp names storage call handle (.rollback (.done (.error (.ofFault fault))))

/-- What is true when the topic of a call is set up. -/
structure Prepared (names : Names) (storage : Storage) (call : Call) : Prop where
  valid : isTopic call.task.topic = true
  has : storage.committed.has (call.table names) = true
  created : call.journal.created = call.creations names
  gains : call.Gains
  listed : ∀ topic messages, call.task = .publish topic messages →
    messages ≠ [] ∧ topic ∈ call.after

inductive Appending (names : Names) (storage : Storage) (call : Call) (handle : Handle) :
    Script (Except Failure Unit) → Prop
  | opened (idle : storage.held? handle = some .idle) (records : List Record) :
      Appending names storage call handle
        (Script.all [⟨.sqlite, .append (call.table names) records⟩])
  | made : Appending names storage call handle (.commit (.done (.ok ())))
  | refused {fault : Fault} (found : fault.isMissing = false) :
      Appending names storage call handle (.rollback (.done (.error (.ofFault fault))))
  | done : Appending names storage call handle (.done (.ok ()))
  | failed {fault : Fault} (found : fault.isMissing = false) :
      Appending names storage call handle (.done (.error (.ofFault fault)))

structure Finished (names : Names) (call : Call) (result : Except Failure Unit) : Prop where
  created : call.journal.created = call.creations names
  gains : call.Gains
  failed : ∀ topic failure, result = .error (.schema topic failure) →
    call.after = call.before ∧ call.wrote = false ∧ ∀ other messages,
      call.task = .publish other messages → isTopic other = true ∧ other ∉ call.before
  passed : ∀ topic messages, call.task = .publish topic messages → isTopic topic = true →
    messages ≠ [] → (∀ other failure, result ≠ .error (.schema other failure)) → topic ∈ call.after
  found : ∀ failure, result = .error failure → ¬ failure.MissesTable

/-- What is true of a call in each phase. -/
inductive Stands (names : Names) (storage : Storage) (call : Call) : Phase → Prop
  | settingUp {handle : Handle} {script : Script (Except Failure Unit)}
      (given : handle < storage.fresh) (needed : call.task.setsUp call.before = true)
      (unchanged : call.after = call.before) (unwritten : call.wrote = false)
      (stage : call.SettingUp names storage handle script) :
      Stands names storage call (.inside .setUp handle script)
  | settled {handle : Handle} (needed : call.task.setsUp call.before = true)
      (unchanged : call.after = call.before)
      (has : storage.committed.has (call.table names) = true)
      (created : call.journal.created = [call.table names]) :
      Stands names storage call (.inside .setUp handle (.done (.ok ())))
  | unsettled {handle : Handle} {fault : Fault} (needed : call.task.setsUp call.before = true)
      (unchanged : call.after = call.before) (unwritten : call.wrote = false)
      (found : fault.isMissing = false) (created : call.journal.created = [call.table names]) :
      Stands names storage call (.inside .setUp handle (.done (.error (.ofFault fault))))
  | ready (prepared : call.Prepared names storage) : Stands names storage call .ready
  | appending {handle : Handle} {script : Script (Except Failure Unit)}
      (given : handle < storage.fresh) (prepared : call.Prepared names storage)
      (stage : call.Appending names storage handle script) :
      Stands names storage call (.inside .append handle script)
  | ended {result : Except Failure Unit} (finished : call.Finished names result) :
      Stands names storage call (.ended result)

end Call

theorem Task.setsUp_publish {known : List String} {topic : String} {messages : List Message}
    (needed : (Task.publish topic messages).setsUp known = true) :
    messages ≠ [] ∧ topic ∉ known := by
  simp only [Task.setsUp, Bool.and_eq_true, Bool.not_eq_true'] at needed
  exact ⟨by simpa using needed.1.2, by simpa using needed.2⟩

/-- A publisher of the usual layout that sets topics up by itself, and knows topics that have their
tables. -/
structure Publisher.Knows (names : Names) (batchSize : Nat) (codec : Codec) (publisher : Publisher)
    (database : Database) : Prop where
  layout : publisher.layout = names.layout batchSize codec
  auto : publisher.settings.autoInitialize = true
  known : ∀ topic ∈ publisher.initialized,
    isTopic topic = true ∧ database.has (names.messageTable topic) = true

section Steps

variable {names : Names} {batchSize : Nat} {codec : Codec} {publisher : Publisher}
  {storage after : Storage} {call : Call} {handle : Handle} {script : Script (Except Failure Unit)}

theorem Publisher.Knows.later {before after : Database}
    (knows : publisher.Knows names batchSize codec before) (covers : after.Covers before) :
    publisher.Knows names batchSize codec after where
  layout := knows.layout
  auto := knows.auto
  known topic member := ⟨(knows.known topic member).1, covers _ (knows.known topic member).2⟩

@[simp]
theorem Journal.created_append (before after : Journal) :
    (before ++ after : Journal).created = before.created ++ after.created := List.filterMap_append

theorem Task.setsUp_valid {known : List String} {task : Task} (needed : task.setsUp known = true) :
    isTopic task.topic = true := by
  cases task with
  | publish topic messages =>
      simp only [Task.setsUp, Bool.and_eq_true] at needed
      exact needed.1.1
  | setUp topic => exact needed

theorem Call.next_wrote {next : Advance} (call : Call)
    (same : next.storage.committed = storage.committed) :
    (call.next storage next).wrote = call.wrote := by
  simp [Call.next, same]

theorem Call.next_created {next : Advance} (call : Call) (silent : next.journal.created = []) :
    (call.next storage next).journal.created = call.journal.created := by
  rw [Call.next, Journal.created_append, silent, List.append_nil]

def Script.ending : Except Fault Effect → Script (Except Failure Unit)
  | .ok _ => .commit (.done (.ok ()))
  | .error fault => .rollback (.done (.error (.ofFault fault)))

theorem Call.Phase.advance_single (publisher : Publisher) (storage : Storage) (task : Task)
    (purpose : Purpose) (handle : Handle) (statement : Statement) :
    let ran := storage.execute handle (.run statement.action)
    Phase.advance publisher storage task (.inside purpose handle (Script.all [statement])) =
      { phase := .inside purpose handle (Script.ending ran.1)
        publisher
        storage := ran.2
        journal := [.executed (.run statement.action) ran.1] } := by
  simp only [Script.all, Script.statement, Phase.advance, Script.advance]
  cases (storage.execute handle (.run statement.action)).1 <;> rfl

structure Call.Steps (names : Names) (batchSize : Nat) (codec : Codec) (call : Call)
    (storage : Storage) (next : Advance) : Prop where
  knows : next.publisher.Knows names batchSize codec next.storage.committed
  lasts : Storage.Lasts storage next.storage
  stands : (call.next storage next).Stands names next.storage next.phase

theorem Call.SettingUp.steps (knows : publisher.Knows names batchSize codec storage.committed)
    (lasting : storage.Lasting) (same : call.after = publisher.initialized)
    (given : handle < storage.fresh) (needed : call.task.setsUp call.before = true)
    (unchanged : call.after = call.before) (unwritten : call.wrote = false)
    (stage : call.SettingUp names storage handle script) :
    call.Steps names batchSize codec storage
      (Phase.advance publisher storage call.task (.inside .setUp handle script)) := by
  have still : publisher.initialized = call.before := same.symm.trans unchanged
  cases stage with
  | opened idle none =>
      rw [Phase.advance_single]
      have frame := storage.execute_frame handle (.run (.createLog (call.table names)))
      have lasts := lasting.lasts_execute handle
        (rfl : (Command.run (.createLog (call.table names))).drops = false)
      refine ⟨knows.later lasts.covers, lasts, .settingUp ?_ needed still ?_ ?_⟩
      · exact Nat.lt_of_lt_of_eq given frame.2.2.2.symm
      · exact (call.next_wrote frame.1).trans unwritten
      · have created (answer : Except Fault Effect) : Journal.created (call.journal ++
            [.executed (.run (.createLog (call.table names))) answer]) = [call.table names] := by
          rw [Journal.created_append, none]
          rfl
        -- Nothing is committed yet: of the table it is known that a commit would leave it there.
        cases answer : (storage.execute handle (.run (.createLog (call.table names)))).1 with
        | ok effect => exact .made (Storage.create_commits idle answer) (created _)
        | error fault =>
            have found := Storage.execute_found idle (fun _ => Database.create_found) answer
            exact .refused found (created _)
  | made has created =>
      have lasts := lasting.lasts_commit handle
      exact ⟨knows.later lasts.covers, lasts,
        .settled needed still has ((call.next_created rfl).trans created)⟩
  | refused found created =>
      have frame := storage.rollback_frame handle
      have lasts := lasting.lasts_rollback handle
      exact ⟨knows.later lasts.covers, lasts, .unsettled needed still
        ((call.next_wrote frame.1).trans unwritten) found ((call.next_created rfl).trans created)⟩

theorem Call.creations_needed (needed : call.task.setsUp call.before = true) :
    call.creations names = [call.table names] := if_pos needed

theorem Call.Prepared.next {next : Advance} (prepared : call.Prepared names storage)
    (lasts : Storage.Lasts storage next.storage) (same : call.after = next.publisher.initialized)
    (silent : next.journal.created = []) : (call.next storage next).Prepared names next.storage where
  valid := prepared.valid
  has := lasts.covers _ prepared.has
  created := (call.next_created silent).trans prepared.created
  gains := prepared.gains.imp same.symm.trans fun ⟨topic, messages, published, gained⟩ =>
    ⟨topic, messages, published, same.symm.trans gained⟩
  listed topic messages published := by
    have listed := prepared.listed topic messages published
    rw [same] at listed
    exact listed

theorem Call.Prepared.finished {result : Except Failure Unit} (prepared : call.Prepared names storage)
    (plain : ∀ topic failure, result ≠ .error (.schema topic failure))
    (found : ∀ failure, result = .error failure → ¬ failure.MissesTable) :
    call.Finished names result where
  created := prepared.created
  gains := prepared.gains
  failed topic failure failed := absurd failed (plain topic failure)
  passed topic messages published _ _ _ := (prepared.listed topic messages published).2
  found := found

theorem Call.Prepared.finished_fault {fault : Fault} (prepared : call.Prepared names storage)
    (found : fault.isMissing = false) : call.Finished names (.error (.ofFault fault)) := by
  apply prepared.finished
  · intro topic failure same
    exact Failure.ofFault_ne_schema _ _ _ (Except.error.inj same)
  · rintro _ ⟨⟩
    exact Failure.ofFault_found found

theorem Call.Finished.next {next : Advance} {result : Except Failure Unit}
    (finished : call.Finished names result) (same : call.after = next.publisher.initialized)
    (silent : next.journal.created = []) (unwritten : next.storage.committed = storage.committed) :
    (call.next storage next).Finished names result where
  created := (call.next_created silent).trans finished.created
  gains := finished.gains.imp same.symm.trans fun ⟨topic, messages, published, gained⟩ =>
    ⟨topic, messages, published, same.symm.trans gained⟩
  failed topic failure failed := by
    obtain ⟨still, none, unknown⟩ := finished.failed topic failure failed
    exact ⟨same.symm.trans still, (call.next_wrote unwritten).trans none, unknown⟩
  passed topic messages published valid nonempty plain := by
    have passed := finished.passed topic messages published valid nonempty plain
    rw [same] at passed
    exact passed
  found := finished.found

theorem Call.Appending.steps (knows : publisher.Knows names batchSize codec storage.committed)
    (lasting : storage.Lasting) (same : call.after = publisher.initialized)
    (given : handle < storage.fresh) (prepared : call.Prepared names storage)
    (stage : call.Appending names storage handle script) :
    call.Steps names batchSize codec storage
      (Phase.advance publisher storage call.task (.inside .append handle script)) := by
  cases stage with
  | opened idle records =>
      rw [Phase.advance_single]
      have fresh := (storage.execute_frame handle (.run (.append (call.table names) records))).2.2.2
      have lasts := lasting.lasts_execute handle
        (rfl : (Command.run (.append (call.table names) records)).drops = false)
      refine ⟨knows.later lasts.covers, lasts, .appending ?_ (prepared.next lasts same rfl) ?_⟩
      · exact Nat.lt_of_lt_of_eq given fresh.symm
      · cases answer : (storage.execute handle (.run (.append (call.table names) records))).1 with
        | ok effect => exact .made
        | error fault =>
            exact .refused (Storage.execute_found idle
              (fun _ => Database.append_found prepared.has) answer)
  | made =>
      have fresh := (storage.commit_frame handle).2.1
      have lasts := lasting.lasts_commit handle
      exact ⟨knows.later lasts.covers, lasts, .appending (Nat.lt_of_lt_of_eq given fresh.symm)
        (prepared.next lasts same rfl) .done⟩
  | refused found =>
      have fresh := (storage.rollback_frame handle).2.2.2.1
      have lasts := lasting.lasts_rollback handle
      exact ⟨knows.later lasts.covers, lasts, .appending (Nat.lt_of_lt_of_eq given fresh.symm)
        (prepared.next lasts same rfl) (.failed found)⟩
  | done =>
      have lasts := lasting.lasts
      exact ⟨knows, lasts, .ended ((prepared.next lasts same rfl).finished nofun nofun)⟩
  | failed found =>
      have lasts := lasting.lasts
      exact ⟨knows, lasts, .ended ((prepared.next lasts same rfl).finished_fault found)⟩

theorem Codec.records_failed {messages : List Message} {failure : Failure}
    (failed : codec.records messages = .error failure) :
    ∃ uuid cause, failure = .encoding uuid cause := by
  induction messages with
  | nil => cases failed
  | cons message rest ih =>
      simp only [Codec.records, Codec.record, bind, Except.bind, pure, Except.pure] at failed
      cases encoded : codec.encode message.metadata with
      | error cause =>
          simp only [encoded] at failed
          exact ⟨message.uuid, cause, (Except.error.inj failed).symm⟩
      | ok bytes =>
          simp only [encoded] at failed
          cases later : codec.records rest with
          | error other =>
              simp only [later] at failed
              exact ih (later.trans failed)
          | ok records =>
              simp only [later] at failed
              cases failed

theorem Names.append_failed {topic : String} {messages : List Message} {failure : Failure}
    (valid : isTopic topic = true) (nonempty : messages ≠ [])
    (failed : (names.layout batchSize codec).append topic messages = .error failure) :
    ∃ uuid cause, failure = .encoding uuid cause := by
  have some : messages.isEmpty = false := by simpa using nonempty
  simp only [layout, MessageSettings.layout, MessageSettings.append_eq, messages_table,
    ofTopic_valid valid, bind, Except.bind, pure, Except.pure, some, Bool.false_eq_true,
    ↓reduceIte] at failed
  cases encoded : codec.records messages with
  | error other =>
      simp only [encoded] at failed
      cases failed
      exact Codec.records_failed encoded
  | ok records =>
      simp only [encoded] at failed
      cases failed

theorem Publisher.Knows.remember (knows : publisher.Knows names batchSize codec storage.committed)
    (valid : isTopic call.task.topic = true)
    (has : storage.committed.has (call.table names) = true) :
    (publisher.remember call.task).Knows names batchSize codec storage.committed := by
  cases call with
  | mk task =>
      cases task with
      | setUp topic => exact knows
      | publish topic messages =>
          refine ⟨knows.layout, knows.auto, fun other member => ?_⟩
          rcases List.mem_cons.mp member with rfl | old
          · exact ⟨valid, has⟩
          · exact knows.known other old

theorem Call.settled_prepared (needed : call.task.setsUp call.before = true)
    (still : publisher.initialized = call.before)
    (has : storage.committed.has (call.table names) = true)
    (created : call.journal.created = [call.table names]) :
    (call.next storage ⟨.ready, publisher.remember call.task, storage, []⟩).Prepared names storage where
  valid := Task.setsUp_valid needed
  has := has
  created := (call.next_created rfl).trans (created.trans (creations_needed needed).symm)
  gains := by
    cases task : call.task with
    | setUp topic => exact .inl still
    | publish topic messages => exact .inr ⟨topic, messages, task, congrArg (topic :: ·) still⟩
  listed topic messages published := by
    have published : call.task = .publish topic messages := published
    rw [published] at needed ⊢
    exact ⟨(Task.setsUp_publish needed).1, List.mem_cons_self⟩

theorem Call.Prepared.append {topic : String} {messages : List Message}
    (knows : publisher.Knows names batchSize codec storage.committed) (lasting : storage.Lasting)
    (same : call.after = publisher.initialized) (task : call.task = .publish topic messages)
    (prepared : call.Prepared names storage) :
    let opened := publisher.openAppend storage topic messages
    call.Steps names batchSize codec storage ⟨opened.1, publisher, opened.2, []⟩ := by
  have valid := prepared.valid
  rw [task] at valid
  have nonempty := (prepared.listed topic messages task).1
  unfold Publisher.openAppend
  rw [knows.layout]
  cases built : (names.layout batchSize codec).append topic messages with
  | error failure =>
      obtain ⟨uuid, cause, rfl⟩ := Names.append_failed valid nonempty built
      have lasts := lasting.lasts
      refine ⟨knows, lasts, .ended ((prepared.next lasts same rfl).finished nofun ?_)⟩
      rintro _ ⟨⟩
      exact Failure.not_missing rfl
  | ok statement =>
      obtain ⟨records, -, rfl⟩ := Names.layout_append built
      have lasts := lasting.lasts_begin
      have idle := Storage.held_begin_self lasting.consistent.fresh
      have table : names.messageTable topic = call.table names := by
        rw [Call.table, task, Task.topic]
      refine ⟨knows, lasts, .appending (Nat.lt_succ_self _) (prepared.next lasts same rfl) ?_⟩
      rw [table]
      exact .opened idle records

theorem Call.Stands.steps (knows : publisher.Knows names batchSize codec storage.committed)
    (lasting : storage.Lasting) (same : call.after = publisher.initialized) {phase : Call.Phase}
    (stands : call.Stands names storage phase) :
    call.Steps names batchSize codec storage (phase.advance publisher storage call.task) := by
  have lasts := lasting.lasts
  cases stands with
  | settingUp given needed unchanged unwritten stage =>
      exact stage.steps knows lasting same given needed unchanged unwritten
  | settled needed unchanged has created =>
      have still := same.symm.trans unchanged
      exact ⟨knows.remember (Task.setsUp_valid needed) has, lasts,
        .ready (settled_prepared needed still has created)⟩
  | unsettled needed unchanged unwritten found created =>
      have still := same.symm.trans unchanged
      refine ⟨knows, lasts, .ended ⟨?_, .inl still, ?_, ?_, ?_⟩⟩
      · exact (call.next_created rfl).trans (created.trans (creations_needed needed).symm)
      · refine fun _ _ _ => ⟨still, (call.next_wrote rfl).trans unwritten, fun other messages task => ?_⟩
        have needed : (Task.publish other messages).setsUp call.before = true := task ▸ needed
        exact ⟨Task.setsUp_valid needed, (Task.setsUp_publish needed).2⟩
      · exact fun _ _ _ _ _ plain => absurd rfl (plain _ _)
      · rintro _ ⟨⟩
        exact Failure.schema_found _ found
  | ready prepared =>
      cases task : call.task with
      | setUp topic =>
          exact ⟨knows, lasts, .ended ((prepared.next lasts same rfl).finished nofun nofun)⟩
      | publish topic messages => exact prepared.append knows lasting same task
  | appending given prepared stage => exact stage.steps knows lasting same given prepared
  | ended finished => exact ⟨knows, lasts, .ended (finished.next same rfl rfl)⟩

theorem Call.Stands.gains {phase : Call.Phase} (stands : call.Stands names storage phase) :
    call.Gains := by
  cases stands with
  | settingUp given needed unchanged unwritten stage => exact .inl unchanged
  | settled needed unchanged has created => exact .inl unchanged
  | unsettled needed unchanged unwritten found created => exact .inl unchanged
  | ready prepared => exact prepared.gains
  | appending given prepared stage => exact prepared.gains
  | ended finished => exact finished.gains

theorem Call.Stands.needed {phase : Call.Phase} (stands : call.Stands names storage phase)
    (created : call.journal.created ≠ []) : call.task.setsUp call.before = true := by
  have wanted (same : call.journal.created = call.creations names) :
      call.task.setsUp call.before = true := by
    rw [same, Call.creations] at created
    exact of_not_not fun needless => created (if_neg needless)
  cases stands with
  | settingUp given needed unchanged unwritten stage => exact needed
  | settled needed unchanged has created => exact needed
  | unsettled needed unchanged unwritten found created => exact needed
  | ready prepared => exact wanted prepared.created
  | appending given prepared stage => exact wanted prepared.created
  | ended finished => exact wanted finished.created

/-! Asides. -/

theorem Storage.commit_has {name : String} (held : after.held? handle = storage.held? handle)
    (covers : after.committed.Covers storage.committed)
    (has : (storage.commit handle).committed.has name = true) :
    (after.commit handle).committed.has name = true := by
  have hold : after.hold handle = storage.hold handle := by
    rw [Storage.hold_eq, Storage.hold_eq, held]
  -- Either it is in what the transaction wrote, or it is committed already.
  rw [Storage.commit_committed] at has ⊢
  rw [hold]
  split at has
  · exact has
  · exact covers _ has

theorem Call.Prepared.later (prepared : call.Prepared names storage)
    (lasts : Storage.Lasts storage after) : call.Prepared names after :=
  ⟨prepared.valid, lasts.covers _ prepared.has, prepared.created, prepared.gains, prepared.listed⟩

/-- A call stands where it stood while others take their steps. -/
theorem Call.Stands.later {phase : Call.Phase} (stands : call.Stands names storage phase)
    (lasts : Storage.Lasts storage after)
    (spared : ∀ handle, phase.handle? = some handle → handle < storage.fresh →
      handle < after.fresh ∧ after.held? handle = storage.held? handle) :
    call.Stands names after phase := by
  cases stands with
  | settingUp given needed unchanged unwritten stage =>
      obtain ⟨given, own⟩ := spared _ rfl given
      refine .settingUp given needed unchanged unwritten ?_
      cases stage with
      | opened idle none => exact .opened (own.trans idle) none
      | made has created => exact .made (Storage.commit_has own lasts.covers has) created
      | refused found created => exact .refused found created
  | settled needed unchanged has created =>
      exact .settled needed unchanged (lasts.covers _ has) created
  | unsettled needed unchanged unwritten found created =>
      exact .unsettled needed unchanged unwritten found created
  | ready prepared => exact .ready (prepared.later lasts)
  | appending given prepared stage =>
      obtain ⟨given, own⟩ := spared _ rfl given
      refine .appending given (prepared.later lasts) ?_
      cases stage with
      | opened idle records => exact .opened (own.trans idle) records
      | made => exact .made
      | refused found => exact .refused found
      | done => exact .done
      | failed found => exact .failed found
  | ended finished => exact .ended finished

/-! The beginning of a call. -/

structure Call.New (call : Call) : Prop where
  still : call.after = call.before
  silent : call.journal = []
  unwritten : call.wrote = false

theorem Call.New.created (new : call.New) : call.journal.created = [] := by
  rw [new.silent]
  rfl

theorem Call.New.finished {result : Except Failure Unit} (new : call.New)
    (needless : call.task.setsUp call.before = false)
    (nothing : ∀ topic messages, call.task = .publish topic messages →
      isTopic topic = false ∨ messages = [])
    (plain : (∃ topic messages, call.task = .publish topic messages) →
      ∀ topic failure, result ≠ .error (.schema topic failure))
    (found : ∀ failure, result = .error failure → ¬ failure.MissesTable) :
    call.Finished names result where
  created := new.created.trans (if_neg (by simp [needless])).symm
  gains := .inl new.still
  failed topic failure failed := ⟨new.still, new.unwritten, fun other messages published =>
    absurd failed (plain ⟨other, messages, published⟩ topic failure)⟩
  passed topic messages published valid nonempty _ := by
    rcases nothing topic messages published with invalid | empty
    · exact absurd (valid.symm.trans invalid) (by simp)
    · exact absurd empty nonempty
  found := found

theorem Call.New.setUp_refused {topic : String} (new : call.New) (task : call.task = .setUp topic)
    (invalid : isTopic topic = false) :
    call.Finished names (.error (.schema topic (.invalidTopic topic))) := by
  apply new.finished
  · rw [task]
    exact invalid
  · intro other messages published
    cases task.symm.trans published
  · rintro ⟨other, messages, published⟩
    cases task.symm.trans published
  · rintro _ ⟨⟩
    exact Failure.not_missing rfl

theorem Call.New.publish_refused {topic : String} {messages : List Message} (new : call.New)
    (task : call.task = .publish topic messages) (invalid : isTopic topic = false) :
    call.Finished names (.error (.invalidTopic topic)) := by
  apply new.finished
  · simp [task, Task.setsUp, invalid]
  · intro other messages published
    cases task.symm.trans published
    exact .inl invalid
  · intro _ other failure same
    cases same
  · rintro _ ⟨⟩
    exact Failure.not_missing rfl

theorem Call.New.publish_empty {topic : String} (new : call.New)
    (task : call.task = .publish topic []) : call.Finished names (.ok ()) := by
  apply new.finished
  · simp [task, Task.setsUp]
  · intro other messages published
    cases task.symm.trans published
    exact .inr rfl
  · intro _ other failure same
    cases same
  · intro failure same
    cases same

theorem Call.New.known {topic : String} {messages : List Message} (new : call.New)
    (knows : publisher.Knows names batchSize codec storage.committed)
    (same : call.before = publisher.initialized) (task : call.task = .publish topic messages)
    (nonempty : messages ≠ []) (member : topic ∈ publisher.initialized) :
    call.Prepared names storage := by
  obtain ⟨valid, has⟩ := knows.known topic member
  have needless : call.task.setsUp call.before = false := by
    simp [task, Task.setsUp, same, member]
  refine ⟨?_, ?_, new.created.trans (if_neg (by simp [needless])).symm, .inl new.still, ?_⟩
  · rw [task]
    exact valid
  · rw [Call.table, task]
    exact has
  · intro other others published
    cases task.symm.trans published
    rw [new.still, same]
    exact ⟨nonempty, member⟩

theorem Call.New.openSetUp (new : call.New)
    (knows : publisher.Knows names batchSize codec storage.committed) (lasting : storage.Lasting)
    (needed : call.task.setsUp call.before = true) :
    let opened := publisher.openSetUp storage call.task.topic
    Storage.Lasts storage opened.2 ∧ call.Stands names opened.2 opened.1 := by
  have built : publisher.layout.setup call.task.topic =
      .ok [⟨.sqlite, .createLog (call.table names)⟩] := by
    rw [knows.layout, names.layout_setup, ofTopic_valid (Task.setsUp_valid needed)]
    rfl
  have idle := Storage.held_begin_self lasting.consistent.fresh
  unfold Publisher.openSetUp
  rw [built]
  exact ⟨lasting.lasts_begin, .settingUp (Nat.lt_succ_self _) needed new.still new.unwritten
    (.opened idle new.created)⟩

theorem Publisher.Knows.beginCall
    (knows : publisher.Knows names batchSize codec storage.committed) (lasting : storage.Lasting)
    (new : call.New) (same : call.before = publisher.initialized) :
    let opened := publisher.beginCall storage call.task
    Storage.Lasts storage opened.2 ∧ call.Stands names opened.2 opened.1 := by
  have lasts := lasting.lasts
  cases task : call.task with
  | setUp topic =>
      cases valid : isTopic topic with
      | true =>
          have opened := new.openSetUp knows lasting (task ▸ valid)
          rw [task] at opened
          exact opened
      | false =>
          have built : publisher.layout.setup topic = .error (.invalidTopic topic) := by
            rw [knows.layout, names.layout_setup, ofTopic, valid]
            rfl
          simp only [Publisher.beginCall, Publisher.openSetUp, built]
          exact ⟨lasts, .ended (new.setUp_refused task valid)⟩
  | publish topic messages =>
      cases valid : isTopic topic with
      | false =>
          simp only [Publisher.beginCall, validateTopic, valid]
          exact ⟨lasts, .ended (new.publish_refused task valid)⟩
      | true =>
          cases empty : messages.isEmpty with
          | true =>
              rw [List.isEmpty_iff.mp empty] at task
              simp only [Publisher.beginCall, validateTopic, valid, empty]
              exact ⟨lasts, .ended (new.publish_empty task)⟩
          | false =>
              by_cases member : topic ∈ publisher.initialized
              · have nonempty : messages ≠ [] := by simpa using empty
                simp only [Publisher.beginCall, validateTopic, valid, empty, knows.auto,
                  List.contains_iff_mem.mpr member]
                exact ⟨lasts, .ready (new.known knows same task nonempty member)⟩
              · have opened := new.openSetUp knows lasting
                  (by simp [task, Task.setsUp, valid, empty, same, member])
                rw [task] at opened
                simp only [Publisher.beginCall, validateTopic, valid, empty, knows.auto,
                  Bool.eq_false_iff.mpr (mt List.contains_iff_mem.mp member)]
                exact opened

end Steps

end TopicLog
