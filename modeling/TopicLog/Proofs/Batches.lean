import Mathlib.Data.List.Forall2
import TopicLog.Proofs.AppendOnly
import TopicLog.Proofs.Ways

/-!
What publishing a batch comes to. The set-up of a publisher leaves the database as it is or with an empty
table of messages in it; then the batch is appended as a whole, or nothing is.
-/
namespace TopicLog

/-! The rows of a batch. -/

structure LogRow.Holds (codec : Codec) (now : Timestamp) (message : Message) (row : LogRow) :
    Prop where
  uuid : row.uuid = .text message.uuid
  createdAt : row.createdAt = .text now.toText
  payload : row.payload = .blob message.payload
  metadata : ∃ bytes, codec.encode message.metadata = .ok bytes ∧ row.metadata = .blob bytes

namespace Log

/-- The rows that records become whose offsets follow the last one used. -/
def entries (now : Timestamp) : Int → List Record → List LogRow
  | _, [] => []
  | last, record :: rest =>
      ⟨last + 1, .text record.uuid, .text now.toText, .blob record.payload, .blob record.metadata⟩ ::
        entries now (last + 1) rest

theorem append_entries {log after : Log} {table : String} {now : Timestamp} {records : List Record}
    (arranged : log.Arranged) (appended : log.append table now records = .ok after) :
    after.rows = log.rows ++ entries now log.last records := by
  induction records generalizing log with
  | nil =>
      cases appended
      exact (List.append_nil _).symm
  | cons record rest ih =>
      cases inserted : log.insert table now (draftOf record) with
      | error fault => simp [append, inserted] at appended
      | ok middle =>
          simp only [append, inserted] at appended
          rw [ih (insert_arranged arranged inserted) appended, insert_record arranged inserted]
          exact List.append_assoc log.rows [log.rowOf now record] _

theorem entries_above (now : Timestamp) (last : Int) (records : List Record) :
    ∀ row ∈ entries now last records, last < row.offset := by
  induction records generalizing last with
  | nil =>
      intro row member
      cases member
  | cons record rest ih =>
      intro row member
      rcases List.mem_cons.mp member with rfl | later
      · exact Int.lt_succ last
      · exact Int.lt_trans (Int.lt_succ last) (ih (last + 1) row later)

theorem entries_ascending (now : Timestamp) (last : Int) (records : List Record) :
    (entries now last records).Pairwise fun a b => a.offset < b.offset := by
  induction records generalizing last with
  | nil => exact .nil
  | cons record rest ih =>
      exact List.pairwise_cons.mpr ⟨entries_above now (last + 1) rest, ih (last + 1)⟩

theorem entries_hold {codec : Codec} (now : Timestamp) (last : Int) {messages : List Message}
    {records : List Record} (encoded : codec.records messages = .ok records) :
    List.Forall₂ (LogRow.Holds codec now) messages (entries now last records) := by
  induction messages generalizing last records with
  | nil =>
      cases encoded
      exact .nil
  | cons message rest ih =>
      simp only [Codec.records, Codec.record, bind, Except.bind, pure, Except.pure] at encoded
      cases metadata : codec.encode message.metadata with
      | error cause => simp [metadata] at encoded
      | ok bytes =>
          simp only [metadata] at encoded
          cases others : codec.records rest with
          | error failure => simp [others] at encoded
          | ok later =>
              simp only [others] at encoded
              cases encoded
              exact .cons ⟨rfl, rfl, rfl, bytes, metadata, rfl⟩ (ih (last + 1) others)

end Log

/-! One transaction of its own. -/

namespace Storage

variable {storage after : Storage} {command : Command}

theorem autocommit_failed {fault : Fault}
    (failed : storage.autocommit command = (.error fault, after)) :
    after.committed = storage.committed := by
  unfold autocommit at failed
  rcases ran : storage.begin.2.execute storage.begin.1 command with ⟨answer, left⟩
  have frame := storage.begin.2.execute_frame storage.begin.1 command
  rw [ran] at frame
  simp only [ran] at failed
  cases answer with
  | ok effect => cases failed
  | error fault =>
      cases failed
      exact (left.rollback_frame _).1.trans frame.1

theorem autocommit_wrote {effect : Effect} (fresh : storage.Fresh)
    (ran : storage.autocommit command = (.ok effect, after)) :
    ∃ plan, storage.committed.plan storage.clock command = .ok plan ∧ plan.outcome = .ok effect ∧
      (plan.writes = true → effect.changed = true → after.committed = effect.after) := by
  have idle : storage.begin.2.held? storage.fresh = some .idle := held_begin_self fresh
  have own := hold_of_held idle
  have sees : storage.begin.2.view storage.fresh = storage.committed := by
    rw [view, own]
    rfl
  unfold autocommit at ran
  rcases executed : storage.begin.2.execute storage.begin.1 command with ⟨answer, left⟩
  simp only [executed] at ran
  cases answer with
  | error fault => cases ran
  | ok effect =>
      cases ran
      rcases storage.begin.2.execute_cases storage.fresh command with
        ⟨fault, failed, -⟩ | ⟨plan, planned, answer, ends⟩
      · cases failed.symm.trans (congrArg Prod.fst executed)
      · have outcome : plan.outcome = .ok effect :=
          answer.symm.trans (congrArg Prod.fst executed)
        rw [sees] at planned
        refine ⟨plan, planned, outcome, fun writes changed => ?_⟩
        rcases ends with ⟨free, -⟩ | ⟨-, -, -, holds⟩
        · simp [takesLock, writes] at free
        · have held : left.held? storage.fresh = some (.writing effect.after true) := by
            have same : left.holds = _ := (congrArg (fun ran => ran.2.holds) executed).symm.trans holds
            rw [held?, same]
            refine ((held_setHold _).trans (if_pos rfl)).trans ?_
            rw [idle, holdAfterWrite, own, leaves, outcome]
            simp [changed]
          exact (commit_written held).1

end Storage

/-! Set-ups. -/

theorem Script.all_runs {allowed : Command → Prop} {statements : List Statement}
    (each : ∀ statement ∈ statements, allowed (.run statement.action)) :
    (Script.all statements).Runs allowed := by
  induction statements with
  | nil => trivial
  | cons first rest ih =>
      constructor
      · exact each first List.mem_cons_self
      · intro answer
        cases answer with
        | error fault => trivial
        | ok effect => exact ih fun statement member => each statement (List.mem_cons_of_mem _ member)

theorem Storage.setUp_committed {property : Database → Prop} {allowed : Command → Prop}
    {storage : Storage} {topic : String} {statements : Except Failure (List Statement)}
    (keeps : ∀ view now command plan, allowed command → property view →
      Database.plan view now command = .ok plan → property (Storage.leaves view plan).after)
    (each : ∀ list, statements = .ok list →
      ∀ statement ∈ list, allowed (.run statement.action))
    (consistent : storage.Consistent) (committed : property storage.committed) :
    property (storage.setUp topic statements).2.committed := by
  cases statements with
  | error failure => exact committed
  | ok list =>
      have unwritten (view : Database) (changed : Bool)
          (held : storage.begin.2.held? storage.fresh = some (.writing view changed)) :
          property view := by
        cases (held_begin_self consistent.fresh).symm.trans held
      have ran : property ((Script.all list).run (fun _ _ => (none, ())) storage.fresh ()
          storage.begin.2).2.2.committed :=
        Script.run_committed keeps _ (Script.all_runs (each list rfl)) ()
          (consistent_begin consistent) committed unwritten
      simp only [Storage.setUp]
      split
      all_goals
        rename_i performed
        rw [← congrArg Prod.snd performed]
        exact ran

/-- A database that is as it was, or has an empty table of messages that was missing before. -/
def Namings.Prepared (namings : Namings) (topic : String) (before after : Database) : Prop :=
  after = before ∨
    before.contents? (namings.messageTable topic) = none ∧
      after = before.addTable ⟨namings.messageTable topic, .log {}⟩

section Publish

variable {namings : Namings} {topic : String} {codec : Codec} {batchSize : Nat}
  {publisher : Publisher} {storage after : Storage} {messages : List Message}

theorem Namings.Prepared.log {before after : Database}
    (prepared : namings.Prepared topic before after) :
    namings.log topic after = namings.log topic before ∧
      ∀ name, sameName (namings.messageTable topic) name = false →
        after.contents? name = before.contents? name := by
  rcases prepared with rfl | ⟨missing, rfl⟩
  · exact ⟨rfl, fun _ _ => rfl⟩
  · constructor
    · have made : (before.addTable ⟨namings.messageTable topic, .log {}⟩).contents?
          (namings.messageTable topic) = some (.log {}) := by
        simp [Database.contents_addTable, missing, sameName_refl]
      exact Namings.log_of_missing missing made
    · intro name apart
      simp [Database.contents_addTable, apart]

theorem Publisher.setUp_prepared (usual : publisher.layout = namings.layout batchSize codec)
    (topic : String) (consistent : storage.Consistent) :
    namings.Prepared topic storage.committed (publisher.setUp topic storage).2.committed := by
  have keeps : ∀ view now command plan,
      command = .run (.createLog (namings.messageTable topic)) →
      namings.Prepared topic storage.committed view → Database.plan view now command = .ok plan →
      namings.Prepared topic storage.committed (Storage.leaves view plan).after := by
    rintro view now command plan rfl prepared planned
    rcases Database.create_leaves planned with same | ⟨missing, made⟩
    · rw [same]
      exact prepared
    -- A table that was made is not missing a second time.
    · rcases prepared with rfl | ⟨absent, rfl⟩
      · exact .inr ⟨missing, made⟩
      · simp [Database.contents_addTable, absent, sameName_refl] at missing
  apply Storage.setUp_committed keeps _ consistent (.inl rfl)
  intro list built statement member
  rw [usual] at built
  rw [← ofTopic_built (namings.layout_setup topic _ _) built, List.mem_singleton] at member
  rw [member]

theorem Publisher.ensureInitialized_prepared
    (usual : publisher.layout = namings.layout batchSize codec) (topic : String)
    (consistent : storage.Consistent) :
    namings.Prepared topic storage.committed
      (publisher.ensureInitialized topic storage).2.2.committed := by
  have prepared := publisher.setUp_prepared usual topic consistent
  unfold ensureInitialized
  split
  · exact .inl rfl
  · split
    all_goals
      rename_i ready
      rw [ready] at prepared
      exact prepared

/-- A database to whose topic the messages of a batch were appended, all of them and nothing else. -/
structure Namings.Appended (namings : Namings) (topic : String) (codec : Codec) (now : Timestamp)
    (messages : List Message) (before after : Database) : Prop where
  rows : ∃ added, (namings.log topic after).rows = (namings.log topic before).rows ++ added ∧
    List.Forall₂ (LogRow.Holds codec now) messages added ∧
    (∀ row ∈ added, 1 ≤ row.offset ∧ (namings.log topic before).last < row.offset) ∧
    added.Pairwise fun a b => a.offset < b.offset
  others : ∀ name, sameName (namings.messageTable topic) name = false →
    after.contents? name = before.contents? name

theorem Publisher.append_failed {failure : Failure}
    (failed : publisher.append topic messages storage = (.error failure, after)) :
    after.committed = storage.committed := by
  unfold append at failed
  split at failed
  · cases failed
    rfl
  · rename_i statement built
    split at failed
    · cases failed
    · rename_i fault left ran
      cases failed
      exact Storage.autocommit_failed ran

theorem Namings.appended_put {table : String} {now : Timestamp} {records : List Record}
    {database : Database} {log longer : Log} (encoded : codec.records messages = .ok records)
    (held : database.contents? (namings.messageTable topic) = some (.log log))
    (ordered : log.Ordered) (grown : log.append table now records = .ok longer) :
    namings.Appended topic codec now messages database
      (database.put (namings.messageTable topic) (.log longer)) := by
  have old : namings.log topic database = log := Database.logOf_eq held
  have new : namings.log topic (database.put (namings.messageTable topic) (.log longer)) =
      longer := by
    apply Database.logOf_eq
    exact Database.contents_put_held _ held
  have above := Log.entries_above now log.last records
  constructor
  · refine ⟨Log.entries now log.last records, ?_, Log.entries_hold now log.last encoded, ?_,
      Log.entries_ascending now log.last records⟩
    · rw [old, new]
      exact Log.append_entries ordered.toArranged grown
    · intro row member
      have := ordered.last
      have := above row member
      rw [old]
      omega
  · intro name apart
    exact Database.contents_put_other _ _ apart

theorem Namings.appended_of_autocommit {records : List Record} {effect : Effect}
    (fresh : storage.Fresh) (logged : namings.Logged topic storage.committed)
    (encoded : codec.records messages = .ok records)
    (ran : storage.autocommit (.run (.append (namings.messageTable topic) records)) =
      (.ok effect, after)) :
    namings.Appended topic codec storage.clock messages storage.committed after.committed := by
  obtain ⟨plan, planned, outcome, wrote⟩ := Storage.autocommit_wrote fresh ran
  cases held : storage.committed.contents? (namings.messageTable topic) with
  | none => cases (Database.append_of_missing held).symm.trans planned
  | some contents =>
      obtain ⟨log, rfl⟩ := logged.messages contents held
      have ordered : log.Ordered := by
        rw [← (Database.logOf_eq held : namings.log topic storage.committed = log)]
        exact logged.ordered
      obtain ⟨table, appends⟩ := Database.append_of_log storage.clock records held
      cases appends.symm.trans planned
      -- An insertion that fails midway leaves none of the batch, and has no effect to return.
      cases grown : log.append table storage.clock records with
      | error fault =>
          rw [grown] at outcome
          cases outcome
      | ok longer =>
          rw [grown] at outcome wrote
          cases outcome
          rw [wrote rfl rfl]
          exact Namings.appended_put encoded held ordered grown

theorem Publisher.append_appended (usual : publisher.layout = namings.layout batchSize codec)
    (fresh : storage.Fresh) (logged : namings.Logged topic storage.committed)
    (appended : publisher.append topic messages storage = (.ok (), after)) :
    namings.Appended topic codec storage.clock messages storage.committed after.committed := by
  unfold append at appended
  rw [usual] at appended
  cases built : (namings.layout batchSize codec).append topic messages with
  | error failure =>
      rw [built] at appended
      cases appended
  | ok statement =>
      obtain ⟨records, encoded, rfl⟩ := Namings.layout_append built
      rw [built] at appended
      dsimp only at appended
      split at appended
      · rename_i effect left ran
        cases appended
        exact Namings.appended_of_autocommit fresh logged encoded ran
      · cases appended

end Publish

end TopicLog
