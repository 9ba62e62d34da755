import TopicLog.Proofs.Conflicts
import TopicLog.Proofs.LastingTables

/-!
Statements that do not miss their tables. A report of a missing table is told from all others by its
text. To make a table needs no other; to append to one misses nothing if it was committed before the
transaction began.
-/
namespace TopicLog

/-! Missing tables. -/

def Fault.isMissing : Fault → Bool
  | .noTable _ => true
  | _ => false

/-- A failure for a missing table, of a set-up or of a statement. -/
inductive Failure.MissesTable : Failure → Prop
  | statement (name : String) : MissesTable (.ofFault (.noTable name))
  | setUp (topic name : String) : MissesTable (.schema topic (.ofFault (.noTable name)))

theorem Fault.missing_of_text {fault : Fault} {name : String}
    (text : fault.text = Fault.text (.noTable name)) : fault.isMissing = true := by
  have opening : fault.text.toList.take 2 = ['n', 'o'] := by
    rw [text]
    change ("no such table: " ++ name).toList.take 2 = _
    simp [String.toList_append]
  cases fault with
  | noTable name => rfl
  | noColumn table column =>
      change ("table " ++ table ++ " has no column named " ++ column).toList.take 2 = _ at opening
      simp [String.toList_append] at opening
  | reservedName other =>
      change ("object name reserved for internal use: " ++ other).toList.take 2 = _ at opening
      simp [String.toList_append] at opening
  | tableNamed other =>
      change ("there is already a table named " ++ other).toList.take 2 = _ at opening
      simp [String.toList_append] at opening
  | indexNamed other =>
      change ("there is already an index named " ++ other).toList.take 2 = _ at opening
      simp [String.toList_append] at opening
  | notNull table column =>
      change ("NOT NULL constraint failed: " ++ table ++ "." ++ column).toList.take 2 = _ at opening
      simp [String.toList_append] at opening
  | duplicateOffset table =>
      change ("UNIQUE constraint failed: " ++ table ++ ".offset").toList.take 2 = _ at opening
      simp [String.toList_append] at opening
  | noColumns | mismatch | full | locked | outdated => exact absurd opening (by decide +kernel)

theorem Failure.missing_of_ofFault {fault : Fault} {name : String}
    (same : Failure.ofFault fault = .ofFault (.noTable name)) : fault.isMissing = true := by
  have reports := congrArg Failure.report? same
  rw [Failure.report_ofFault, Failure.report_ofFault, Option.some.injEq,
    DatabaseError.mk.injEq] at reports
  exact Fault.missing_of_text reports.2

theorem Failure.ofFault_ne_schema (fault : Fault) (topic : String) (failure : Failure) :
    Failure.ofFault fault ≠ .schema topic failure := by
  unfold Failure.ofFault Failure.ofCause
  split <;> nofun

def Failure.isReport : Failure → Bool
  | .conflict _ | .database _ => true
  | .schema _ failure => failure.isReport
  | _ => false

theorem Failure.ofFault_isReport (fault : Fault) : (Failure.ofFault fault).isReport = true := by
  unfold Failure.ofFault Failure.ofCause
  split <;> rfl

theorem Failure.not_missing {failure : Failure} (own : failure.isReport = false) :
    ¬ failure.MissesTable := by
  rintro (name | ⟨topic, name⟩)
  · exact Bool.false_ne_true (own.symm.trans (Failure.ofFault_isReport _))
  · exact Bool.false_ne_true (own.symm.trans (Failure.ofFault_isReport (.noTable name)))

theorem Failure.ofFault_found {fault : Fault} (found : fault.isMissing = false) :
    ¬ (Failure.ofFault fault).MissesTable := by
  intro misses
  generalize same : Failure.ofFault fault = failure at misses
  cases misses with
  | statement name => cases found.symm.trans (Failure.missing_of_ofFault same)
  | setUp topic name => exact Failure.ofFault_ne_schema _ _ _ same

theorem Failure.schema_found {fault : Fault} (topic : String) (found : fault.isMissing = false) :
    ¬ (Failure.schema topic (.ofFault fault)).MissesTable := by
  intro misses
  generalize same : Failure.schema topic (.ofFault fault) = failure at misses
  cases misses with
  | statement name => exact Failure.ofFault_ne_schema _ _ _ same.symm
  | setUp other name =>
      cases found.symm.trans (Failure.missing_of_ofFault (Failure.schema.inj same).2)

namespace Log

variable {log : Log} {table : String} {now : Timestamp} {fault : Fault}

theorem insert_found {record : Record}
    (failed : log.insert table now (draftOf record) = .error fault) : fault.isMissing = false := by
  simp only [insert, draftOf, LogDraft.requested, Option.getD_none, Option.getD_some,
    Value.inIntegerColumn, Value.inTextColumn, assign, required, bind, Except.bind, pure,
    Except.pure] at failed
  split at failed
  · rename_i other assigned
    cases failed
    split at assigned <;> cases assigned
    rfl
  · split at failed <;> cases failed
    rfl

theorem append_found {records : List Record} (failed : log.append table now records = .error fault) :
    fault.isMissing = false := by
  induction records generalizing log with
  | nil => cases failed
  | cons record rest ih =>
      cases inserted : log.insert table now (draftOf record) with
      | error other =>
          simp only [append, inserted] at failed
          cases failed
          exact insert_found inserted
      | ok grown =>
          simp only [append, inserted] at failed
          exact ih failed

end Log

namespace Database

variable {database : Database} {name : String} {now : Timestamp} {fault : Fault}

theorem create_found
    (failed : (database.answer now (.run (.createLog name))).1 = .error fault) :
    fault.isMissing = false := by
  rcases answer_fault failed with unplanned | ⟨plan, planned, failed⟩
  · simp only [Database.plan, planAction, create] at unplanned
    repeat' split at unplanned
    all_goals cases unplanned
    all_goals rfl
  · simp only [Database.plan, planAction, create] at planned
    repeat' split at planned
    all_goals cases planned
    all_goals cases failed

theorem append_found {records : List Record} (has : database.has name = true)
    (failed : (database.answer now (.run (.append name records))).1 = .error fault) :
    fault.isMissing = false := by
  obtain ⟨contents, held⟩ := Option.isSome_iff_exists.mp has
  obtain ⟨table, found, inside⟩ := find_of_contents held
  rcases answer_fault failed with unplanned | ⟨plan, planned, failed⟩
  · simp only [Database.plan, planAction, append, onLog, bind, Except.bind, pure, Except.pure, found,
      inside] at unplanned
    split at unplanned <;> cases unplanned
    rfl
  · obtain ⟨other, log, -, -, rfl⟩ := onLog_built planned
    dsimp only at failed
    split at failed
    · cases failed
    · cases failed
      exact Log.append_found ‹_›

theorem create_planned {contents : Contents} {plan : Plan}
    (planned : database.create name contents = .ok plan) :
    database.has name = true ∧ plan = .read database [] ∨
      plan = .write (database.addTable ⟨name, contents⟩) 0 true := by
  unfold create at planned
  repeat' split at planned
  all_goals cases planned
  · rename_i there
    exact .inl ⟨by simpa [has, contents?] using there, rfl⟩
  · exact .inr rfl

end Database

/-! The first statement of a transaction. -/

namespace Storage

variable {storage : Storage} {handle : Handle} {command : Command}

theorem view_idle (idle : storage.held? handle = some .idle) :
    storage.view handle = storage.committed := by
  rw [view, hold_of_held idle]

theorem execute_found {fault : Fault} (idle : storage.held? handle = some .idle)
    (found : ∀ fault, (storage.committed.answer storage.clock command).1 = .error fault →
      fault.isMissing = false)
    (failed : (storage.execute handle command).1 = .error fault) : fault.isMissing = false := by
  rcases execute_fault failed with rfl | rfl | same
  · rfl
  · rfl
  · rw [view_idle idle] at same
    exact found fault same

/-- A table that a transaction was to make first of all is there when the transaction commits. -/
theorem create_commits {name : String} {effect : Effect} (idle : storage.held? handle = some .idle)
    (made : (storage.execute handle (.run (.createLog name))).1 = .ok effect) :
    ((storage.execute handle (.run (.createLog name))).2.commit handle).committed.has name = true := by
  have own := hold_of_held idle
  have frame := (storage.execute_frame handle (.run (.createLog name))).1
  have holding {hold : Hold}
      (holds : (storage.execute handle (.run (.createLog name))).2.holds =
        (storage.setHold handle hold).holds) :
      (storage.execute handle (.run (.createLog name))).2.hold handle = hold := by
    apply hold_of_held
    rw [held?, holds]
    refine ((held_setHold hold).trans (if_pos rfl)).trans ?_
    rw [idle]
    rfl
  rw [commit_committed]
  rcases storage.execute_cases handle (.run (.createLog name)) with
    ⟨fault, failed, -⟩ | ⟨plan, planned, -, ends⟩
  · cases failed.symm.trans made
  · rw [view_idle idle] at planned ends
    rcases Database.create_planned planned with ⟨has, rfl⟩ | rfl
    -- A table that is there already is only read, and the commit leaves what is committed.
    · have same : (storage.execute handle (.run (.createLog name))).2.committed.has name = true :=
        frame ▸ has
      rcases ends with ⟨-, holds⟩ | ⟨-, -, -, holds⟩
      · rw [holding holds, holdAfterRead, own]
        exact same
      · rw [holding holds, holdAfterWrite, own]
        exact same
    · rcases ends with ⟨free, -⟩ | ⟨-, -, -, holds⟩
      · simp [takesLock, Plan.write] at free
      · rw [holding holds, holdAfterWrite, own]
        exact Database.has_addTable _ _

end Storage

end TopicLog
