import TopicLog.Proofs.Interleaving
import TopicLog.Proofs.Reached

/-!
The names in what a database reports. A report is taken for a lost race by its code or by its text, and
its text repeats names of tables. So a report is taken for one exactly if it is one, or if a name in it
reads like one; and the only names in reports on the statements of a topic are those of its tables.
-/
namespace TopicLog

/-- A text by which a report is taken for that of a lost race. -/
def tellsConflict (text : String) : Bool :=
  occursIn "database is locked".toList text.toList || occursIn "deadlock".toList text.toList

/-! Where a text occurs in two texts that are put together. -/

/-- Whether one of two texts begins the other. -/
def agree (first second : List Char) : Bool := first.isPrefixOf second || second.isPrefixOf first

/-- Whether some end of a text agrees with another text, as far as both go. -/
def touches : List Char → List Char → Bool
  | [], _ => false
  | c :: rest, after => agree (c :: rest) after || touches rest after

section Occurrence

variable {part fixed : List Char}

theorem agree_append {first second : List Char} (apart : agree first second = false)
    (after : List Char) : agree first (second ++ after) = false := by
  rw [Bool.eq_false_iff]
  intro agreed
  apply Bool.eq_false_iff.mp apart
  simp only [agree, Bool.or_eq_true, List.isPrefixOf_iff_prefix] at agreed ⊢
  rcases agreed with begins | continues
  · exact List.prefix_or_prefix_of_prefix begins (List.prefix_append second after)
  · exact .inr ((List.prefix_append second after).trans continues)

theorem touches_append (apart : touches part fixed = false) (after : List Char) :
    touches part (fixed ++ after) = false := by
  induction part with
  | nil => rfl
  | cons c rest ih =>
      rw [touches, Bool.or_eq_false_iff] at apart ⊢
      exact ⟨agree_append apart.1 after, ih apart.2⟩

theorem isPrefixOf_append {after : List Char} (apart : touches part after = false)
    (before : List Char) : part.isPrefixOf (before ++ after) = part.isPrefixOf before := by
  induction before generalizing part with
  | nil =>
      cases part with
      | nil => rfl
      | cons c rest =>
          exact (Bool.or_eq_false_iff.mp (Bool.or_eq_false_iff.mp apart).1).1
  | cons c before ih =>
      cases part with
      | nil => rfl
      | cons d rest =>
          have later : touches rest after = false := (Bool.or_eq_false_iff.mp apart).2
          simp only [List.cons_append, List.isPrefixOf, ih later]

theorem occursIn_append {after : List Char} (apart : touches part after = false)
    (something : part ≠ []) (before : List Char) :
    occursIn part (before ++ after) = (occursIn part before || occursIn part after) := by
  induction before with
  | nil =>
      have nonempty : part.isEmpty = false := by simpa using something
      simp [occursIn, nonempty]
  | cons c before ih =>
      have first := isPrefixOf_append apart (c :: before)
      simp only [List.cons_append] at first
      simp only [List.cons_append, occursIn, first, ih, Bool.or_assoc]

theorem occursIn_after (apart : touches fixed part = false) (after : List Char) :
    occursIn part (fixed ++ after) = occursIn part after := by
  induction fixed with
  | nil => rfl
  | cons c rest ih =>
      rw [touches, Bool.or_eq_false_iff] at apart
      have here : part.isPrefixOf (c :: rest ++ after) = false := by
        rw [Bool.eq_false_iff]
        intro begins
        apply Bool.eq_false_iff.mp apart.1
        simp only [agree, Bool.or_eq_true, List.isPrefixOf_iff_prefix] at begins ⊢
        exact List.prefix_or_prefix_of_prefix (List.prefix_append (c :: rest) after) begins
      rw [List.cons_append, occursIn, ← List.cons_append, here, Bool.false_or, ih apart.2]

end Occurrence

/-- Fixed text in which nothing that tells a conflict can begin or end. -/
def isSilent (text : String) : Bool :=
  ["database is locked", "deadlock"].all fun part =>
    !touches text.toList part.toList && !touches part.toList text.toList

section Reports

variable {before between : String}

theorem silent_apart {text part : String} (silent : isSilent text = true)
    (tells : part ∈ ["database is locked", "deadlock"]) :
    touches text.toList part.toList = false ∧ touches part.toList text.toList = false := by
  simpa using List.all_eq_true.mp silent part tells

theorem tells_behind (silent : isSilent before = true) (name : String) :
    tellsConflict (before ++ name) = tellsConflict name := by
  have locked := (silent_apart silent (.head _)).1
  have deadlock := (silent_apart silent (.tail _ (.head _))).1
  rw [tellsConflict, String.toList_append, occursIn_after locked, occursIn_after deadlock,
    tellsConflict]

theorem tells_both (silent : isSilent before = true) (silentToo : isSilent between = true)
    (first second : String) :
    tellsConflict (before ++ first ++ between ++ second) =
      (tellsConflict first || tellsConflict second) := by
  have rest := tells_behind silentToo second
  have locked := touches_append (silent_apart silentToo (.head _)).2 second.toList
  have deadlock := touches_append (silent_apart silentToo (.tail _ (.head _))).2 second.toList
  have halves : tellsConflict (first ++ (between ++ second)) =
      (tellsConflict first || tellsConflict (between ++ second)) := by
    unfold tellsConflict
    rw [String.toList_append, String.toList_append, occursIn_append locked (by simp),
      occursIn_append deadlock (by simp)]
    ac_rfl
  rw [String.append_assoc, String.append_assoc, tells_behind silent, halves, rest]

end Reports

namespace Fault

def isLock (fault : Fault) : Bool := fault.code % 256 = 5 || fault.code % 256 = 6

/-- The names that the text of a fault repeats. -/
def names : Fault → List String
  | .noTable name | .reservedName name | .tableNamed name | .indexNamed name
  | .duplicateOffset name => [name]
  | .noColumn table column | .notNull table column => [table, column]
  | _ => []

/-- The text of a fault tells a conflict for the lock that was lost, or for a name in it. -/
theorem tells_text (fault : Fault) :
    tellsConflict fault.text = (fault.isLock || fault.names.any tellsConflict) := by
  -- Texts without a name can be searched as they stand; in the others the names are what counts.
  cases fault with
  | noTable name => exact (tells_behind (by decide) name).trans (by simp [names, isLock, code])
  | reservedName name => exact (tells_behind (by decide) name).trans (by simp [names, isLock, code])
  | tableNamed name => exact (tells_behind (by decide) name).trans (by simp [names, isLock, code])
  | indexNamed name => exact (tells_behind (by decide) name).trans (by simp [names, isLock, code])
  | noColumn table column =>
      exact (tells_both (by decide) (by decide) table column).trans (by simp [names, isLock, code])
  | notNull table column =>
      exact (tells_both (by decide) (by decide) table column).trans (by simp [names, isLock, code])
  | duplicateOffset name =>
      have offset : tellsConflict "offset" = false := by decide
      have cut : text (.duplicateOffset name) =
          "UNIQUE constraint failed: " ++ name ++ "." ++ "offset" := by
        rw [String.append_assoc]
        rfl
      rw [cut, tells_both (by decide) (by decide), offset]
      simp [names, isLock, code]
  | noColumns => decide +kernel
  | mismatch => decide +kernel
  | full => decide +kernel
  | locked => decide +kernel
  | outdated => decide +kernel

def codes : List Nat := [1, 1299, 1555, 20, 13, 5, 517]

theorem code_mem (fault : Fault) : fault.code ∈ codes := by
  cases fault <;> simp [codes, code]

theorem code_tells (fault : Fault) :
    conflictCodes.contains (toString fault.code) = fault.isLock := by
  have all : ∀ code ∈ codes, conflictCodes.contains (toString code) =
      (code % 256 = 5 || code % 256 = 6 : Bool) := by decide +kernel
  exact all fault.code fault.code_mem

end Fault

/-- A report is taken for a lost race exactly if it is one, or if a name in it reads like one. -/
theorem Failure.ofFault_isConflict (fault : Fault) :
    (Failure.ofFault fault).isConflict = (fault.isLock || fault.names.any tellsConflict) := by
  have taken : (Cause.database ⟨some (toString fault.code), fault.text⟩).isConflict =
      (fault.isLock || fault.names.any tellsConflict) := by
    change DatabaseError.isConflict ⟨some (toString fault.code), fault.text⟩ = _
    rw [DatabaseError.isConflict, Option.any_some, fault.code_tells, Bool.or_assoc]
    change (fault.isLock || tellsConflict fault.text) = _
    rw [fault.tells_text, ← Bool.or_assoc, Bool.or_self]
  unfold Failure.ofFault Failure.ofCause
  rw [taken]
  cases fault.isLock || fault.names.any tellsConflict <;> rfl

/-! The names in reports on the statements of a topic. -/

/-- The statements that there are on the tables of a topic. -/
def Names.Uses (names : Names) (topic : String) : Action → Prop
  | .createLog table | .append table _ => table = names.messageTable topic
  | .createCursors table | .markConsumed table _ _ | .acknowledge table _ _ =>
      table = names.cursorTable topic
  | .claim claim => claim.table = names.cursorTable topic
  | .fetch table claim _ =>
      table = names.messageTable topic ∧ claim.table = names.cursorTable topic
  | _ => False

def Names.Mentions (names : Names) (topic : String) (fault : Fault) : Prop :=
  ∀ name ∈ fault.names, name ∈ names.messageTable topic :: names.cursorTable topic ::
    ["uuid", "offset_consumed"]

namespace Log

variable {log : Log} {table : String} {now : Timestamp} {fault : Fault}

theorem insert_fault (arranged : log.Arranged) {record : Record}
    (failed : log.insert table now (draftOf record) = .error fault) : fault = .full := by
  have fresh : log.rows.any (fun row => row.offset = log.last + 1) = false := by
    simp only [List.any_eq_false, decide_eq_true_eq]
    intro old member same
    have := arranged.used old member
    omega
  -- An arranged log has no row above its last offset, so the next one is free.
  by_cases full : Value.greatestInteger ≤ log.last
  · simp [insert, draftOf, LogDraft.requested, Value.inIntegerColumn, assign, full, bind,
      Except.bind] at failed
    exact failed.symm
  · simp [insert, draftOf, LogDraft.requested, Value.inIntegerColumn, Value.inTextColumn, assign,
      full, required, bind, Except.bind, pure, Except.pure, fresh] at failed

theorem append_fault (arranged : log.Arranged) {records : List Record}
    (failed : log.append table now records = .error fault) : fault = .full := by
  induction records generalizing log with
  | nil => cases failed
  | cons record rest ih =>
      cases inserted : log.insert table now (draftOf record) with
      | error other =>
          simp only [append, inserted] at failed
          cases failed
          exact insert_fault arranged inserted
      | ok grown =>
          simp only [append, inserted] at failed
          exact ih (insert_arranged arranged inserted) failed

end Log

namespace Database

variable {database : Database} {name : String} {fault : Fault} {now : Timestamp}

theorem answer_fault {command : Command}
    (failed : (database.answer now command).1 = .error fault) :
    database.plan now command = .error fault ∨
      ∃ plan, database.plan now command = .ok plan ∧ plan.outcome = .error fault := by
  unfold answer at failed
  cases planned : database.plan now command with
  | error other =>
      simp only [planned] at failed
      exact .inl (congrArg _ (Except.error.inj failed))
  | ok plan =>
      simp only [planned] at failed
      exact .inr ⟨plan, rfl, failed⟩

theorem find_fault (failed : database.find name = .error fault) : fault = .noTable name := by
  unfold find at failed
  split at failed
  · cases failed
  · exact (Except.error.inj failed).symm

theorem create_fault {action : Action} {contents : Contents}
    (plans : database.plan now (.run action) = database.create name contents)
    (failed : (database.answer now (.run action)).1 = .error fault) : fault.names = [name] := by
  rcases answer_fault failed with unplanned | ⟨plan, planned, failed⟩
  · rw [plans] at unplanned
    unfold create at unplanned
    repeat' split at unplanned
    all_goals cases unplanned
    · rfl
    · rfl
  · rw [plans] at planned
    unfold create at planned
    repeat' split at planned
    all_goals cases planned
    all_goals cases failed

theorem bound_fault {claim : Claim} (failed : database.bound claim = .error fault) :
    fault = .noTable claim.table := by
  unfold bound at failed
  cases found : database.find claim.table with
  | error other =>
      simp only [found] at failed
      cases failed
      exact find_fault found
  | ok table =>
      simp only [found] at failed
      split at failed <;> cases failed

theorem onCursors_fault {action : Action} {column : String}
    {change : List CursorRow → List CursorRow}
    (plans : database.plan now (.run action) = database.onCursors name column change)
    (failed : (database.answer now (.run action)).1 = .error fault) :
    fault = .noTable name ∨ fault = .noColumn name column := by
  rcases answer_fault failed with unplanned | ⟨plan, planned, failed⟩
  · rw [plans] at unplanned
    simp only [onCursors, bind, Except.bind, pure, Except.pure] at unplanned
    cases found : database.find name with
    | error other =>
        simp only [found] at unplanned
        cases unplanned
        exact .inl (find_fault found)
    | ok table =>
        simp only [found] at unplanned
        split at unplanned
        · exact .inr (Except.error.inj unplanned).symm
        · cases unplanned
  · rw [plans] at planned
    simp only [onCursors, bind, Except.bind, pure, Except.pure] at planned
    repeat' split at planned
    all_goals cases planned
    cases failed

theorem onLog_built {column : String} {change : Table → Log → Plan} {plan : Plan}
    (planned : database.onLog name column change = .ok plan) :
    ∃ table log, database.find name = .ok table ∧ table.contents = .log log ∧
      plan = change table log := by
  simp only [onLog, bind, Except.bind, pure, Except.pure] at planned
  cases found : database.find name with
  | error fault => simp [found] at planned
  | ok table =>
      cases held : table.contents with
      | cursors rows => simp [found, held] at planned
      | log log =>
          simp only [found, held] at planned
          exact ⟨table, log, rfl, held, (Except.ok.inj planned).symm⟩

theorem append_fault (arranged : database.Arranged) {records : List Record}
    (failed : (database.answer now (.run (.append name records))).1 = .error fault) :
    fault = .noTable name ∨ fault = .noColumn name "uuid" ∨ fault = .full := by
  rcases answer_fault failed with unplanned | ⟨plan, planned, failed⟩
  · simp only [plan, planAction, append, onLog, bind, Except.bind, pure, Except.pure] at unplanned
    cases found : database.find name with
    | error other =>
        simp only [found] at unplanned
        cases unplanned
        exact .inl (find_fault found)
    | ok table =>
        simp only [found] at unplanned
        split at unplanned
        · cases unplanned
        · exact .inr (.inl (Except.error.inj unplanned).symm)
  · obtain ⟨table, log, found, held, rfl⟩ := onLog_built planned
    have inside := arranged.find found
    rw [held] at inside
    cases appended : log.append table.name now records with
    | error other =>
        simp only [appended] at failed
        cases failed
        exact .inr (.inr (Log.append_fault inside appended))
    | ok grown =>
        simp only [appended] at failed
        cases failed

theorem fetch_fault {claim : Claim} {limit : Nat}
    (failed : (database.answer now (.run (.fetch name claim limit))).1 = .error fault) :
    fault = .noTable name ∨ fault = .noTable claim.table ∨ fault = .mismatch := by
  rcases answer_fault failed with unplanned | ⟨plan, planned, failed⟩
  · simp only [plan, planAction, fetch, bind, Except.bind, pure, Except.pure] at unplanned
    cases found : database.find name with
    | error other =>
        simp only [found] at unplanned
        cases unplanned
        exact .inl (find_fault found)
    | ok table =>
        simp only [found] at unplanned
        cases bounded : database.bound claim with
        | error other =>
            simp only [bounded] at unplanned
            cases unplanned
            exact .inr (.inl (bound_fault bounded))
        | ok bound =>
            simp only [bounded] at unplanned
            split at unplanned <;> cases unplanned
  · simp only [Database.plan, planAction, fetch, bind, Except.bind, pure, Except.pure] at planned
    repeat' split at planned
    all_goals cases planned
    · exact .inr (.inr (Except.error.inj failed).symm)
    · cases failed

theorem claim_fault {claim : Claim}
    (failed : (database.answer now (.run (.claim claim))).1 = .error fault) :
    fault = .noTable claim.table := by
  rcases answer_fault failed with unplanned | ⟨plan, planned, failed⟩
  · simp only [plan, planAction] at unplanned
    cases bounded : database.bound claim with
    | error other =>
        rw [bounded] at unplanned
        cases unplanned
        exact bound_fault bounded
    | ok bound =>
        rw [bounded] at unplanned
        cases unplanned
  · simp only [Database.plan, planAction] at planned
    cases bounded : database.bound claim with
    | error other =>
        rw [bounded] at planned
        cases planned
    | ok bound =>
        rw [bounded] at planned
        cases planned
        cases failed

end Database

/-- A statement on the tables of a topic is reported on with their names only. -/
theorem Names.Uses.mentions {names : Names} {topic : String} {database : Database}
    {now : Timestamp} {action : Action} {fault : Fault} (uses : names.Uses topic action)
    (arranged : database.Arranged) (failed : (database.answer now (.run action)).1 = .error fault) :
    names.Mentions topic fault := by
  cases action with
  | createLog table =>
      obtain rfl : table = _ := uses
      simp [Mentions, Database.create_fault rfl failed]
  | createCursors table =>
      obtain rfl : table = _ := uses
      simp [Mentions, Database.create_fault rfl failed]
  | append table records =>
      obtain rfl : table = _ := uses
      rcases Database.append_fault arranged failed with rfl | rfl | rfl <;> simp [Mentions, Fault.names]
  | fetch table claim limit =>
      obtain ⟨rfl, cursors⟩ : table = _ ∧ claim.table = _ := uses
      rcases Database.fetch_fault failed with rfl | rfl | rfl <;>
        simp [Mentions, Fault.names, cursors]
  | claim claim =>
      have cursors : claim.table = _ := uses
      simp [Mentions, Database.claim_fault failed, Fault.names, cursors]
  | markConsumed table group offset =>
      obtain rfl : table = _ := uses
      rcases Database.onCursors_fault rfl failed with rfl | rfl <;> simp [Mentions, Fault.names]
  | acknowledge table group offset =>
      obtain rfl : table = _ := uses
      rcases Database.onCursors_fault rfl failed with rfl | rfl <;> simp [Mentions, Fault.names]
  | _ => cases uses

end TopicLog
