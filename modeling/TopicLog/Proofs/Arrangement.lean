import TopicLog.Proofs.LogOrder
import TopicLog.Proofs.Tables
import TopicLog.Proofs.Ways

/-!
Every log that a storage knows is arranged: its rows stand in the order of their offsets, and none has
an offset above the largest ever used. No statement and no direct access to rows changes that, and so no
step of a transaction does.
-/
namespace TopicLog

def Contents.Arranged : Contents → Prop
  | .log kept => kept.Arranged
  | .cursors _ => True

instance (contents : Contents) : Decidable contents.Arranged :=
  match contents with
  | .log kept => decidable_of_iff
      ((kept.rows.Pairwise fun a b => a.offset < b.offset) ∧ ∀ row ∈ kept.rows, row.offset ≤ kept.last)
      ⟨fun ⟨ascending, used⟩ => ⟨ascending, used⟩, fun ⟨ascending, used⟩ => ⟨ascending, used⟩⟩
  | .cursors _ => .isTrue trivial

namespace Database

def Arranged (database : Database) : Prop := ∀ table ∈ database.tables, table.contents.Arranged

instance (database : Database) : Decidable database.Arranged :=
  inferInstanceAs (Decidable (∀ table ∈ database.tables, table.contents.Arranged))

variable {database : Database} {name : String}

theorem Arranged.empty : Arranged {} := by simp [Arranged]

theorem Arranged.put (arranged : database.Arranged) {contents : Contents}
    (new : contents.Arranged) : (database.put name contents).Arranged := by
  intro table member
  obtain ⟨old, inside, rfl⟩ := List.mem_map.mp member
  split
  · exact new
  · exact arranged old inside

theorem Arranged.putLog (arranged : database.Arranged) {log : Log} (new : log.Arranged) :
    (database.put name (.log log)).Arranged := arranged.put new

theorem Arranged.putCursors (arranged : database.Arranged) (rows : List CursorRow) :
    (database.put name (.cursors rows)).Arranged := arranged.put trivial

theorem Arranged.addTable (arranged : database.Arranged) {table : Table}
    (new : table.contents.Arranged) : (database.addTable table).Arranged := by
  intro other member
  rcases List.mem_append.mp member with old | isNew
  · exact arranged other old
  · exact List.mem_singleton.mp isNew ▸ new

theorem Arranged.addIndex (arranged : database.Arranged) {index : Index} :
    (database.addIndex index).Arranged := arranged

theorem Arranged.dropTable (arranged : database.Arranged) : (database.dropTable name).Arranged :=
  fun table member => arranged table (List.mem_filter.mp member).1

theorem Arranged.find (arranged : database.Arranged) {table : Table}
    (found : database.find name = .ok table) : table.contents.Arranged := by
  unfold Database.find table? at found
  split at found
  · rename_i inside
    cases found
    exact arranged table (List.mem_of_find?_eq_some inside)
  · cases found

theorem Arranged.contents (arranged : database.Arranged) {contents : Contents}
    (holds : database.contents? name = some contents) : contents.Arranged := by
  obtain ⟨table, found, rfl⟩ := find_of_contents holds
  exact arranged.find found

end Database

def Plan.Arranged (plan : Plan) : Prop :=
  ∀ effect, plan.outcome = .ok effect → effect.after.Arranged

namespace Database

variable {database : Database} {name : String} {plan : Plan}

theorem arranged_read (arranged : database.Arranged) (rows : List (List Value)) :
    (Plan.read database rows).Arranged := by
  intro effect outcome
  cases outcome
  exact arranged

theorem arranged_write (arranged : database.Arranged) (affected : Nat) (changed : Bool) :
    (Plan.write database affected changed).Arranged := by
  intro effect outcome
  cases outcome
  exact arranged

theorem arranged_create (arranged : database.Arranged) (contents : Contents)
    (new : contents.Arranged) (planned : database.create name contents = .ok plan) :
    plan.Arranged := by
  unfold create at planned
  repeat' split at planned
  all_goals cases planned
  · exact arranged_read arranged []
  · exact arranged_write (arranged.addTable new) 0 true

theorem arranged_createLog (arranged : database.Arranged)
    (planned : database.create name (.log {}) = .ok plan) : plan.Arranged :=
  arranged_create arranged (.log {}) Log.arranged_empty planned

theorem arranged_createCursors (arranged : database.Arranged)
    (planned : database.create name (.cursors []) = .ok plan) : plan.Arranged :=
  arranged_create arranged (.cursors []) trivial planned

theorem arranged_createIndex (arranged : database.Arranged) {table : String}
    (planned : database.createIndex name table = .ok plan) : plan.Arranged := by
  unfold createIndex at planned
  repeat' split at planned
  all_goals cases planned
  · exact arranged_read arranged []
  · exact arranged_write arranged.addIndex 0 true

theorem arranged_fetch (arranged : database.Arranged) {claim : Claim} {limit : Nat}
    (planned : database.fetch name claim limit = .ok plan) : plan.Arranged := by
  simp only [fetch, bind, Except.bind, pure, Except.pure] at planned
  repeat' split at planned
  all_goals cases planned
  · intro effect outcome
    cases outcome
  · exact arranged_read arranged _

theorem arranged_onLog {column : String} {change : Table → Log → Plan} (arranged : database.Arranged)
    (changes : ∀ table log, log.Arranged → (change table log).Arranged)
    (planned : database.onLog name column change = .ok plan) : plan.Arranged := by
  simp only [onLog, bind, Except.bind, pure, Except.pure] at planned
  split at planned
  · cases planned
  · rename_i table found
    have inside := arranged.find found
    split at planned
    · rename_i log holds
      cases planned
      rw [holds] at inside
      exact changes table log inside
    · cases planned

theorem arranged_onCursors {column : String} {change : List CursorRow → List CursorRow}
    (arranged : database.Arranged)
    (planned : database.onCursors name column change = .ok plan) : plan.Arranged := by
  simp only [onCursors, bind, Except.bind, pure, Except.pure] at planned
  repeat' split at planned
  all_goals cases planned
  exact arranged_write (arranged.putCursors _) 1 _

theorem arranged_append {now : Timestamp} {records : List Record} (arranged : database.Arranged)
    (planned : database.append now name records = .ok plan) : plan.Arranged := by
  refine arranged_onLog arranged (fun table log inside effect outcome => ?_) planned
  dsimp only at outcome
  split at outcome
  · rename_i after appended
    cases outcome
    exact arranged.putLog (Log.append_extends inside appended).1
  · cases outcome

theorem arranged_insertRow {now : Timestamp} {draft : LogDraft} (arranged : database.Arranged)
    (planned : database.insertRow now name draft = .ok plan) : plan.Arranged := by
  unfold insertRow at planned
  split at planned
  · cases planned
  · refine arranged_onLog arranged (fun table log inside effect outcome => ?_) planned
    dsimp only at outcome
    split at outcome
    · rename_i after inserted
      cases outcome
      exact arranged.putLog (Log.insert_arranged inside inserted)
    · cases outcome

theorem arranged_clear (arranged : database.Arranged)
    (planned : database.clear name = .ok plan) : plan.Arranged := by
  simp only [clear, bind, Except.bind, pure, Except.pure] at planned
  repeat' split at planned
  all_goals cases planned
  · exact arranged_write (arranged.putLog ⟨.nil, by simp⟩) _ true
  · exact arranged_write (arranged.putCursors _) _ true

theorem arranged_deleteRow {offset : Int} (arranged : database.Arranged)
    (planned : database.deleteRow name offset = .ok plan) : plan.Arranged := by
  simp only [deleteRow, bind, Except.bind, pure, Except.pure] at planned
  split at planned
  · cases planned
  · rename_i table found
    have inside := arranged.find found
    split at planned
    · cases planned
      exact arranged_write arranged 0 false
    · rename_i log holds
      cases planned
      rw [holds] at inside
      exact arranged_write (arranged.putLog (Log.arranged_filter inside _)) _ _

theorem arranged_putCursor {row : CursorRow} (arranged : database.Arranged)
    (planned : database.putCursor name row = .ok plan) : plan.Arranged := by
  simp only [putCursor, bind, Except.bind, pure, Except.pure] at planned
  repeat' split at planned
  all_goals cases planned
  · nofun
  · nofun
  · exact arranged_write (arranged.putCursors _) 1 true

theorem arranged_plan (arranged : database.Arranged) {now : Timestamp} {command : Command}
    (planned : database.plan now command = .ok plan) : plan.Arranged := by
  cases command with
  | run action =>
      cases action with
      | createLog table => exact arranged_createLog arranged planned
      | createCursors table => exact arranged_createCursors arranged planned
      | createIndex index table => exact arranged_createIndex arranged planned
      | append table records => exact arranged_append arranged planned
      | fetch table claim limit => exact arranged_fetch arranged planned
      | claim claim =>
          simp only [Database.plan, planAction] at planned
          cases bounded : database.bound claim with
          | error fault =>
              rw [bounded] at planned
              cases planned
          | ok bound =>
              rw [bounded] at planned
              cases planned
              exact arranged_read arranged _
      | markConsumed table group offset => exact arranged_onCursors arranged planned
      | acknowledge table group offset => exact arranged_onCursors arranged planned
      | startAt table group offset => exact arranged_onCursors arranged planned
      | clear table => exact arranged_clear arranged planned
  | insertRow table draft => exact arranged_insertRow arranged planned
  | deleteRow table offset => exact arranged_deleteRow arranged planned
  | dropTable table =>
      simp only [Database.plan] at planned
      cases found : database.find table with
      | error fault =>
          rw [found] at planned
          cases planned
      | ok inside =>
          rw [found] at planned
          cases planned
          exact arranged_write arranged.dropTable 0 true
  | putCursor table row => exact arranged_putCursor arranged planned
  | listCursors table =>
      simp only [Database.plan, listCursors, bind, Except.bind, pure, Except.pure] at planned
      split at planned
      · cases planned
      · cases planned
        exact arranged_read arranged _
  | listNames =>
      cases planned
      exact arranged_read arranged _

end Database

theorem Database.arranged_leaves {view : Database} {plan : Plan} {now : Timestamp}
    {command : Command} (arranged : view.Arranged)
    (planned : view.plan now command = .ok plan) : (Storage.leaves view plan).after.Arranged := by
  unfold Storage.leaves
  split
  · rename_i effect outcome
    exact arranged_plan arranged planned effect outcome
  · exact arranged

namespace Storage

/-- All logs are arranged that are committed or seen by an open transaction. -/
abbrev Arranged (storage : Storage) : Prop := storage.Everywhere Database.Arranged

theorem arranged_empty (clock : Timestamp) : Arranged { clock } :=
  ⟨Database.Arranged.empty, by simp⟩

end Storage

theorem Script.runs_all {α : Type} (script : Script α) : script.Runs fun _ => True := by
  induction script with
  | done result => trivial
  | execute command next ih => exact ⟨trivial, ih⟩
  | hand delivery next ih => exact ih
  | commit next ih => exact ih
  | rollback next ih => exact ih

theorem Script.run_arranged {α σ : Type} {handler : Handler σ} {handle : Handle}
    (script : Script α) (state : σ) {storage : Storage} (arranged : storage.Arranged) :
    (script.run handler handle state storage).2.2.Arranged :=
  script.run_everywhere (fun _ _ _ _ _ inside planned => Database.arranged_leaves inside planned)
    script.runs_all state arranged

theorem Subscriber.poll_arranged {σ : Type} (subscriber : Subscriber) (topic : String)
    (handler : Handler σ) (state : σ) {storage : Storage} (arranged : storage.Arranged) :
    (subscriber.poll topic handler state storage).2.2.Arranged := by
  unfold Subscriber.poll
  cases subscriber.pollScript? topic with
  | error failure => exact arranged
  | ok script =>
      exact script.run_arranged state ⟨arranged.begin.committed, arranged.begin.held⟩

end TopicLog
