import TopicLog.Database.Plan

/-!
What the tables of a database hold, by name, and what the statements of a topic do to them. A
statement on one table leaves every table of another name as it is.
-/
namespace TopicLog

theorem sameName_iff (a b : String) :
    sameName a b = true ↔ a.toList.map Char.toLower = b.toList.map Char.toLower := by
  simp [sameName]

theorem sameName_refl (a : String) : sameName a a = true := (sameName_iff a a).mpr rfl

theorem sameName_symm {a b : String} (same : sameName a b = true) : sameName b a = true :=
  (sameName_iff b a).mpr ((sameName_iff a b).mp same).symm

theorem sameName_comm (a b : String) : sameName a b = sameName b a := by
  rw [Bool.eq_iff_iff]
  exact ⟨sameName_symm, sameName_symm⟩

theorem sameName_trans {a b c : String} (first : sameName a b = true)
    (second : sameName b c = true) : sameName a c = true :=
  (sameName_iff a c).mpr (((sameName_iff a b).mp first).trans ((sameName_iff b c).mp second))

namespace Database

def contents? (database : Database) (name : String) : Option Contents :=
  (database.table? name).map Table.contents

/-- The log in the table of a name; an empty one if there is none. -/
def logOf (database : Database) (name : String) : Log :=
  match database.contents? name with
  | some (.log log) => log
  | _ => {}

/-- The cursors in the table of a name; none if it is no table of cursors. -/
def cursorsOf (database : Database) (name : String) : List CursorRow :=
  match database.contents? name with
  | some (.cursors rows) => rows
  | _ => []

variable {database : Database} {name other : String}

theorem logOf_eq {log : Log} (holds : database.contents? name = some (.log log)) :
    database.logOf name = log := by simp [logOf, holds]

theorem cursorsOf_eq {rows : List CursorRow}
    (holds : database.contents? name = some (.cursors rows)) :
    database.cursorsOf name = rows := by simp [cursorsOf, holds]

theorem table_name {table : Table} (found : database.table? name = some table) :
    sameName table.name name = true := by
  simpa using List.find?_some found

theorem table_of_sameName (database : Database) (same : sameName name other = true) :
    database.table? name = database.table? other := by
  unfold table?
  congr 1
  funext table
  rw [Bool.eq_iff_iff]
  constructor
  · intro hit
    exact sameName_trans hit same
  · intro hit
    exact sameName_trans hit (sameName_symm same)

theorem contents_put (contents : Contents) :
    (database.put name contents).contents? other =
      if sameName name other then (database.contents? other).map fun _ => contents
      else database.contents? other := by
  have found : (database.put name contents).table? other =
      (database.table? other).map fun table =>
        if sameName table.name name then { table with contents } else table := by
    unfold put table?
    rw [List.find?_map]
    congr 2
    funext table
    by_cases same : sameName table.name name <;> simp [same]
  rw [contents?, found]
  cases inside : database.table? other with
  | none => simp [contents?, inside]
  | some table =>
      have named := table_name inside
      by_cases same : sameName name other = true
      · have hit : sameName table.name name = true := sameName_trans named (sameName_symm same)
        simp [contents?, inside, same, hit]
      · have miss : ¬ sameName table.name name = true := fun hit =>
          same (sameName_trans (sameName_symm hit) named)
        simp [contents?, inside, same, miss]

theorem contents_put_self (contents : Contents) :
    (database.put name contents).contents? name =
      (database.contents? name).map fun _ => contents := by
  simp [contents_put, sameName_refl]

theorem contents_put_held {held : Contents} (contents : Contents)
    (holds : database.contents? name = some held) :
    (database.put name contents).contents? name = some contents := by
  rw [contents_put_self, holds]
  rfl

theorem contents_put_other (database : Database) (contents : Contents)
    (apart : sameName name other = false) :
    (database.put name contents).contents? other = database.contents? other := by
  simp [contents_put, apart]

theorem put_put (database : Database) (name : String) (earlier contents : Contents) :
    (database.put name earlier).put name contents = database.put name contents := by
  unfold put
  simp only [List.map_map]
  congr 1
  apply List.map_congr_left
  intro table _
  by_cases same : sameName table.name name = true <;> simp [same]

theorem contents_addTable (table : Table) :
    (database.addTable table).contents? other =
      (database.contents? other).or
        (if sameName table.name other then some table.contents else none) := by
  by_cases same : sameName table.name other = true <;>
    cases inside : database.tables.find? (fun table => sameName table.name other) <;>
    simp [contents?, addTable, table?, same, inside]

theorem find_of_contents {contents : Contents} (holds : database.contents? name = some contents) :
    ∃ table, database.find name = .ok table ∧ table.contents = contents := by
  cases found : database.table? name with
  | none => simp [contents?, found] at holds
  | some table => exact ⟨table, by simp [find, found], by simpa [contents?, found] using holds⟩

theorem find_of_missing (missing : database.contents? name = none) :
    database.find name = .error (.noTable name) := by
  have absent : database.table? name = none := by simpa [contents?] using missing
  simp [find, absent]

theorem bound_of_cursors (claim : Claim) {rows : List CursorRow}
    (holds : database.contents? claim.table = some (.cursors rows)) :
    database.bound claim = .ok (Cursors.bound claim.group rows) := by
  obtain ⟨table, found, inside⟩ := find_of_contents holds
  simp [bound, found, inside]

theorem bound_of_missing (claim : Claim) (missing : database.contents? claim.table = none) :
    database.bound claim = .error (.noTable claim.table) := by
  simp [bound, find_of_missing missing]

theorem onCursors_of_cursors {rows : List CursorRow} {column : String}
    {change : List CursorRow → List CursorRow}
    (holds : database.contents? name = some (.cursors rows)) :
    database.onCursors name column change =
      .ok (.write (database.put name (.cursors (change rows))) 1 (change rows ≠ rows)) := by
  obtain ⟨table, found, inside⟩ := find_of_contents holds
  simp [onCursors, found, inside, bind, Except.bind, pure, Except.pure]

theorem onCursors_planned {column : String} {change : List CursorRow → List CursorRow} {plan : Plan}
    (planned : database.onCursors name column change = .ok plan) :
    ∃ rows, database.contents? name = some (.cursors rows) ∧
      plan = .write (database.put name (.cursors (change rows))) 1 (change rows ≠ rows) := by
  cases held : database.contents? name with
  | none => simp [onCursors, find_of_missing held, bind, Except.bind] at planned
  | some contents =>
      cases contents with
      | log log =>
          obtain ⟨table, found, inside⟩ := find_of_contents held
          simp [onCursors, found, inside, bind, Except.bind] at planned
      | cursors rows =>
          cases (onCursors_of_cursors held).symm.trans planned
          exact ⟨rows, rfl, rfl⟩

theorem onCursors_of_missing {column : String} {change : List CursorRow → List CursorRow}
    (missing : database.contents? name = none) :
    database.onCursors name column change = .error (.noTable name) := by
  simp [onCursors, find_of_missing missing, bind, Except.bind]

theorem append_of_log {log : Log} (now : Timestamp) (records : List Record)
    (holds : database.contents? name = some (.log log)) :
    ∃ table, database.append now name records = .ok ⟨true,
      (log.append table now records).map fun log =>
        { after := database.put name (.log log), affected := records.length, changed := true }⟩ := by
  obtain ⟨table, found, inside⟩ := find_of_contents holds
  refine ⟨table.name, ?_⟩
  simp only [append, onLog, found, inside, bind, Except.bind, pure, Except.pure]
  cases log.append table.name now records <;> rfl

theorem append_of_missing {now : Timestamp} {records : List Record}
    (missing : database.contents? name = none) :
    database.append now name records = .error (.noTable name) := by
  simp [append, onLog, find_of_missing missing, bind, Except.bind]

theorem fetch_of_bound {log : Log} {claim : Claim} {value : Value} (limit : Nat)
    (messages : database.contents? name = some (.log log))
    (bounded : database.bound claim = .ok value) :
    database.fetch name claim limit = .ok
      (if Value.greatestInteger < limit then ⟨false, .error .mismatch⟩
        else .read database ((log.after value limit).map Log.columns)) := by
  obtain ⟨table, found, inside⟩ := find_of_contents messages
  by_cases large : Value.greatestInteger < limit <;>
    simp [fetch, found, inside, bounded, fetched, large, bind, Except.bind, pure, Except.pure]

theorem fetch_of_log {log : Log} {rows : List CursorRow} (claim : Claim) (limit : Nat)
    (messages : database.contents? name = some (.log log))
    (cursors : database.contents? claim.table = some (.cursors rows)) :
    database.fetch name claim limit = .ok
      (if Value.greatestInteger < limit then ⟨false, .error .mismatch⟩
        else .read database ((log.after (Cursors.bound claim.group rows) limit).map
          Log.columns)) :=
  fetch_of_bound limit messages (bound_of_cursors claim cursors)

theorem fetch_unwritten {claim : Claim} {limit : Nat} {plan : Plan}
    (planned : database.fetch name claim limit = .ok plan) : plan.writes = false := by
  simp only [fetch, bind, Except.bind, pure, Except.pure] at planned
  repeat' split at planned
  all_goals cases planned
  all_goals rfl

theorem claim_unwritten (now : Timestamp) {claim : Claim} {plan : Plan}
    (planned : database.planAction now (.claim claim) = .ok plan) : plan.writes = false := by
  simp only [planAction] at planned
  cases bounded : database.bound claim with
  | error fault =>
      rw [bounded] at planned
      cases planned
  | ok bound =>
      rw [bounded] at planned
      cases planned
      rfl

theorem fetch_of_missing {claim : Claim} {limit : Nat}
    (missing : database.contents? name = none ∨ database.contents? claim.table = none) :
    ∃ fault, database.fetch name claim limit = .error fault := by
  cases found : database.find name with
  | error fault => exact ⟨fault, by simp [fetch, found, bind, Except.bind]⟩
  | ok table =>
      rcases missing with none | none
      · simp [find_of_missing none] at found
      · exact ⟨_, by simp [fetch, found, bound_of_missing claim none, bind, Except.bind]; rfl⟩

end Database
end TopicLog
