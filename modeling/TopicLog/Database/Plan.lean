import TopicLog.Database

/-!
What a statement does to a database that it sees. Some faults show before a statement starts: its
names are looked up first. The others show while it runs, which is after the locks it needs were
taken. A quoted name that is no column of the table stands for itself as text, so a selection from a
table of the other kind succeeds.
-/
namespace TopicLog

/-- What can be asked of a database: a statement, or direct access to the rows of a table. -/
inductive Command where
  | run (action : Action)
  | insertRow (table : String) (draft : LogDraft)
  | deleteRow (table : String) (offset : Int)
  | dropTable (table : String)
  | putCursor (table : String) (row : CursorRow)
  | listCursors (table : String)
  | listNames

structure Effect where
  after : Database
  rows : List (List Value) := []
  affected : Nat := 0
  /-- Whether anything was written, be it the same as before. -/
  changed : Bool := false

/-- A statement that found all it names. -/
structure Plan where
  writes : Bool
  outcome : Except Fault Effect

namespace Plan

def read (database : Database) (rows : List (List Value)) : Plan :=
  ⟨false, .ok { after := database, rows }⟩

def write (after : Database) (affected : Nat) (changed : Bool) : Plan :=
  ⟨true, .ok { after, affected, changed }⟩

end Plan

namespace Database

def find (database : Database) (name : String) : Except Fault Table :=
  match database.table? name with
  | some table => .ok table
  | none => .error (.noTable name)

def create (database : Database) (name : String) (contents : Contents) : Except Fault Plan :=
  if isReserved name then .error (.reservedName name)
  else if (database.table? name).isSome then .ok (.read database [])
  else if (database.index? name).isSome then .error (.indexNamed name)
  else .ok (.write (database.addTable ⟨name, contents⟩) 0 true)

def createIndex (database : Database) (name table : String) : Except Fault Plan :=
  match database.table? table with
  | none => .error (.noTable ("main." ++ table))
  | some _ =>
      if isReserved name then .error (.reservedName name)
      else if (database.table? name).isSome then .error (.tableNamed name)
      else if (database.index? name).isSome then .ok (.read database [])
      else .ok (.write (database.addIndex ⟨name, table⟩) 0 true)

/-- The value of a bound in the table that it names. -/
def bound (database : Database) (claim : Claim) : Except Fault Value :=
  match database.find claim.table with
  | .error fault => .error fault
  | .ok table => match table.contents with
    | .cursors rows => .ok (Cursors.bound claim.group rows)
    | .log log =>
        .ok (if claim.group = "consumer_group" ∧ log.rows ≠ [] then .text "offset_acked"
          else .int 0)

def fetched (contents : Contents) (bound : Value) (limit : Nat) : List (List Value) :=
  match contents with
  | .log log => (log.after bound limit).map Log.columns
  | .cursors rows =>
      if bound.belowText "offset" then
        (rows.take limit).map fun _ =>
          [.text "offset", .text "uuid", .text "created_at", .text "payload", .text "metadata"]
      else []

def fetch (database : Database) (name : String) (claim : Claim) (limit : Nat) :
    Except Fault Plan := do
  let table ← database.find name
  let bound ← database.bound claim
  if Value.greatestInteger < limit then return ⟨false, .error .mismatch⟩
  return .read database (fetched table.contents bound limit)

/-- Changes the rows of a log; `column` is the one that a table of cursors lacks. -/
def onLog (database : Database) (name column : String) (change : Table → Log → Plan) :
    Except Fault Plan := do
  let table ← database.find name
  match table.contents with
  | .log log => return change table log
  | .cursors _ => .error (.noColumn name column)

def onCursors (database : Database) (name column : String)
    (change : List CursorRow → List CursorRow) : Except Fault Plan := do
  let table ← database.find name
  match table.contents with
  | .log _ => .error (.noColumn name column)
  | .cursors rows =>
      return .write (database.put name (.cursors (change rows))) 1 (change rows ≠ rows)

def append (database : Database) (now : Timestamp) (name : String) (records : List Record) :
    Except Fault Plan :=
  database.onLog name "uuid" fun table log =>
    ⟨true, match log.append table.name now records with
      | .ok log => .ok
          { after := database.put name (.log log), affected := records.length, changed := true }
      | .error fault => .error fault⟩

def startAt (database : Database) (name group : String) (offset : Int) : Except Fault Plan :=
  database.onCursors name "consumer_group" fun rows =>
    if (Cursors.find? group rows).isSome then rows
    else rows ++ [⟨.text group, .int offset, .int offset⟩]

def clear (database : Database) (name : String) : Except Fault Plan := do
  let table ← database.find name
  match table.contents with
  | .log log =>
      return .write (database.put name (.log { log with rows := [] })) log.rows.length true
  | .cursors rows => return .write (database.put name (.cursors [])) rows.length true

def planAction (database : Database) (now : Timestamp) : Action → Except Fault Plan
  | .createLog table => database.create table (.log {})
  | .createCursors table => database.create table (.cursors [])
  | .createIndex index table => database.createIndex index table
  | .append table records => database.append now table records
  | .fetch table bound limit => database.fetch table bound limit
  | .claim claim => (database.bound claim).map fun bound => .read database [[bound]]
  | .markConsumed table group offset =>
      database.onCursors table "offset_consumed" (Cursors.mark group offset)
  | .acknowledge table group offset =>
      database.onCursors table "offset_consumed" (Cursors.acknowledge group offset)
  | .startAt table group offset => database.startAt table group offset
  | .clear table => database.clear table

def firstColumn? (draft : LogDraft) : Option String :=
  if draft.offset.isSome then some "offset"
  else if draft.uuid.isSome then some "uuid"
  else if draft.createdAt.isSome then some "created_at"
  else if draft.payload.isSome then some "payload"
  else if draft.metadata.isSome then some "metadata"
  else none

def insertRow (database : Database) (now : Timestamp) (name : String) (draft : LogDraft) :
    Except Fault Plan :=
  match firstColumn? draft with
  | none => .error .noColumns
  | some column =>
      database.onLog name column fun table log =>
        ⟨true, match log.insert table.name now draft with
          | .ok log => .ok
              { after := database.put name (.log log), affected := 1, changed := true }
          | .error fault => .error fault⟩

def deleteRow (database : Database) (name : String) (offset : Int) : Except Fault Plan := do
  let table ← database.find name
  match table.contents with
  | .cursors _ => return .write database 0 false
  | .log log =>
      let kept := log.rows.filter fun row => row.offset ≠ offset
      let affected := log.rows.length - kept.length
      return .write (database.put name (.log { log with rows := kept })) affected (affected ≠ 0)

/-- A row of cursors after the affinities of its columns. -/
def CursorRow.stored (row : CursorRow) : CursorRow :=
  ⟨row.group.inTextColumn, row.acked.inIntegerColumn, row.consumed.inIntegerColumn⟩

def putCursor (database : Database) (name : String) (row : CursorRow) : Except Fault Plan := do
  let table ← database.find name
  match table.contents with
  | .log _ => .error (.noColumn name "consumer_group")
  | .cursors rows =>
      let row := CursorRow.stored row
      if row.group = .null then
        return ⟨true, .error (.notNull table.name "consumer_group")⟩
      if row.consumed = .null then
        return ⟨true, .error (.notNull table.name "offset_consumed")⟩
      let others := rows.filter fun other => other.group ≠ row.group
      return .write (database.put name (.cursors (others ++ [row]))) 1 true

def listCursors (database : Database) (name : String) : Except Fault Plan := do
  let table ← database.find name
  return .read database <| match table.contents with
    | .cursors rows => rows.map fun row => [row.group, row.acked, row.consumed]
    | .log log => log.rows.map fun _ =>
        [.text "consumer_group", .text "offset_acked", .text "offset_consumed"]

def listNames (database : Database) : Plan :=
  .read database <|
    database.tables.map (fun table => [.text "table", .text table.name]) ++
    database.indexes.map fun index => [.text "index", .text index.name]

def plan (database : Database) (now : Timestamp) : Command → Except Fault Plan
  | .run action => database.planAction now action
  | .insertRow table draft => database.insertRow now table draft
  | .deleteRow table offset => database.deleteRow table offset
  | .dropTable table =>
      (database.find table).map fun _ => .write (database.dropTable table) 0 true
  | .putCursor table row => database.putCursor table row
  | .listCursors table => database.listCursors table
  | .listNames => .ok database.listNames

end Database
end TopicLog
