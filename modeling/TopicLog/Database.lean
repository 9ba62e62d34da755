import TopicLog.Statement
import TopicLog.Timestamp

/-!
The contents of a database: tables of messages, tables of cursors, and indexes. Names of tables and
indexes are compared without regard to ASCII case and share one name space. The rows of a log stand
in ascending order of their offsets, and a log remembers the largest offset that it ever used.
-/
namespace TopicLog

structure LogRow where
  offset : Int
  uuid : Value
  createdAt : Value
  payload : Value
  metadata : Value
  deriving DecidableEq

structure Log where
  rows : List LogRow := []
  /-- The largest offset ever used, and at least zero. -/
  last : Int := 0
  deriving DecidableEq

structure CursorRow where
  group : Value
  acked : Value
  consumed : Value
  deriving DecidableEq

inductive Contents where
  | log (log : Log)
  | cursors (rows : List CursorRow)
  deriving DecidableEq

structure Table where
  name : String
  contents : Contents
  deriving DecidableEq

structure Index where
  name : String
  table : String
  deriving DecidableEq

structure Database where
  tables : List Table := []
  indexes : List Index := []
  deriving DecidableEq

inductive Fault where
  | noTable (name : String)
  | noColumn (table column : String)
  /-- The name begins like those that the database keeps for itself. -/
  | reservedName (name : String)
  | tableNamed (name : String)
  | indexNamed (name : String)
  | noColumns
  | notNull (table column : String)
  | duplicateOffset (table : String)
  /-- An offset or a limit that is no integer. -/
  | mismatch
  | full
  | locked
  /-- Something was committed since the transaction took its snapshot. -/
  | outdated
  deriving DecidableEq, Repr

namespace Fault

def code : Fault → Nat
  | .noTable _ | .noColumn _ _ | .reservedName _ | .tableNamed _ | .indexNamed _ | .noColumns => 1
  | .notNull _ _ => 1299
  | .duplicateOffset _ => 1555
  | .mismatch => 20
  | .full => 13
  | .locked => 5
  | .outdated => 517

def text : Fault → String
  | .noTable name => "no such table: " ++ name
  | .noColumn table column => "table " ++ table ++ " has no column named " ++ column
  | .reservedName name => "object name reserved for internal use: " ++ name
  | .tableNamed name => "there is already a table named " ++ name
  | .indexNamed name => "there is already an index named " ++ name
  | .noColumns => "near \")\": syntax error"
  | .notNull table column => "NOT NULL constraint failed: " ++ table ++ "." ++ column
  | .duplicateOffset table => "UNIQUE constraint failed: " ++ table ++ ".offset"
  | .mismatch => "datatype mismatch"
  | .full => "database or disk is full"
  | .locked => "database is locked"
  | .outdated => "database is locked"

end Fault

/-- Two names for the same table or index. -/
def sameName (a b : String) : Bool := a.toList.map Char.toLower = b.toList.map Char.toLower

/-- Names that begin so are the database's own. -/
def isReserved (name : String) : Bool :=
  "sqlite_".toList.isPrefixOf (name.toList.map Char.toLower)

namespace Database

def table? (database : Database) (name : String) : Option Table :=
  database.tables.find? fun table => sameName table.name name

def index? (database : Database) (name : String) : Option Index :=
  database.indexes.find? fun index => sameName index.name name

def names (database : Database) : List String × List String :=
  (database.tables.map Table.name, database.indexes.map Index.name)

def put (database : Database) (name : String) (contents : Contents) : Database :=
  { database with
    tables := database.tables.map fun table =>
      if sameName table.name name then { table with contents } else table }

def addTable (database : Database) (table : Table) : Database :=
  { database with tables := database.tables ++ [table] }

def addIndex (database : Database) (index : Index) : Database :=
  { database with indexes := database.indexes ++ [index] }

/-- Removes a table and the indexes on it. -/
def dropTable (database : Database) (name : String) : Database where
  tables := database.tables.filter fun table => !sameName table.name name
  indexes := database.indexes.filter fun index => !sameName index.table name

end Database

/-! Rows of a log. -/

/-- The columns that an insertion gives; the others take their defaults. -/
structure LogDraft where
  offset : Option Value := none
  uuid : Option Value := none
  createdAt : Option Value := none
  payload : Option Value := none
  metadata : Option Value := none

/-- The offset that an insertion asks for, or nothing if one is to be assigned. -/
def LogDraft.requested (draft : LogDraft) : Except Fault (Option Int) :=
  match (draft.offset.getD .null).inIntegerColumn with
  | .null => .ok none
  | .int n => .ok (some n)
  | _ => .error .mismatch

namespace Log

def place (row : LogRow) : List LogRow → List LogRow
  | [] => [row]
  | first :: rest =>
      if row.offset < first.offset then row :: first :: rest else first :: place row rest

/-- The offset of a new row: the requested one, or one more than the largest ever used. -/
def assign (log : Log) : Option Int → Except Fault Int
  | some n => .ok n
  | none => if Value.greatestInteger ≤ log.last then .error .full else .ok (log.last + 1)

def required (table column : String) : Value → Except Fault Value
  | .null => .error (.notNull table column)
  | value => .ok value

def insert (log : Log) (table : String) (now : Timestamp) (draft : LogDraft) :
    Except Fault Log := do
  let offset ← log.assign (← draft.requested)
  let uuid ← required table "uuid" (draft.uuid.getD .null).inTextColumn
  let createdAt ← required table "created_at"
    (draft.createdAt.getD (.text now.toText)).inTextColumn
  if log.rows.any fun row => row.offset = offset then .error (.duplicateOffset table)
  let row := ⟨offset, uuid, createdAt, draft.payload.getD .null, draft.metadata.getD .null⟩
  return ⟨place row log.rows, max log.last offset⟩

def draftOf (record : Record) : LogDraft :=
  { uuid := some (.text record.uuid), payload := some (.blob record.payload),
    metadata := some (.blob record.metadata) }

/-- Appends records in order, or none of them. -/
def append (log : Log) (table : String) (now : Timestamp) : List Record → Except Fault Log
  | [] => .ok log
  | record :: rest =>
      match log.insert table now (draftOf record) with
      | .error fault => .error fault
      | .ok log => log.append table now rest

def columns (row : LogRow) : List Value :=
  [.int row.offset, row.uuid, row.createdAt, row.payload, row.metadata]

def after (log : Log) (bound : Value) (limit : Nat) : List LogRow :=
  (log.rows.filter fun row => bound.belowInteger row.offset).take limit

end Log

/-! Rows of cursors. -/

namespace Cursors

def upsert (group : String) (update : CursorRow → CursorRow) (fresh : CursorRow) :
    List CursorRow → List CursorRow
  | [] => [fresh]
  | row :: rest =>
      if row.group = .text group then update row :: rest
      else row :: upsert group update fresh rest

def mark (group : String) (offset : Int) : List CursorRow → List CursorRow :=
  upsert group (fun row => { row with consumed := .int offset })
    ⟨.text group, .null, .int offset⟩

def acknowledge (group : String) (offset : Int) : List CursorRow → List CursorRow :=
  upsert group (fun row => { row with acked := .int offset, consumed := .int offset })
    ⟨.text group, .int offset, .int offset⟩

def find? (group : String) (rows : List CursorRow) : Option CursorRow :=
  rows.find? fun row => row.group = .text group

/-- The acknowledged offset of a group, or zero if there is none. -/
def bound (group : String) (rows : List CursorRow) : Value :=
  match find? group rows with
  | none => .int 0
  | some row => if row.acked = .null then .int 0 else row.acked

end Cursors
end TopicLog
