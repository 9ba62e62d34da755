import TopicLog.Statement

/-!
The text of statements. A text is put together from fixed pieces, which contain no quoted name, and
from names, which are quoted in the dialect they belong to. Arguments never enter the text: each has
a question mark in a fixed piece, in the order of the arguments.
-/
namespace TopicLog

inductive Piece where
  | fixed (text : String)
  | name (dialect : Dialect) (plain : String)
  deriving DecidableEq

def Piece.text : Piece → String
  | .fixed text => text
  | .name dialect plain => dialect.quote plain

def Piece.join (pieces : List Piece) : String := String.join (pieces.map Piece.text)

structure Query where
  sql : String := ""
  args : List Value := []
  deriving DecidableEq

namespace Statement

def rowPlaces : Nat → String
  | 0 => ""
  | 1 => "(?,?,?)"
  | n + 1 => "(?,?,?)," ++ rowPlaces n

def nameList (dialect : Dialect) (separator : String) : List String → List Piece
  | [] => []
  | [name] => [.name dialect name]
  | name :: rest =>
      .name dialect name :: .fixed separator :: nameList dialect separator rest

def column (dialect : Dialect) (name type : String) : List Piece :=
  [.fixed "\n    ", .name dialect name, .fixed type]

def createTable (dialect : Dialect) (table : String) (columns : List Piece) : List Piece :=
  .fixed "CREATE TABLE IF NOT EXISTS " :: .name dialect table :: .fixed " (" ::
    (columns ++ [.fixed "\n)"])

def logColumns (dialect : Dialect) : List Piece :=
  match dialect with
  | .sqlite =>
      column dialect "offset" " INTEGER PRIMARY KEY AUTOINCREMENT," ++
      column dialect "uuid" " TEXT NOT NULL," ++
      column dialect "created_at" " TEXT NOT NULL DEFAULT CURRENT_TIMESTAMP," ++
      column dialect "payload" " BLOB DEFAULT NULL," ++
      column dialect "metadata" " BLOB DEFAULT NULL"
  | .mysql =>
      column dialect "offset" " BIGINT NOT NULL AUTO_INCREMENT PRIMARY KEY," ++
      column dialect "uuid" " TEXT NOT NULL," ++
      column dialect "created_at" " DATETIME NOT NULL DEFAULT CURRENT_TIMESTAMP," ++
      column dialect "payload" " LONGBLOB DEFAULT NULL," ++
      column dialect "metadata" " BLOB DEFAULT NULL"

def cursorColumns (dialect : Dialect) : List Piece :=
  match dialect with
  | .sqlite =>
      column dialect "consumer_group" " TEXT NOT NULL PRIMARY KEY," ++
      column dialect "offset_acked" " INTEGER," ++
      column dialect "offset_consumed" " INTEGER NOT NULL"
  | .mysql =>
      column dialect "consumer_group" " VARCHAR(255) NOT NULL," ++
      column dialect "offset_acked" " BIGINT," ++
      column dialect "offset_consumed" " BIGINT NOT NULL," ++
      [.fixed "\n    PRIMARY KEY (", .name dialect "consumer_group", .fixed ")"]

def claimPieces (claim : Claim) : List Piece :=
  [.fixed "SELECT COALESCE((SELECT ", .name claim.dialect "offset_acked", .fixed " FROM ",
    .name claim.dialect claim.table, .fixed " WHERE ", .name claim.dialect "consumer_group",
    .fixed (match claim.dialect with
      | .sqlite => " = ?), 0)"
      | .mysql => " = ? FOR UPDATE), 0)")]

/-- What an insertion of a cursor does when the group has a row: it takes over the new offsets. -/
def takeOver (dialect : Dialect) : List String → List Piece
  | [] => []
  | name :: rest =>
      let taken := match dialect with
        | .sqlite => [.name dialect name, .fixed " = excluded.", .name dialect name]
        | .mysql =>
            [.name dialect name, .fixed " = VALUES(", .name dialect name, .fixed ")"]
      if rest.isEmpty then taken else taken ++ .fixed ", " :: takeOver dialect rest

def upsert (dialect : Dialect) (table : String) (offsets : List String) (places : String) :
    List Piece :=
  .fixed "INSERT INTO " :: .name dialect table :: .fixed " (" ::
    (nameList dialect ", " (offsets ++ ["consumer_group"]) ++ .fixed (") VALUES " ++ places) ::
    (match dialect with
      | .sqlite =>
          [.fixed "\nON CONFLICT(", .name dialect "consumer_group", .fixed ") DO UPDATE SET "]
      | .mysql => [.fixed "\nON DUPLICATE KEY UPDATE "]) ++
    takeOver dialect offsets)

def pieces (statement : Statement) : List Piece :=
  let dialect := statement.dialect
  match statement.action with
  | .createLog table => createTable dialect table (logColumns dialect)
  | .createCursors table => createTable dialect table (cursorColumns dialect)
  | .createIndex index table =>
      [.fixed "CREATE INDEX IF NOT EXISTS ", .name .sqlite index, .fixed " ON ",
        .name dialect table, .fixed " (", .name .sqlite "uuid", .fixed ")"]
  | .append table records =>
      .fixed "INSERT INTO " :: .name dialect table :: .fixed " (" ::
        (nameList dialect ", " ["uuid", "payload", "metadata"] ++
          [.fixed (") VALUES " ++ rowPlaces records.length)])
  | .fetch table bound limit =>
      .fixed "SELECT " ::
        (nameList dialect ", " ["offset", "uuid", "created_at", "payload", "metadata"] ++
          .fixed " FROM " :: .name dialect table :: .fixed "\nWHERE " :: .name dialect "offset" ::
          .fixed " > (" :: (claimPieces bound ++ .fixed ")\nORDER BY " :: .name dialect "offset" ::
          [.fixed (" ASC\nLIMIT " ++ toString limit)]))
  | .claim claim => claimPieces claim
  | .markConsumed table _ _ => upsert dialect table ["offset_consumed"] "(?, ?)"
  | .acknowledge table _ _ =>
      upsert dialect table ["offset_consumed", "offset_acked"] "(?, ?, ?)"
  | .startAt table _ _ =>
      .fixed (match dialect with
        | .sqlite => "INSERT OR IGNORE INTO "
        | .mysql => "INSERT IGNORE INTO ") :: .name dialect table :: .fixed " (" ::
        (nameList dialect "," ["consumer_group", "offset_acked", "offset_consumed"] ++
          [.fixed ") VALUES (?, ?, ?)"])
  | .clear table => [.fixed "DELETE FROM ", .name dialect table]

def sql (statement : Statement) : String := Piece.join statement.pieces

def args (statement : Statement) : List Value :=
  match statement.action with
  | .append _ records =>
      records.flatMap fun record =>
        [.text record.uuid, .blob record.payload, .blob record.metadata]
  | .fetch _ bound _ => [.text bound.group]
  | .claim claim => [.text claim.group]
  | .markConsumed _ group offset => [.int offset, .text group]
  | .acknowledge _ group offset => [.int offset, .int offset, .text group]
  | .startAt _ group offset => [.text group, .int offset, .int offset]
  | _ => []

def query (statement : Statement) : Query := ⟨statement.sql, statement.args⟩

end Statement
end TopicLog
