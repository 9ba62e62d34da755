import TopicLog.Dialect
import TopicLog.Value

/-!
The statements that lay out, fill and read the two tables of a topic. A statement says what is to be
done, in which dialect and with which arguments; its text is written elsewhere. Tables are given by
their plain names.
-/
namespace TopicLog

structure Record where
  uuid : String
  payload : Bytes
  metadata : Bytes
  deriving DecidableEq

/-- The bound of a consumer group: its acknowledged offset, or zero. It is a statement of its own and
also stands inside others, each time in its own dialect. -/
structure Claim where
  dialect : Dialect
  table : String
  group : String
  deriving DecidableEq

inductive Action where
  /-- A table for messages, unless there is a table of that name. -/
  | createLog (table : String)
  | createCursors (table : String)
  | createIndex (index table : String)
  | append (table : String) (records : List Record)
  | fetch (table : String) (bound : Claim) (limit : Nat)
  | claim (claim : Claim)
  /-- Writes the consumed offset of a group and makes its row if there is none. -/
  | markConsumed (table : String) (group : String) (offset : Int)
  | acknowledge (table : String) (group : String) (offset : Int)
  | startAt (table : String) (group : String) (offset : Int)
  | clear (table : String)
  deriving DecidableEq

structure Statement where
  dialect : Dialect
  action : Action
  deriving DecidableEq

def Claim.statement (claim : Claim) : Statement := ⟨claim.dialect, .claim claim⟩

end TopicLog
