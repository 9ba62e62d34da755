import TopicLog.Json.Fault
import TopicLog.Text.Quoted

/-!
Everything that can go wrong, by cause. A lost race for a lock is a conflict, which is no more than a
reason to try again; it is told from other failures of the database by its code or its text.
-/
namespace TopicLog

structure DatabaseError where
  code : Option String
  text : String
  deriving DecidableEq, Repr

/-- What the connection to a database reports by itself. -/
inductive DriverError where
  | rowNotFound
  | poolTimedOut
  | poolClosed
  | workerCrashed
  | columnNotFound
  | protocol
  /-- A column whose value has another type than the wanted one. -/
  | columnDecode
  deriving DecidableEq, Repr

inductive Cause where
  | json (fault : Json.Fault)
  | database (error : DatabaseError)
  | driver (error : DriverError)
  | other (text : String)
  deriving DecidableEq, Repr

/-- The codes of a lost race: busy and locked with their variants, and the two states in which
servers report a serialization failure and a deadlock. -/
def conflictCodes : List String := ["5", "6", "261", "262", "517", "773", "40001", "40P01"]

def occursIn (part : List Char) : List Char → Bool
  | [] => part.isEmpty
  | c :: rest => part.isPrefixOf (c :: rest) || occursIn part rest

def DatabaseError.isConflict (error : DatabaseError) : Bool :=
  error.code.any (conflictCodes.contains ·) ||
    occursIn "database is locked".toList error.text.toList ||
    occursIn "deadlock".toList error.text.toList

def Cause.isConflict : Cause → Bool
  | .database error => error.isConflict
  | _ => false

inductive Failure where
  | encoding (uuid : String) (cause : Cause)
  | decode (offset : Option Int) (reason : String) (cause : Option Cause)
  | scan (index : Nat) (cause : Cause)
  | conflict (cause : Cause)
  | database (cause : Cause)
  | schema (topic : String) (failure : Failure)
  | handler (offset : Int) (cause : Cause)
  | invalidTopic (topic : String)
  | emptyBatch
  deriving DecidableEq, Repr

namespace Failure

/-- The failure that an error of the database or its connection amounts to. -/
def ofCause (cause : Cause) : Failure :=
  if cause.isConflict then .conflict cause else .database cause

def isConflict : Failure → Bool
  | .conflict _ => true
  | _ => false

def offsetText : Option Int → String
  | some offset => "Some(" ++ toString offset ++ ")"
  | none => "None"

def message : Failure → String
  | .encoding uuid _ => "could not encode metadata for message " ++ uuid
  | .decode offset reason _ =>
      "could not decode message row at offset " ++ offsetText offset ++ ": " ++ reason
  | .scan index _ => "could not scan column " ++ toString index ++ " of message row"
  | .conflict _ => "concurrent claim conflict"
  | .database _ => "database error"
  | .schema topic _ => "could not initialize schema for topic " ++ topic
  | .handler offset _ => "handler failed for offset " ++ toString offset
  | .invalidTopic topic => "invalid topic name " ++ quoted topic
  | .emptyBatch => "cannot build an insert for an empty batch"

end Failure
end TopicLog
