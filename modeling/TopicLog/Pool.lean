import TopicLog.Database.Plan

/-!
The connections that transactions run on. Each transaction has one for itself: the one that has been
free the longest, or a new one if none is free. Whether a table is still to be made, a connection
judges by what it knows: the names that its last statement saw, and the statements with which it made
tables itself. If it takes a table to be missing, it asks for the write lock first, and only then sees
whether there is anything to do.
-/
namespace TopicLog

abbrev Handle := Nat

structure Connection where
  /-- The statements with which it made tables, and that it was not given again since. -/
  creations : List Action := []
  known : Database := {}
  deriving DecidableEq

namespace Connection

/-- Whether a database lacks what a statement makes. -/
def lacks (database : Database) : Action → Bool
  | .createLog table => (database.table? table).isNone
  | .createCursors table => (database.table? table).isNone
  | .createIndex index table =>
      (database.table? table).isSome && (database.index? index).isNone
  | _ => false

/-- Whether a command asks for the write lock whatever there is to do. -/
def asksForLock (connection : Connection) : Command → Bool
  | .run action => connection.creations.contains action || lacks connection.known action
  | _ => false

/-- What is left of the remembered statements after one that wrote something or not. To make an index
makes a connection forget them all. -/
def remember (creations : List Action) (wrote : Bool) (action : Action) : List Action :=
  let others := creations.filter (· ≠ action)
  match action, wrote with
  | .createLog _, true => action :: others
  | .createCursors _, true => action :: others
  | .createIndex _ _, true => []
  | _, _ => others

def note (connection : Connection) (command : Command) (wrote : Bool) : Connection :=
  match command with
  | .run action => { connection with creations := remember connection.creations wrote action }
  | _ => connection

def see (connection : Connection) (database : Database) : Connection :=
  { connection with known := database }

/-- Looks the names of a command up, in a database where those that it knows do not suffice. -/
def lookUp (connection : Connection) (now : Timestamp) (command : Command) (database : Database) :
    Connection :=
  match connection.known.plan now command with
  | .ok _ => connection
  | .error _ => connection.see database

def forget (connection : Connection) : Connection := { connection with creations := [] }

end Connection

structure Pool where
  free : List Connection := []
  /-- Connections of transactions that have just ended. They are free after a pause, or once another
  connection was taken. -/
  returning : List Connection := []
  taken : List (Handle × Connection) := []
  deriving DecidableEq

namespace Pool

def connection (pool : Pool) (handle : Handle) : Connection :=
  (pool.taken.lookup handle).getD {}

/-- Gives a transaction a connection. A new one knows the database as it is. -/
def take (pool : Pool) (handle : Handle) (committed : Database) : Pool where
  free := pool.free.tail ++ pool.returning
  taken := (handle, pool.free.headD { known := committed }) :: pool.taken

def leave (pool : Pool) (handle : Handle) : Pool :=
  { pool with
    returning := pool.returning ++ (pool.taken.lookup handle).toList
    taken := pool.taken.filter fun entry => entry.1 ≠ handle }

def settle (pool : Pool) : Pool :=
  { pool with free := pool.free ++ pool.returning, returning := [] }

def update (pool : Pool) (handle : Handle) (change : Connection → Connection) : Pool :=
  { pool with
    taken := pool.taken.map fun entry =>
      if entry.1 = handle then (handle, change entry.2) else entry }

end Pool
end TopicLog
