import TopicLog.Pool

/-!
A database that several transactions use at once. A transaction takes its snapshot at its first
statement and sees its own writes on top of it. There is one write lock, taken at the first write and
held to the end; to write, the snapshot must be the newest committed state. A statement that fails
changes no row. If it failed before it started, for a name or for the lock, then the transaction holds
what it held before; if it failed later, the transaction keeps the snapshot or the lock it took.
Reading never fails for a lock. To make a table that exists writes nothing, but a connection that does
not know asks for the lock all the same.
-/
namespace TopicLog

inductive Hold where
  | idle
  /-- A snapshot, and the version it was taken of. -/
  | reading (view : Database) (version : Nat)
  /-- The write lock, and what it wrote so far. -/
  | writing (view : Database) (changed : Bool)

structure Storage where
  clock : Timestamp
  committed : Database := {}
  /-- Counts the commits that wrote something. -/
  version : Nat := 0
  holds : List (Handle × Hold) := []
  /-- A handle above all that were given out. -/
  fresh : Handle := 0
  pool : Pool := {}

namespace Storage

/-- What a transaction holds; one that has ended holds nothing. -/
def hold (storage : Storage) (handle : Handle) : Hold :=
  (storage.holds.lookup handle).getD .idle

def isWriting : Hold → Bool
  | .writing _ _ => true
  | _ => false

def lockedFor (storage : Storage) (handle : Handle) : Bool :=
  storage.holds.any fun (other, hold) => other ≠ handle && isWriting hold

def setHold (storage : Storage) (handle : Handle) (hold : Hold) : Storage :=
  { storage with
    holds := storage.holds.map fun entry => if entry.1 = handle then (handle, hold) else entry }

/-- The database that the next statement of a transaction sees. -/
def view (storage : Storage) (handle : Handle) : Database :=
  match storage.hold handle with
  | .idle => storage.committed
  | .reading view _ => view
  | .writing view _ => view

/-- Whether the snapshot of a transaction is older than the last commit. -/
def isOutdated (storage : Storage) (handle : Handle) : Bool :=
  match storage.hold handle with
  | .reading _ version => version ≠ storage.version
  | _ => false

def begin (storage : Storage) : Handle × Storage :=
  (storage.fresh,
    { storage with
      holds := storage.holds ++ [(storage.fresh, .idle)]
      fresh := storage.fresh + 1
      pool := storage.pool.take storage.fresh storage.committed })

def holdAfterRead (storage : Storage) (handle : Handle) : Hold :=
  match storage.hold handle with
  | .idle => .reading storage.committed storage.version
  | hold => hold

def holdAfterWrite (storage : Storage) (handle : Handle) (effect : Effect) : Hold :=
  match storage.hold handle with
  | .writing _ changed => .writing effect.after (changed || effect.changed)
  | _ => .writing effect.after effect.changed

def onConnection (storage : Storage) (handle : Handle) (change : Connection → Connection) :
    Storage :=
  { storage with pool := storage.pool.update handle change }

/-- Refuses the write lock to a statement, of which no more was done than to look up its names. -/
def refuse (storage : Storage) (handle : Handle) (command : Command) (fault : Fault) :
    Except Fault Effect × Storage :=
  (.error fault,
    storage.onConnection handle (·.lookUp storage.clock command (storage.view handle)))

def execute (storage : Storage) (handle : Handle) (command : Command) :
    Except Fault Effect × Storage :=
  match (storage.view handle).plan storage.clock command with
  | .error fault =>
      (.error fault, storage.onConnection handle (·.see (storage.view handle)))
  | .ok plan =>
      let locks := plan.writes || (storage.pool.connection handle).asksForLock command
      if locks && storage.lockedFor handle then storage.refuse handle command .locked
      else if locks && storage.isOutdated handle then storage.refuse handle command .outdated
      else
        let left := match plan.outcome with
          | .ok effect => effect
          | .error _ => { after := storage.view handle }
        let hold :=
          if locks then storage.holdAfterWrite handle left else storage.holdAfterRead handle
        (plan.outcome,
          (storage.setHold handle hold).onConnection handle fun connection =>
            (connection.note command plan.writes).see left.after)

/-- Ends a transaction without regard to what it wrote. -/
def close (storage : Storage) (handle : Handle) : Storage :=
  { storage with
    holds := storage.holds.filter fun entry => entry.1 ≠ handle
    pool := storage.pool.leave handle }

def rebuilt (storage : Storage) (handle : Handle) : Bool :=
  match storage.hold handle with
  | .writing view _ => view.names ≠ storage.committed.names
  | _ => false

/-- Ends a transaction and forgets what it wrote. If there were tables in that, its connection begins
anew. -/
def rollback (storage : Storage) (handle : Handle) : Storage :=
  if storage.rebuilt handle then
    (storage.onConnection handle fun _ => { known := storage.committed }).close handle
  else storage.close handle

def commit (storage : Storage) (handle : Handle) : Storage :=
  match storage.hold handle with
  | .writing view true =>
      { storage.close handle with committed := view, version := storage.version + 1 }
  | _ => storage.close handle

def settle (storage : Storage) : Storage := { storage with pool := storage.pool.settle }

/-- Begins a transaction of a stated isolation level. To state it makes the connection forget. -/
def beginIsolated (storage : Storage) : Handle × Storage :=
  let (handle, storage) := storage.begin
  (handle, storage.onConnection handle Connection.forget)

def autocommit (storage : Storage) (command : Command) : Except Fault Effect × Storage :=
  let (handle, storage) := storage.begin
  match storage.execute handle command with
  | (.ok effect, storage) => (.ok effect, storage.commit handle)
  | (.error fault, storage) => (.error fault, storage.rollback handle)

end Storage
end TopicLog
