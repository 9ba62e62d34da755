import TopicLog.Storage
import TopicLog.Row

/-!
What is done inside one transaction, as a tree: each node does one thing and waits for its answer.
A script says nothing about other transactions, so its steps may be taken one after another or in
between the steps of others.
-/
namespace TopicLog

inductive Verdict where
  | accepted
  | refused (text : String)
  deriving DecidableEq, Repr

/-- A handler that keeps a state. One that gives no verdict never returns. -/
abbrev Handler (σ : Type) := Delivery → σ → Option Verdict × σ

inductive Script (α : Type) where
  | done (result : α)
  | execute (command : Command) (next : Except Fault Effect → Script α)
  | hand (delivery : Delivery) (next : Verdict → Script α)
  | commit (next : Script α)
  | rollback (next : Script α)

def Failure.ofFault (fault : Fault) : Failure :=
  .ofCause (.database ⟨some (toString fault.code), fault.text⟩)

namespace Script

variable {α σ : Type}

/-- Takes all steps of a script in a transaction that is open. Where the handler does not return, the
transaction is dropped and there is no result. -/
def run (handler : Handler σ) (handle : Handle) :
    Script α → σ → Storage → Option α × σ × Storage
  | .done result, state, storage => (some result, state, storage)
  | .execute command next, state, storage =>
      let (answer, storage) := storage.execute handle command
      run handler handle (next answer) state storage
  | .hand delivery next, state, storage =>
      match handler delivery state with
      | (some verdict, state) => run handler handle (next verdict) state storage
      | (none, state) => (none, state, storage.rollback handle)
  | .commit next, state, storage => run handler handle next state (storage.commit handle)
  | .rollback next, state, storage => run handler handle next state (storage.rollback handle)

/-- Runs a statement; a fault ends the transaction without effect. -/
def statement (statement : Statement) (next : Effect → Script (Except Failure α)) :
    Script (Except Failure α) :=
  .execute (.run statement.action) fun
    | .ok effect => next effect
    | .error fault => .rollback (.done (.error (.ofFault fault)))

def require {β : Type} (result : Except Failure β) (next : β → Script (Except Failure α)) :
    Script (Except Failure α) :=
  match result with
  | .ok b => next b
  | .error failure => .rollback (.done (.error failure))

/-- Runs statements in order and commits, or stops at the first that fails and keeps none. -/
def all : List Statement → Script (Except Failure Unit)
  | [] => .commit (.done (.ok ()))
  | first :: rest => statement first fun _ => all rest

def scalar (effect : Effect) : Except Failure Int :=
  (Row.ofColumns (effect.rows.headD [])).int 0

end Script

namespace Storage

def perform {α : Type} (storage : Storage) (script : Script α) : Option α × Storage :=
  let (handle, storage) := storage.begin
  let (result, _, storage) := script.run (fun _ _ => (none, ())) handle () storage
  (result, storage)

/-- Runs the statements that set a topic up, all or none; any failure names the topic. -/
def setUp (storage : Storage) (topic : String) (statements : Except Failure (List Statement)) :
    Except Failure Unit × Storage :=
  match statements with
  | .error failure => (.error (.schema topic failure), storage)
  | .ok statements =>
      match storage.perform (Script.all statements) with
      | (some (.error failure), storage) => (.error (.schema topic failure), storage)
      | (_, storage) => (.ok (), storage)

end Storage
end TopicLog
