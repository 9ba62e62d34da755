import TopicLog.Statement
import TopicLog.Topic
import TopicLog.Message

/-!
How the cursors of consumer groups are kept: the statements that read and move them. A group has one
row with two offsets. The acknowledged one is where the next batch starts; the consumed one is
written before a message is handed over, so that two transactions for one group collide.
-/
namespace TopicLog

structure CursorLayout where
  /-- Makes the table. Running it again changes nothing. -/
  setup : (topic : String) → Except Failure (List Statement)
  /-- The bound of a group; it has to be usable inside another statement. -/
  claim : (topic group : String) → Except Failure Claim
  markConsumed : (topic : String) → Delivery → (group : String) → Except Failure Statement
  acknowledge : (topic : String) → Delivery → (group : String) → Except Failure Statement
  beforeSubscribing : (topic group : String) → Except Failure (List Statement)

structure CursorSettings where
  dialect : Dialect
  naming : TableNaming := .offsets

namespace CursorSettings

def quotedTable (settings : CursorSettings) (topic : String) : Except Failure String :=
  (settings.naming.table topic).map settings.dialect.quote

/-! The statements, once it is known how the table gets its name. -/

section Builders

variable {m : Type → Type} [Monad m] (settings : CursorSettings) (table : m String)

def statementOn (action : String → Action) : m Statement := do
  let table ← table
  return ⟨settings.dialect, action table⟩

def setupOn : m (List Statement) := do
  let statement ← settings.statementOn table .createCursors
  return [statement]

def claimOn (group : String) : m Claim := do
  let table ← table
  return ⟨settings.dialect, table, group⟩

def markOn (delivery : Delivery) (group : String) : m Statement :=
  settings.statementOn table (.markConsumed · group delivery.offset)

def acknowledgeOn (delivery : Delivery) (group : String) : m Statement :=
  settings.statementOn table (.acknowledge · group delivery.offset)

end Builders

section Named

variable (settings : CursorSettings) (table : Except Failure String)

theorem statementOn_eq (action : String → Action) :
    settings.statementOn table action =
      table.map fun table => ⟨settings.dialect, action table⟩ := rfl

theorem claimOn_eq (group : String) :
    settings.claimOn table group = table.map fun table => ⟨settings.dialect, table, group⟩ := rfl

theorem setupOn_eq :
    settings.setupOn table = table.map fun table => [⟨settings.dialect, .createCursors table⟩] := by
  cases table <;> rfl

end Named

def statement (settings : CursorSettings) (topic : String) (action : String → Action) :
    Except Failure Statement :=
  settings.statementOn (settings.naming.table topic) action

def layout (settings : CursorSettings) : CursorLayout where
  setup topic := settings.setupOn (settings.naming.table topic)
  claim topic group := settings.claimOn (settings.naming.table topic) group
  markConsumed topic delivery group :=
    settings.markOn (settings.naming.table topic) delivery group
  acknowledge topic delivery group :=
    settings.acknowledgeOn (settings.naming.table topic) delivery group
  beforeSubscribing _ _ := .ok []

end CursorSettings

namespace CursorLayout

def withBefore (layout : CursorLayout)
    (before : (topic group : String) → Except Failure (List Statement)) : CursorLayout :=
  { layout with beforeSubscribing := before }

def refusingMark (layout : CursorLayout) (offset : Int) : CursorLayout :=
  { layout with
    markConsumed := fun topic delivery group =>
      if delivery.offset = offset then .error .emptyBatch
      else layout.markConsumed topic delivery group }

def refusingAcknowledge (layout : CursorLayout) (offset : Int) : CursorLayout :=
  { layout with
    acknowledge := fun topic delivery group =>
      if delivery.offset = offset then .error .emptyBatch
      else layout.acknowledge topic delivery group }

end CursorLayout
end TopicLog
