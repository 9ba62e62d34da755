import TopicLog.Failure
import TopicLog.Text.Utf8

/-!
Topic names and the names of the tables that belong to a topic. Topics end up inside table names, so
only ASCII letters and digits and five signs are accepted; the strategy that makes a table name is
consulted for valid topics alone.
-/
namespace TopicLog

def isTopicChar (c : Char) : Bool :=
  c.isAlphanum || c = '_' || c = '-' || c = '.' || c = ':' || c = '$'

def isTopic (topic : String) : Bool := !topic.toList.isEmpty && topic.toList.all isTopicChar

def validateTopic (topic : String) : Except Failure Unit :=
  if isTopic topic then .ok () else .error (.invalidTopic topic)

/-- Makes the plain name of one of a topic's tables. -/
structure TableNaming where
  generate : String → String

/-- Has a name made for one of a topic's tables, once the topic was found valid. -/
def nameTable {m : Type → Type} [Monad m] [MonadLiftT (Except Failure) m]
    (generate : String → m String) (topic : String) : m String := do
  validateTopic topic
  generate topic

namespace TableNaming

def table (naming : TableNaming) (topic : String) : Except Failure String :=
  nameTable (fun topic => .ok (naming.generate topic)) topic

theorem table_eq (naming : TableNaming) (topic : String) :
    naming.table topic =
      if isTopic topic then .ok (naming.generate topic) else .error (.invalidTopic topic) := by
  unfold table nameTable validateTopic
  cases isTopic topic <;> rfl

def prefixed (text : String) : TableNaming := ⟨fun topic => text ++ topic⟩

def messages : TableNaming := prefixed "sqlqueue_"

def offsets : TableNaming := prefixed "sqlqueue_offsets_"

/-- Points become underscores, and the name ends in a word of its own. -/
def log : TableNaming :=
  ⟨fun topic =>
    String.ofList (topic.toList.map fun c => if c = '.' then '_' else c) ++ "_log"⟩

def size : TableNaming := ⟨fun topic => "t" ++ toString (Utf8.encode topic).length⟩

def constant (name : String) : TableNaming := ⟨fun _ => name⟩

end TableNaming
end TopicLog
