import TopicLog.Session
import TopicLog.Proofs.Interleaving

/-!
The statements of the usual layouts. There are some for topics only, and they name the two tables of the
topic and no other.
-/
namespace TopicLog

/-- Something that there is for a topic, and for nothing else. -/
def ofTopic {α : Type} (topic : String) (value : α) : Except Failure α :=
  if isTopic topic then .ok value else .error (.invalidTopic topic)

theorem ofTopic_valid {α : Type} {topic : String} (valid : isTopic topic = true) (value : α) :
    ofTopic topic value = .ok value := if_pos valid

theorem ofTopic_built {α : Type} {topic : String} {made : Except Failure α} {value other : α}
    (same : made = ofTopic topic value) (built : made = .ok other) : value = other := by
  rw [same] at built
  unfold ofTopic at built
  split at built
  · exact Except.ok.inj built
  · cases built

theorem ofTopic_map {α β : Type} (topic : String) (value : α) (f : α → β) :
    (ofTopic topic value).map f = ofTopic topic (f value) := by
  unfold ofTopic
  split <;> rfl

/-- Names of a topic's two tables, which may be the same. -/
structure Names where
  messages : TableNaming
  cursors : TableNaming

def Namings.names (namings : Namings) : Names := ⟨namings.messages, namings.cursors⟩

namespace Names

def messageTable (names : Names) (topic : String) : String := names.messages.generate topic

def cursorTable (names : Names) (topic : String) : String := names.cursors.generate topic

def layout (names : Names) (batchSize : Nat) (codec : Codec) : MessageLayout :=
  MessageSettings.layout { dialect := .sqlite, naming := names.messages, batchSize, codec }

def cursorLayout (names : Names) : CursorLayout :=
  CursorSettings.layout { dialect := .sqlite, naming := names.cursors }

def subscriber (names : Names) (member : Member) : Subscriber :=
  ⟨names.layout member.batchSize member.codec, names.cursorLayout, member.settings⟩

variable (names : Names) (topic group : String)

theorem messages_table :
    names.messages.table topic = ofTopic topic (names.messageTable topic) :=
  names.messages.table_eq topic

theorem cursors_table :
    names.cursors.table topic = ofTopic topic (names.cursorTable topic) :=
  names.cursors.table_eq topic

theorem layout_setup (batchSize : Nat) (codec : Codec) :
    (names.layout batchSize codec).setup topic =
      ofTopic topic [⟨.sqlite, .createLog (names.messageTable topic)⟩] := by
  simp only [layout, MessageSettings.layout, MessageSettings.setupOn, messages_table, ofTopic]
  split <;> rfl

theorem layout_fetch (batchSize : Nat) (codec : Codec) :
    (names.layout batchSize codec).fetch topic group names.cursorLayout =
      ofTopic topic ⟨.sqlite, .fetch (names.messageTable topic)
        ⟨.sqlite, names.cursorTable topic, group⟩
        (if batchSize = 0 then defaultBatchSize else batchSize)⟩ := by
  simp only [layout, cursorLayout, MessageSettings.layout, MessageSettings.fetch,
    MessageSettings.fetchOn, CursorSettings.layout, CursorSettings.claimOn, messages_table,
    cursors_table, ofTopic]
  split <;> rfl

theorem layout_append {names : Names} {topic : String} {batchSize : Nat} {codec : Codec}
    {messages : List Message} {statement : Statement}
    (built : (names.layout batchSize codec).append topic messages = .ok statement) :
    ∃ records, codec.records messages = .ok records ∧
      statement = ⟨.sqlite, .append (names.messageTable topic) records⟩ := by
  cases valid : isTopic topic with
  | false =>
      simp [layout, MessageSettings.layout, MessageSettings.append_eq, messages_table, ofTopic, valid,
        bind, Except.bind] at built
  | true =>
      simp only [layout, MessageSettings.layout, MessageSettings.append_eq, messages_table,
        ofTopic_valid valid, bind, Except.bind, pure, Except.pure] at built
      cases empty : messages.isEmpty with
      | true => simp [empty] at built
      | false =>
          cases encoded : codec.records messages with
          | error failure => simp [empty, encoded] at built
          | ok records =>
              simp only [empty, encoded, Bool.false_eq_true, ↓reduceIte] at built
              exact ⟨records, rfl, (Except.ok.inj built).symm⟩

theorem cursors_setup : names.cursorLayout.setup topic =
    ofTopic topic [⟨.sqlite, .createCursors (names.cursorTable topic)⟩] := by
  simp only [cursorLayout, CursorSettings.layout, CursorSettings.setupOn_eq, cursors_table,
    ofTopic_map]

theorem cursors_claim : names.cursorLayout.claim topic group =
    ofTopic topic ⟨.sqlite, names.cursorTable topic, group⟩ := by
  simp only [cursorLayout, CursorSettings.layout, CursorSettings.claimOn_eq, cursors_table,
    ofTopic_map]

theorem cursors_mark (delivery : Delivery) :
    names.cursorLayout.markConsumed topic delivery group =
      ofTopic topic ⟨.sqlite, .markConsumed (names.cursorTable topic) group delivery.offset⟩ := by
  simp only [cursorLayout, CursorSettings.layout, CursorSettings.markOn,
    CursorSettings.statementOn_eq, cursors_table, ofTopic_map]

theorem cursors_acknowledge (delivery : Delivery) :
    names.cursorLayout.acknowledge topic delivery group =
      ofTopic topic ⟨.sqlite, .acknowledge (names.cursorTable topic) group delivery.offset⟩ := by
  simp only [cursorLayout, CursorSettings.layout, CursorSettings.acknowledgeOn,
    CursorSettings.statementOn_eq, cursors_table, ofTopic_map]

def claim (names : Names) (topic group : String) : Claim :=
  ⟨.sqlite, names.cursorTable topic, group⟩

theorem claim_built {topic : String} (valid : isTopic topic = true) :
    (names.cursorLayout.claim topic group).map Claim.statement =
      .ok (names.claim topic group).statement := by
  rw [cursors_claim, ofTopic_valid valid]
  rfl

theorem fetch_built {topic : String} (valid : isTopic topic = true) (batchSize : Nat)
    (codec : Codec) :
    (names.layout batchSize codec).fetch topic group names.cursorLayout =
      .ok ⟨.sqlite, .fetch (names.messageTable topic) (names.claim topic group)
        (if batchSize = 0 then defaultBatchSize else batchSize)⟩ := by
  rw [layout_fetch, ofTopic_valid valid]
  rfl

end Names

/-! The two statements that write a cursor. -/

inductive Upsert where
  | mark (delivery : Delivery) (group : String)
  | acknowledge (delivery : Delivery) (group : String)
  deriving DecidableEq

namespace Upsert

def group : Upsert → String
  | .mark _ group | .acknowledge _ group => group

def statement (layout : CursorLayout) (topic : String) : Upsert → Except Failure Statement
  | .mark delivery group => layout.markConsumed topic delivery group
  | .acknowledge delivery group => layout.acknowledge topic delivery group

def action (table : String) : Upsert → Action
  | .mark delivery group => .markConsumed table group delivery.offset
  | .acknowledge delivery group => .acknowledge table group delivery.offset

theorem statement_usual (upsert : Upsert) (names : Names) (topic : String) :
    upsert.statement names.cursorLayout topic =
      ofTopic topic ⟨.sqlite, upsert.action (names.cursorTable topic)⟩ := by
  cases upsert with
  | mark delivery group => exact names.cursors_mark topic group delivery
  | acknowledge delivery group => exact names.cursors_acknowledge topic group delivery

theorem built (upsert : Upsert) (names : Names) {topic : String} (valid : isTopic topic = true) :
    upsert.statement names.cursorLayout topic =
      .ok ⟨.sqlite, upsert.action (names.cursorTable topic)⟩ :=
  (upsert.statement_usual names topic).trans (ofTopic_valid valid _)

end Upsert

namespace Session

/-- Runs a statement that writes a cursor in the transaction of a name, or as one of its own. -/
def write (session : Session) (name : Option String) (topic : String) : Upsert → Step Nat
  | .mark delivery group => session.mark name topic group delivery.offset
  | .acknowledge delivery group => session.acknowledge name topic group delivery.offset

theorem write_usual {session : Session} {names : Names}
    (layout : session.cursors = names.cursorLayout) (name : Option String) (topic : String)
    (upsert : Upsert) :
    session.write name topic upsert =
      let (result, session) := session.attempt name
        (statement (ofTopic topic ⟨.sqlite, upsert.action (names.cursorTable topic)⟩))
      (result.map Effect.affected, session) := by
  cases upsert with
  | mark delivery group =>
      simp only [write, mark, layout, names.cursors_mark topic group]
      rfl
  | acknowledge delivery group =>
      simp only [write, acknowledge, layout, names.cursors_acknowledge topic group]
      rfl

end Session

/-! The same for names that are never the same. -/

namespace Namings

variable (namings : Namings) (topic group : String)

theorem messages_table :
    namings.messages.table topic = ofTopic topic (namings.messageTable topic) :=
  namings.messages.table_eq topic

theorem cursors_table :
    namings.cursors.table topic = ofTopic topic (namings.cursorTable topic) :=
  namings.cursors.table_eq topic

theorem layout_setup (batchSize : Nat) (codec : Codec) :
    (namings.layout batchSize codec).setup topic =
      ofTopic topic [⟨.sqlite, .createLog (namings.messageTable topic)⟩] :=
  namings.names.layout_setup topic batchSize codec

theorem layout_fetch (batchSize : Nat) (codec : Codec) :
    (namings.layout batchSize codec).fetch topic group namings.cursorLayout =
      ofTopic topic ⟨.sqlite, .fetch (namings.messageTable topic)
        ⟨.sqlite, namings.cursorTable topic, group⟩
        (if batchSize = 0 then defaultBatchSize else batchSize)⟩ :=
  namings.names.layout_fetch topic group batchSize codec

theorem layout_append {namings : Namings} {topic : String} {batchSize : Nat} {codec : Codec}
    {messages : List Message} {statement : Statement}
    (built : (namings.layout batchSize codec).append topic messages = .ok statement) :
    ∃ records, codec.records messages = .ok records ∧
      statement = ⟨.sqlite, .append (namings.messageTable topic) records⟩ := by
  have general : (namings.names.layout batchSize codec).append topic messages = .ok statement :=
    built
  exact Names.layout_append general

theorem cursors_setup : namings.cursorLayout.setup topic =
    ofTopic topic [⟨.sqlite, .createCursors (namings.cursorTable topic)⟩] :=
  namings.names.cursors_setup topic

theorem layouts_setup (batchSize : Nat) (codec : Codec) :
    (do
      let cursors ← namings.cursorLayout.setup topic
      let messages ← (namings.layout batchSize codec).setup topic
      return cursors ++ messages) =
        ofTopic topic [⟨.sqlite, .createCursors (namings.cursorTable topic)⟩,
          ⟨.sqlite, .createLog (namings.messageTable topic)⟩] := by
  rw [cursors_setup, layout_setup]
  unfold ofTopic
  split <;> rfl

theorem cursors_claim : namings.cursorLayout.claim topic group =
    ofTopic topic ⟨.sqlite, namings.cursorTable topic, group⟩ :=
  namings.names.cursors_claim topic group

theorem cursors_mark (delivery : Delivery) :
    namings.cursorLayout.markConsumed topic delivery group =
      ofTopic topic ⟨.sqlite, .markConsumed (namings.cursorTable topic) group delivery.offset⟩ :=
  namings.names.cursors_mark topic group delivery

theorem cursors_acknowledge (delivery : Delivery) :
    namings.cursorLayout.acknowledge topic delivery group =
      ofTopic topic ⟨.sqlite, .acknowledge (namings.cursorTable topic) group delivery.offset⟩ :=
  namings.names.cursors_acknowledge topic group delivery

end Namings

end TopicLog
