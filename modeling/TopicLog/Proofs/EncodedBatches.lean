import TopicLog.Proofs.Dialects

/-!
A batch is encoded as a whole. There is a statement for it exactly if its topic is valid, it is not empty
and all of its messages can be encoded. If there is none, the failure is the first of these that is
wanting, and among the messages it is the first one that cannot be encoded.
-/
namespace TopicLog

namespace Codec

variable (codec : Codec)

def Encodable (message : Message) : Prop := ∃ bytes, codec.encode message.metadata = .ok bytes

/-- The arguments that messages become, three for each in order. -/
inductive Arguments : List Message → List Value → Prop where
  | nil : Arguments [] []
  | cons {message : Message} {bytes : Bytes} {rest : List Message} {arguments : List Value}
      (encoded : codec.encode message.metadata = .ok bytes) (later : Arguments rest arguments) :
      Arguments (message :: rest)
        (.text message.uuid :: .blob message.payload :: .blob bytes :: arguments)

inductive Culprit : List Message → Message → Cause → Prop where
  | here {message : Message} {cause : Cause} (refused : codec.encode message.metadata = .error cause)
      (rest : List Message) : Culprit (message :: rest) message cause
  | later {message culprit : Message} {cause : Cause} {rest : List Message}
      (encodable : codec.Encodable message) (found : Culprit rest culprit cause) :
      Culprit (message :: rest) culprit cause

variable {codec} {messages : List Message} {culprit : Message} {cause : Cause}

theorem encodable_or_culprit (codec : Codec) (messages : List Message) :
    (∀ message ∈ messages, codec.Encodable message) ∨
      ∃ culprit cause, codec.Culprit messages culprit cause := by
  induction messages with
  | nil => exact .inl nofun
  | cons message rest ih =>
      cases encoded : codec.encode message.metadata with
      | error cause => exact .inr ⟨message, cause, .here encoded rest⟩
      | ok bytes =>
          rcases ih with all | ⟨culprit, cause, found⟩
          · exact .inl (List.forall_mem_cons.mpr ⟨⟨bytes, encoded⟩, all⟩)
          · exact .inr ⟨culprit, cause, .later ⟨bytes, encoded⟩ found⟩

theorem Culprit.records (found : codec.Culprit messages culprit cause) :
    codec.records messages = .error (.encoding culprit.uuid cause) := by
  induction found with
  | here refused rest =>
      simp only [Codec.records, Codec.record, refused]
      rfl
  | later encodable _ ih =>
      obtain ⟨bytes, encoded⟩ := encodable
      simp only [Codec.records, Codec.record, encoded, ih]
      rfl

theorem records_of_encodable (all : ∀ message ∈ messages, codec.Encodable message) :
    ∃ records, codec.records messages = .ok records ∧
      ∀ dialect table, codec.Arguments messages
        (Statement.args ⟨dialect, .append table records⟩) := by
  induction messages with
  | nil => exact ⟨[], rfl, fun _ _ => .nil⟩
  | cons message rest ih =>
      obtain ⟨⟨bytes, encoded⟩, others⟩ := List.forall_mem_cons.mp all
      obtain ⟨records, whole, arguments⟩ := ih others
      simp only [Codec.records, Codec.record, encoded, whole]
      exact ⟨_, rfl, fun dialect table => .cons encoded (arguments dialect table)⟩

theorem Arguments.length {arguments : List Value} (given : codec.Arguments messages arguments) :
    arguments.length = 3 * messages.length := by
  induction given with
  | nil => rfl
  | cons encoded _ ih =>
      simp only [List.length_cons, ih]
      omega

end Codec

theorem Statement.rowPlaces_groups (count : Nat) :
    rowPlaces count = String.intercalate "," (List.replicate count "(?,?,?)") := by
  induction count with
  | zero => rfl
  | succ count ih =>
      cases count with
      | zero => rfl
      | succ count =>
          have further : rowPlaces (count + 2) = "(?,?,?)" ++ "," ++ rowPlaces (count + 1) := rfl
          simp only [further, ih, List.replicate_succ, String.intercalate_cons_cons]

namespace MessageSettings

variable {settings : MessageSettings} {topic : String} {messages : List Message} {failure : Failure}

/-- Why there is no statement for a batch: the first reason that applies. -/
inductive Refuses (settings : MessageSettings) (topic : String) (messages : List Message) :
    Failure → Prop where
  | invalidTopic (invalid : isTopic topic = false) :
      Refuses settings topic messages (.invalidTopic topic)
  | emptyBatch (valid : isTopic topic = true) (empty : messages = []) :
      Refuses settings topic messages .emptyBatch
  | encoding (valid : isTopic topic = true) {culprit : Message} {cause : Cause}
      (found : settings.codec.Culprit messages culprit cause) :
      Refuses settings topic messages (.encoding culprit.uuid cause)

theorem append_invalid (invalid : isTopic topic = false) :
    settings.layout.append topic messages = .error (.invalidTopic topic) := by
  simp only [layout, append_eq, TableNaming.table_eq, invalid]
  rfl

theorem append_records (valid : isTopic topic = true) (nonempty : messages ≠ []) :
    settings.layout.append topic messages = (settings.codec.records messages).map fun records =>
      ⟨settings.dialect, .append (settings.naming.generate topic) records⟩ := by
  have some : messages.isEmpty = false := by simpa using nonempty
  simp only [layout, append_eq, TableNaming.table_eq, valid, some]
  cases settings.codec.records messages <;> rfl

theorem Refuses.append (refuses : settings.Refuses topic messages failure) :
    settings.layout.append topic messages = .error failure := by
  cases refuses with
  | invalidTopic invalid => exact append_invalid invalid
  | emptyBatch valid empty =>
      subst empty
      simp only [layout, append_eq, TableNaming.table_eq, valid]
      rfl
  | encoding valid found =>
      have nonempty : messages ≠ [] := by
        rintro rfl
        cases found
      rw [append_records valid nonempty, found.records]
      rfl

theorem append_encodable (valid : isTopic topic = true) (nonempty : messages ≠ [])
    (all : ∀ message ∈ messages, settings.codec.Encodable message) :
    ∃ statement, settings.layout.append topic messages = .ok statement ∧
      settings.codec.Arguments messages statement.args ∧
      statement.sql = settings.dialect.insertion (settings.naming.generate topic)
        ["uuid", "payload", "metadata"] (Statement.rowPlaces messages.length) := by
  obtain ⟨records, whole, arguments⟩ := Codec.records_of_encodable all
  rw [append_records valid nonempty, whole]
  refine ⟨_, rfl, arguments _ _, ?_⟩
  rw [Statement.sql_append, Codec.records_length whole]

theorem encodable_or_refuses (settings : MessageSettings) (topic : String)
    (messages : List Message) :
    (isTopic topic = true ∧ messages ≠ [] ∧
      ∀ message ∈ messages, settings.codec.Encodable message) ∨
    ∃ failure, settings.Refuses topic messages failure := by
  cases valid : isTopic topic with
  | false => exact .inr ⟨_, .invalidTopic valid⟩
  | true =>
      by_cases empty : messages = []
      · exact .inr ⟨_, .emptyBatch valid empty⟩
      · rcases settings.codec.encodable_or_culprit messages with all | ⟨culprit, cause, found⟩
        · exact .inl ⟨rfl, empty, all⟩
        · exact .inr ⟨_, .encoding valid found⟩

end MessageSettings

/-- There is a statement for a batch exactly if the topic is valid and there are messages, all of which
can be encoded. It has a group of places for each message, and for these groups the identifier, the payload
and the encoded metadata of each message in order. Otherwise the failure is that of the topic, else that
there are no messages, else that of the first message that cannot be encoded. -/
theorem batches_encoded_whole (settings : MessageSettings) (topic : String)
    (messages : List Message) :
    ((∃ statement, settings.layout.append topic messages = .ok statement) ↔
      isTopic topic = true ∧ messages ≠ [] ∧
        ∀ message ∈ messages, settings.codec.Encodable message) ∧
    (∀ statement, settings.layout.append topic messages = .ok statement →
      settings.codec.Arguments messages statement.args ∧
      statement.args.length = 3 * messages.length ∧
      statement.sql = settings.dialect.insertion (settings.naming.generate topic)
        ["uuid", "payload", "metadata"]
        (String.intercalate "," (List.replicate messages.length "(?,?,?)"))) ∧
    ∀ failure, settings.layout.append topic messages = .error failure ↔
      settings.Refuses topic messages failure := by
  rcases settings.encodable_or_refuses topic messages with ⟨valid, nonempty, all⟩ | ⟨first, refuses⟩
  · obtain ⟨statement, built, arguments, sql⟩ :=
      MessageSettings.append_encodable valid nonempty all
    rw [Statement.rowPlaces_groups] at sql
    rw [built]
    refine ⟨⟨fun _ => ⟨valid, nonempty, all⟩, fun _ => ⟨statement, rfl⟩⟩, ?_, ?_⟩
    · rintro _ ⟨⟩
      exact ⟨arguments, arguments.length, sql⟩
    · intro failure
      constructor
      · nofun
      · intro refuses
        cases built.symm.trans refuses.append
  · have failed := refuses.append
    rw [failed]
    refine ⟨⟨nofun, ?_⟩, nofun, ?_⟩
    · rintro ⟨valid, nonempty, all⟩
      obtain ⟨statement, built, -⟩ := MessageSettings.append_encodable valid nonempty all
      cases failed.symm.trans built
    · intro failure
      constructor
      · rintro ⟨⟩
        exact refuses
      · intro other
        exact failed.symm.trans other.append

end TopicLog
