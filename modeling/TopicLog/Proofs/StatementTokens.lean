import TopicLog.MessageLayout
import TopicLog.Proofs.Layouts
import TopicLog.Proofs.Lexing

/-!
The tokens of the statements that the usual layouts build. An operation has one sequence of tokens in
each dialect, which may depend on the number of messages and on the size of a batch, with a place for
each table. Whatever the topic, the names of the tables, the group and the messages, the statement is
cut into these tokens, with the whole name of a table at its place, and has as many question marks as
arguments.
-/
namespace TopicLog

/-- A token of an operation, or the name of one of the two tables of a topic. -/
inductive Slot where
  | token (token : Token)
  | log
  | cursors
  deriving DecidableEq

namespace Slot

def fill (log cursors : String) : Slot → Token
  | .token fixed => fixed
  | .log => .name log
  | .cursors => .name cursors

def sign (c : Char) : Slot := .token (.sign c)

def place : Slot := .token .place

def words (texts : List String) : List Slot := texts.map fun text => .token (.word text)

def column (plain : String) : Slot := .token (.name plain)

def columns (plains : List String) : List Slot :=
  (plains.map column).intersperse (sign ',')

end Slot

open Slot

/-- What the text of an operation may depend on besides the names of tables. -/
inductive Shape where
  | createLog
  | createCursors
  | append (messages : Nat)
  | fetch (batchSize : Nat)
  | claim
  | markConsumed
  | acknowledge
  deriving DecidableEq

namespace Shape

def claimSlots (dialect : Dialect) : List Slot :=
  words ["SELECT", "COALESCE"] ++ sign '(' :: sign '(' :: words ["SELECT"] ++
    column "offset_acked" :: words ["FROM"] ++ .cursors :: words ["WHERE"] ++
    column "consumer_group" :: sign '=' :: place ::
    (match dialect with
      | .sqlite => []
      | .mysql => words ["FOR", "UPDATE"]) ++
    sign ')' :: sign ',' :: words ["0"] ++ [sign ')']

def takeOver (dialect : Dialect) (plain : String) : List Slot :=
  match dialect with
  | .sqlite => column plain :: sign '=' :: words ["excluded"] ++ [sign '.', column plain]
  | .mysql => column plain :: sign '=' :: words ["VALUES"] ++ [sign '(', column plain, sign ')']

def onConflict (dialect : Dialect) : List Slot :=
  match dialect with
  | .sqlite =>
      words ["ON", "CONFLICT"] ++ sign '(' :: column "consumer_group" :: sign ')' ::
        words ["DO", "UPDATE", "SET"]
  | .mysql => words ["ON", "DUPLICATE", "KEY", "UPDATE"]

def values (count : Nat) : List Slot :=
  sign '(' :: (List.replicate count place).intersperse (sign ',') ++ [sign ')']

def upsert (dialect : Dialect) (offsets : List String) : List Slot :=
  words ["INSERT", "INTO"] ++ .cursors :: sign '(' :: columns (offsets ++ ["consumer_group"]) ++
  sign ')' :: words ["VALUES"] ++ values (offsets.length + 1) ++ onConflict dialect ++
  [sign ','].intercalate (offsets.map (takeOver dialect))

def slots (dialect : Dialect) : Shape → List Slot
  | .createLog =>
      words ["CREATE", "TABLE", "IF", "NOT", "EXISTS"] ++ .log :: sign '(' ::
      (match dialect with
        | .sqlite =>
            column "offset" :: words ["INTEGER", "PRIMARY", "KEY", "AUTOINCREMENT"] ++ sign ',' ::
            column "uuid" :: words ["TEXT", "NOT", "NULL"] ++ sign ',' ::
            column "created_at" :: words ["TEXT", "NOT", "NULL", "DEFAULT", "CURRENT_TIMESTAMP"] ++
              sign ',' ::
            column "payload" :: words ["BLOB", "DEFAULT", "NULL"] ++ sign ',' ::
            column "metadata" :: words ["BLOB", "DEFAULT", "NULL"]
        | .mysql =>
            column "offset" :: words ["BIGINT", "NOT", "NULL", "AUTO_INCREMENT", "PRIMARY", "KEY"] ++
              sign ',' ::
            column "uuid" :: words ["TEXT", "NOT", "NULL"] ++ sign ',' ::
            column "created_at" ::
              words ["DATETIME", "NOT", "NULL", "DEFAULT", "CURRENT_TIMESTAMP"] ++ sign ',' ::
            column "payload" :: words ["LONGBLOB", "DEFAULT", "NULL"] ++ sign ',' ::
            column "metadata" :: words ["BLOB", "DEFAULT", "NULL"]) ++
      [sign ')']
  | .createCursors =>
      words ["CREATE", "TABLE", "IF", "NOT", "EXISTS"] ++ .cursors :: sign '(' ::
      (match dialect with
        | .sqlite =>
            column "consumer_group" :: words ["TEXT", "NOT", "NULL", "PRIMARY", "KEY"] ++
              sign ',' ::
            column "offset_acked" :: words ["INTEGER"] ++ sign ',' ::
            column "offset_consumed" :: words ["INTEGER", "NOT", "NULL"]
        | .mysql =>
            column "consumer_group" :: words ["VARCHAR"] ++ sign '(' :: words ["255"] ++ sign ')' ::
              words ["NOT", "NULL"] ++ sign ',' ::
            column "offset_acked" :: words ["BIGINT"] ++ sign ',' ::
            column "offset_consumed" :: words ["BIGINT", "NOT", "NULL"] ++ sign ',' ::
            words ["PRIMARY", "KEY"] ++ [sign '(', column "consumer_group", sign ')']) ++
      [sign ')']
  | .append messages =>
      words ["INSERT", "INTO"] ++ .log :: sign '(' :: columns ["uuid", "payload", "metadata"] ++
      sign ')' :: words ["VALUES"] ++
      [sign ','].intercalate (List.replicate messages (values 3))
  | .fetch batchSize =>
      words ["SELECT"] ++ columns ["offset", "uuid", "created_at", "payload", "metadata"] ++
      words ["FROM"] ++ .log :: words ["WHERE"] ++ column "offset" :: sign '>' :: sign '(' ::
      claimSlots dialect ++ sign ')' :: words ["ORDER", "BY"] ++ column "offset" ::
      words ["ASC", "LIMIT", toString batchSize]
  | .claim => claimSlots dialect
  | .markConsumed => upsert dialect ["offset_consumed"]
  | .acknowledge => upsert dialect ["offset_consumed", "offset_acked"]

def tokens (dialect : Dialect) (shape : Shape) (log cursors : String) : List Token :=
  (shape.slots dialect).map (Slot.fill log cursors)

end Shape

def Upsert.offsets : Upsert → List String
  | .mark .. => ["offset_consumed"]
  | .acknowledge .. => ["offset_consumed", "offset_acked"]

/-! The texts of statements. -/

namespace Statement

variable {dialect : Dialect} {log cursors : String}

theorem lex_createLog (ending : '\x00' ∉ log.toList) :
    dialect.lex (sql ⟨dialect, .createLog log⟩) = Shape.createLog.tokens dialect log cursors := by
  have unended : ∀ piece ∈ pieces ⟨dialect, .createLog log⟩, piece.Unended := by
    cases dialect <;> simp [pieces, createTable, logColumns, column, Piece.Unended, ending]
  cases dialect with
  | sqlite => exact (Dialect.lex_join rfl unended).trans rfl
  | mysql => exact (Dialect.lex_join rfl unended).trans rfl

theorem lex_createCursors (ending : '\x00' ∉ cursors.toList) :
    dialect.lex (sql ⟨dialect, .createCursors cursors⟩) =
      Shape.createCursors.tokens dialect log cursors := by
  have unended : ∀ piece ∈ pieces ⟨dialect, .createCursors cursors⟩, piece.Unended := by
    cases dialect <;> simp [pieces, createTable, cursorColumns, column, Piece.Unended, ending]
  cases dialect with
  | sqlite => exact (Dialect.lex_join rfl unended).trans rfl
  | mysql => exact (Dialect.lex_join rfl unended).trans rfl

theorem lex_claim (ending : '\x00' ∉ cursors.toList) (group : String) :
    dialect.lex (sql ⟨dialect, .claim ⟨dialect, cursors, group⟩⟩) =
      Shape.claim.tokens dialect log cursors := by
  have unended : ∀ piece ∈ pieces ⟨dialect, .claim ⟨dialect, cursors, group⟩⟩, piece.Unended := by
    cases dialect <;> simp [pieces, claimPieces, Piece.Unended, ending]
  -- The text that ends a claim is chosen by its dialect, and is read once it is chosen.
  cases dialect with
  | sqlite =>
      dsimp only [sql, pieces, claimPieces] at unended ⊢
      exact (Dialect.lex_join rfl unended).trans rfl
  | mysql =>
      dsimp only [sql, pieces, claimPieces] at unended ⊢
      exact (Dialect.lex_join rfl unended).trans rfl

theorem nameList_tokens (log cursors : String) (plains : List String) :
    (nameList dialect ", " plains).flatMap (Piece.tokens dialect) =
      (columns plains).map (fill log cursors) := by
  have comma : dialect.lex ", " = [.sign ','] := by
    cases dialect <;> rfl
  match plains with
  | [] => rfl
  | [plain] => rfl
  | plain :: next :: rest =>
      have later := nameList_tokens log cursors (next :: rest)
      rw [nameList, List.flatMap_cons, List.flatMap_cons, later, Piece.tokens, Piece.tokens, comma]
      · rfl
      · exact List.cons_ne_nil next rest

theorem nameList_stands {plains : List String} (named : plains ≠ []) :
    Lexing.stand? dialect .between (nameList dialect ", " plains) = some .name := by
  match plains with
  | [plain] => simp [nameList, Lexing.stand?]
  | plain :: next :: rest =>
      have later : Lexing.stand? dialect .between (nameList dialect ", " (next :: rest)) =
          some .name := nameList_stands (List.cons_ne_nil next rest)
      cases dialect <;> exact later

theorem nameList_unended {plains : List String} (named : ∀ plain ∈ plains, '\x00' ∉ plain.toList) :
    ∀ piece ∈ nameList dialect ", " plains, piece.Unended := by
  match plains with
  | [] => simp [nameList]
  | [plain] => simpa [nameList, Piece.Unended] using named
  | plain :: next :: rest =>
      rw [List.forall_mem_cons] at named
      have later : ∀ piece ∈ nameList dialect ", " (next :: rest), piece.Unended :=
        nameList_unended named.2
      simpa [nameList, Piece.Unended, named.1] using later

theorem takeOver_tokens (log cursors : String) (offsets : List String) :
    (takeOver dialect offsets).flatMap (Piece.tokens dialect) =
      ([sign ','].intercalate (offsets.map (Shape.takeOver dialect))).map (fill log cursors) := by
  match offsets with
  | [] => rfl
  | [offset] => cases dialect <;> rfl
  | offset :: next :: rest =>
      have later := takeOver_tokens log cursors (next :: rest)
      have more : [sign ','].intercalate ((offset :: next :: rest).map (Shape.takeOver dialect)) =
          Shape.takeOver dialect offset ++ sign ',' ::
            [sign ','].intercalate ((next :: rest).map (Shape.takeOver dialect)) := by
        cases dialect <;> rfl
      rw [more, List.map_append, List.map_cons, ← later]
      cases dialect <;> rfl

theorem takeOver_stands (dialect : Dialect) (offsets : List String) :
    ∃ last, Lexing.stand? dialect .between (takeOver dialect offsets) = some last := by
  match offsets with
  | [] => exact ⟨_, rfl⟩
  | [offset] => cases dialect <;> exact ⟨_, rfl⟩
  | offset :: next :: rest =>
      obtain ⟨last, later⟩ := takeOver_stands dialect (next :: rest)
      refine ⟨last, ?_⟩
      cases dialect <;> exact later

theorem takeOver_unended {offsets : List String}
    (named : ∀ offset ∈ offsets, '\x00' ∉ offset.toList) :
    ∀ piece ∈ takeOver dialect offsets, piece.Unended := by
  match offsets with
  | [] => simp [takeOver]
  | [offset] => cases dialect <;> simpa [takeOver, Piece.Unended] using named
  | offset :: next :: rest =>
      rw [List.forall_mem_cons] at named
      have later : ∀ piece ∈ takeOver dialect (next :: rest), piece.Unended :=
        takeOver_unended named.2
      cases dialect <;> simpa [takeOver, Piece.Unended, named.1] using later

/-- What an insertion of a cursor says between its values and the offsets that it takes over. -/
theorem upsert_cut (dialect : Dialect) (log cursors : String) (offsets : List String)
    (places : String) :
    ∃ conflict : List Piece,
      upsert dialect cursors offsets places =
        [.fixed "INSERT INTO ", .name dialect cursors, .fixed " ("] ++
          (nameList dialect ", " (offsets ++ ["consumer_group"]) ++
            ([.fixed (") VALUES " ++ places)] ++ (conflict ++ takeOver dialect offsets))) ∧
      Lexing.stand? dialect .between conflict = some .between ∧
      conflict.flatMap (Piece.tokens dialect) =
        (Shape.onConflict dialect).map (fill log cursors) ∧
      ∀ piece ∈ conflict, piece.Unended := by
  cases dialect with
  | sqlite =>
      refine ⟨[.fixed "\nON CONFLICT(", .name .sqlite "consumer_group", .fixed ") DO UPDATE SET "],
        ?_, rfl, rfl, by simp [Piece.Unended]⟩
      simp [upsert]
  | mysql =>
      refine ⟨[.fixed "\nON DUPLICATE KEY UPDATE "], ?_, rfl, rfl, by simp [Piece.Unended]⟩
      simp [upsert]

theorem lex_upsert (ending : '\x00' ∉ cursors.toList) {offsets : List String}
    (named : ∀ offset ∈ offsets, '\x00' ∉ offset.toList) {places : String}
    (stands : Lexing.stand? dialect .name [.fixed (") VALUES " ++ places)] = some .between)
    (counted : dialect.lex (") VALUES " ++ places) =
      (sign ')' :: words ["VALUES"] ++ Shape.values (offsets.length + 1)).map (fill log cursors)) :
    dialect.lex (Piece.join (upsert dialect cursors offsets places)) =
      (Shape.upsert dialect offsets).map (fill log cursors) := by
  have begins : Lexing.stand? dialect .between
      [.fixed "INSERT INTO ", .name dialect cursors, .fixed " ("] = some .between := by
    cases dialect <;> rfl
  have begun : [.fixed "INSERT INTO ", .name dialect cursors, .fixed " ("].flatMap
      (Piece.tokens dialect) =
        (words ["INSERT", "INTO"] ++ [.cursors, sign '(']).map (fill log cursors) := by
    cases dialect <;> rfl
  have names : ∀ name ∈ offsets ++ ["consumer_group"], '\x00' ∉ name.toList := by
    rw [List.forall_mem_append]
    exact ⟨named, by simp⟩
  have columns : Lexing.stand? dialect .between
      (nameList dialect ", " (offsets ++ ["consumer_group"])) = some .name :=
    nameList_stands (by simp)
  obtain ⟨last, taken⟩ := takeOver_stands dialect offsets
  obtain ⟨conflict, cut, follows, does, conflictUnended⟩ :=
    upsert_cut dialect log cursors offsets places
  have laid : Lexing.stand? dialect .between (upsert dialect cursors offsets places) = some last := by
    simp only [cut, Lexing.stand?_append, begins, columns, stands, follows, taken, Option.bind_some]
  have unended : ∀ piece ∈ upsert dialect cursors offsets places, piece.Unended := by
    simp only [cut, List.forall_mem_append]
    exact ⟨by simp [Piece.Unended, ending], nameList_unended names, by simp [Piece.Unended],
      conflictUnended, takeOver_unended named⟩
  rw [Dialect.lex_join laid unended, cut, List.flatMap_append, begun, List.flatMap_append,
    nameList_tokens log cursors, List.flatMap_append, List.flatMap_singleton, Piece.tokens, counted,
    List.flatMap_append, does, takeOver_tokens log cursors, Shape.upsert]
  simp only [List.map_append, List.map_cons, List.map_nil, List.append_assoc, List.cons_append,
    List.nil_append]

theorem lex_write (ending : '\x00' ∉ cursors.toList) (upsert : Upsert) :
    dialect.lex (sql ⟨dialect, upsert.action cursors⟩) =
      (Shape.upsert dialect upsert.offsets).map (fill log cursors) := by
  cases upsert
  all_goals
    apply lex_upsert ending
    · simp
    all_goals cases dialect <;> rfl

theorem lex_rowPlaces (rows : Nat) :
    dialect.lex (rowPlaces rows) =
      ([sign ','].intercalate (List.replicate rows (Shape.values 3))).map (fill log cursors) := by
  match rows with
  | 0 => rfl
  | 1 => cases dialect <;> rfl
  | rows + 2 =>
      have later := lex_rowPlaces (rows + 1)
      have apart : (Lexing.run dialect {} "(?,?,?),".toList).mode = .between := by
        cases dialect <;> rfl
      have first : dialect.lex "(?,?,?)," =
          (Shape.values 3 ++ [sign ',']).map (fill log cursors) := by
        cases dialect <;> rfl
      have more : rowPlaces (rows + 2) = "(?,?,?)," ++ rowPlaces (rows + 1) := rfl
      rw [more, Dialect.lex_append apart, first, later, ← List.map_append]
      rfl

theorem lex_append (ending : '\x00' ∉ log.toList) (records : List Record) :
    dialect.lex (sql ⟨dialect, .append log records⟩) =
      (Shape.append records.length).tokens dialect log cursors := by
  have unended : ∀ piece ∈ [Piece.fixed "INSERT INTO ", .name dialect log, .fixed " ("] ++
      nameList dialect ", " ["uuid", "payload", "metadata"], piece.Unended := by
    simp [nameList, Piece.Unended, ending]
  have laid : Lexing.stand? dialect .between
      (([Piece.fixed "INSERT INTO ", .name dialect log, .fixed " ("] ++
        nameList dialect ", " ["uuid", "payload", "metadata"]) ++ [Piece.fixed ") VALUES "]) =
      some .between := by
    cases dialect <;> rfl
  have whole := dialect.lex_join_append ") VALUES " (rowPlaces records.length) laid unended
  rw [@lex_rowPlaces dialect log cursors] at whole
  refine whole.trans ?_
  rw [Shape.tokens, Shape.slots, List.map_append]
  apply congrArg (· ++ _)
  cases dialect <;> rfl

theorem lex_fetch (logEnding : '\x00' ∉ log.toList) (cursorEnding : '\x00' ∉ cursors.toList)
    (group : String) (batchSize : Nat) :
    dialect.lex (sql ⟨dialect, .fetch log ⟨dialect, cursors, group⟩ batchSize⟩) =
      (Shape.fetch batchSize).tokens dialect log cursors := by
  have unended : ∀ piece ∈ Piece.fixed "SELECT " ::
      nameList dialect ", " ["offset", "uuid", "created_at", "payload", "metadata"] ++
      [.fixed " FROM ", .name dialect log, .fixed "\nWHERE ", .name dialect "offset",
        .fixed " > ("] ++ claimPieces ⟨dialect, cursors, group⟩ ++
      [.fixed ")\nORDER BY ", .name dialect "offset"], piece.Unended := by
    simp [nameList, claimPieces, Piece.Unended, logEnding, cursorEnding]
  cases dialect with
  | sqlite =>
      dsimp only [claimPieces] at unended
      have whole := Dialect.lex_join_append .sqlite " ASC\nLIMIT " (toString batchSize) rfl unended
      rw [Dialect.lex_number] at whole
      exact whole.trans rfl
  | mysql =>
      dsimp only [claimPieces] at unended
      have whole := Dialect.lex_join_append .mysql " ASC\nLIMIT " (toString batchSize) rfl unended
      rw [Dialect.lex_number] at whole
      exact whole.trans rfl

end Statement

/-! Places for arguments. -/

def Shape.places : Shape → Nat
  | .createLog | .createCursors => 0
  | .append messages => 3 * messages
  | .fetch _ | .claim => 1
  | .markConsumed => 2
  | .acknowledge => 3

theorem count_rows (rows : Nat) (log cursors : String) :
    (([sign ','].intercalate (List.replicate rows (Shape.values 3))).map
      (fill log cursors)).count .place = 3 * rows := by
  match rows with
  | 0 => rfl
  | 1 => rfl
  | rows + 2 =>
      have later := count_rows (rows + 1) log cursors
      have more : [sign ','].intercalate (List.replicate (rows + 2) (Shape.values 3)) =
          (Shape.values 3 ++ [sign ',']) ++
            [sign ','].intercalate (List.replicate (rows + 1) (Shape.values 3)) := rfl
      have first : ((Shape.values 3 ++ [sign ',']).map (fill log cursors)).count .place = 3 := rfl
      rw [more, List.map_append, List.count_append, first, later]
      omega

theorem Shape.count_tokens (dialect : Dialect) (shape : Shape) (log cursors : String) :
    (shape.tokens dialect log cursors).count .place = shape.places := by
  cases shape with
  | append messages =>
      have others : ((words ["INSERT", "INTO"] ++ Slot.log :: sign '(' ::
          columns ["uuid", "payload", "metadata"] ++ sign ')' :: words ["VALUES"]).map
            (fill log cursors)).count .place = 0 := rfl
      rw [tokens, slots, List.map_append, List.count_append, others, count_rows, Nat.zero_add]
      rfl
  | fetch batchSize => cases dialect <;> rfl
  | _ => cases dialect <;> rfl

theorem Statement.args_append (dialect : Dialect) (table : String) (records : List Record) :
    (args ⟨dialect, .append table records⟩).length = 3 * records.length := by
  induction records with
  | nil => rfl
  | cons record rest ih =>
      have more : (args ⟨dialect, .append table (record :: rest)⟩).length =
          (args ⟨dialect, .append table rest⟩).length + 3 := rfl
      rw [more, ih, List.length_cons, Nat.mul_succ]

/-! Operations of the usual layouts. -/

inductive Request where
  | createLog
  | createCursors
  | append (messages : List Message)
  | fetch (group : String)
  | claim (group : String)
  | markConsumed (delivery : Delivery) (group : String)
  | acknowledge (delivery : Delivery) (group : String)

namespace Request

def statements (log : MessageLayout) (cursors : CursorLayout) (topic : String) :
    Request → Except Failure (List Statement)
  | .createLog => log.setup topic
  | .createCursors => cursors.setup topic
  | .append messages => (log.append topic messages).map ([·])
  | .fetch group => (log.fetch topic group cursors).map ([·])
  | .claim group => (cursors.claim topic group).map fun claim => [claim.statement]
  | .markConsumed delivery group => (cursors.markConsumed topic delivery group).map ([·])
  | .acknowledge delivery group => (cursors.acknowledge topic delivery group).map ([·])

/-- The same of the usual layouts, once it is known how their tables get their names. -/
def build {m : Type → Type} [Monad m] [MonadLiftT (Except Failure) m] (log : MessageSettings)
    (cursors : CursorSettings) (messageTable cursorTable : m String) :
    Request → m (List Statement)
  | .createLog => log.setupOn messageTable
  | .createCursors => cursors.setupOn cursorTable
  | .append messages => return [← log.appendOn messageTable messages]
  | .fetch group => return [← log.fetchOn messageTable (cursors.claimOn cursorTable group)]
  | .claim group => return [(← cursors.claimOn cursorTable group).statement]
  | .markConsumed delivery group => return [← cursors.markOn cursorTable delivery group]
  | .acknowledge delivery group => return [← cursors.acknowledgeOn cursorTable delivery group]

theorem statements_build (log : MessageSettings) (cursors : CursorSettings) (topic : String)
    (request : Request) :
    request.statements log.layout cursors.layout topic =
      request.build log cursors (log.naming.table topic) (cursors.naming.table topic) := by
  cases request <;> rfl

theorem build_unnamed (log : MessageSettings) (cursors : CursorSettings) (request : Request)
    (failure : Failure) :
    request.build log cursors (.error failure) (.error failure) =
      (.error failure : Except Failure (List Statement)) := by
  cases request <;> rfl

def shape (batchSize : Nat) : Request → Shape
  | .createLog => .createLog
  | .createCursors => .createCursors
  | .append messages => .append messages.length
  | .fetch _ => .fetch batchSize
  | .claim _ => .claim
  | .markConsumed .. => .markConsumed
  | .acknowledge .. => .acknowledge

/-- The action that a statement for a request performs. -/
inductive Asks (dialect : Dialect) (log cursors : String) (batchSize : Nat) :
    Request → Action → Prop where
  | createLog : Asks dialect log cursors batchSize .createLog (.createLog log)
  | createCursors : Asks dialect log cursors batchSize .createCursors (.createCursors cursors)
  | append {messages : List Message} {records : List Record}
      (whole : records.length = messages.length) :
      Asks dialect log cursors batchSize (.append messages) (.append log records)
  | fetch (group : String) :
      Asks dialect log cursors batchSize (.fetch group)
        (.fetch log ⟨dialect, cursors, group⟩ batchSize)
  | claim (group : String) :
      Asks dialect log cursors batchSize (.claim group) (.claim ⟨dialect, cursors, group⟩)
  | markConsumed (delivery : Delivery) (group : String) :
      Asks dialect log cursors batchSize (.markConsumed delivery group)
        (.markConsumed cursors group delivery.offset)
  | acknowledge (delivery : Delivery) (group : String) :
      Asks dialect log cursors batchSize (.acknowledge delivery group)
        (.acknowledge cursors group delivery.offset)

end Request

theorem Codec.records_length {codec : Codec} {messages : List Message} {records : List Record}
    (encoded : codec.records messages = .ok records) : records.length = messages.length := by
  induction messages generalizing records with
  | nil =>
      cases encoded
      rfl
  | cons message rest ih =>
      simp only [Codec.records, bind, Except.bind, pure, Except.pure] at encoded
      split at encoded
      · cases encoded
      · split at encoded
        · cases encoded
        · rename_i later
          cases encoded
          exact congrArg (· + 1) (ih later)

namespace Request

variable {dialect : Dialect} {logNaming cursorNaming : TableNaming} {batchSize : Nat}
  {codec : Codec} {topic : String} {request : Request}

theorem asks_of_built {statements : List Statement}
    (built : request.statements (MessageSettings.layout ⟨dialect, logNaming, batchSize, codec⟩)
      (CursorSettings.layout ⟨dialect, cursorNaming⟩) topic = .ok statements) :
    ∃ action, statements = [⟨dialect, action⟩] ∧
      request.Asks dialect (logNaming.generate topic) (cursorNaming.generate topic)
        (MessageSettings.effectiveBatchSize ⟨dialect, logNaming, batchSize, codec⟩) action := by
  rw [statements_build, TableNaming.table_eq, TableNaming.table_eq] at built
  cases valid : isTopic topic with
  | false =>
      simp only [valid, Bool.false_eq_true, ↓reduceIte] at built
      cases (build_unnamed ..).symm.trans built
  | true =>
      simp only [valid, ↓reduceIte] at built
      cases request with
      | createLog =>
          cases built
          exact ⟨_, rfl, .createLog⟩
      | createCursors =>
          cases built
          exact ⟨_, rfl, .createCursors⟩
      | append messages =>
          simp only [build, MessageSettings.appendOn] at built
          cases nonempty : messages.isEmpty with
          | true =>
              rw [nonempty] at built
              cases built
          | false =>
              cases encoded : codec.records messages with
              | error failure =>
                  rw [nonempty, encoded] at built
                  cases built
              | ok records =>
                  rw [nonempty, encoded] at built
                  cases built
                  exact ⟨_, rfl, .append (Codec.records_length encoded)⟩
      | fetch group =>
          cases built
          exact ⟨_, rfl, .fetch group⟩
      | claim group =>
          cases built
          exact ⟨_, rfl, .claim group⟩
      | markConsumed delivery group =>
          cases built
          exact ⟨_, rfl, .markConsumed delivery group⟩
      | acknowledge delivery group =>
          cases built
          exact ⟨_, rfl, .acknowledge delivery group⟩

variable {log cursors : String} {action : Action}

theorem Asks.lex (asks : request.Asks dialect log cursors batchSize action)
    (logEnding : '\x00' ∉ log.toList) (cursorEnding : '\x00' ∉ cursors.toList) :
    dialect.lex (Statement.sql ⟨dialect, action⟩) =
      (request.shape batchSize).tokens dialect log cursors := by
  cases asks with
  | createLog => exact Statement.lex_createLog logEnding
  | createCursors => exact Statement.lex_createCursors cursorEnding
  | @append messages records whole =>
      rw [shape, ← whole]
      exact Statement.lex_append logEnding records
  | fetch group => exact Statement.lex_fetch logEnding cursorEnding group batchSize
  | claim group => exact Statement.lex_claim cursorEnding group
  | markConsumed delivery group =>
      exact Statement.lex_write cursorEnding (.mark delivery group)
  | acknowledge delivery group =>
      exact Statement.lex_write cursorEnding (.acknowledge delivery group)

theorem Asks.args_length (asks : request.Asks dialect log cursors batchSize action) :
    (Statement.args ⟨dialect, action⟩).length = (request.shape batchSize).places := by
  cases asks with
  | @append messages records whole =>
      rw [shape, ← whole]
      exact Statement.args_append dialect log records
  | _ => rfl

end Request

/-- Every statement that the usual layouts build has the tokens of its operation, with the names of the
two tables whole and at their places, and as many question marks as arguments. -/
theorem statement_tokens (dialect : Dialect) (logNaming cursorNaming : TableNaming)
    (batchSize : Nat) (codec : Codec) (topic : String) (request : Request)
    (statements : List Statement) (logEnding : '\x00' ∉ (logNaming.generate topic).toList)
    (cursorEnding : '\x00' ∉ (cursorNaming.generate topic).toList)
    (built : request.statements
      (MessageSettings.layout ⟨dialect, logNaming, batchSize, codec⟩)
      (CursorSettings.layout ⟨dialect, cursorNaming⟩) topic = .ok statements) :
    ∃ statement, statements = [statement] ∧
      dialect.lex statement.sql =
        (request.shape (MessageSettings.effectiveBatchSize
          ⟨dialect, logNaming, batchSize, codec⟩)).tokens dialect
            (logNaming.generate topic) (cursorNaming.generate topic) ∧
      (dialect.lex statement.sql).count .place = statement.args.length := by
  obtain ⟨action, rfl, asks⟩ := Request.asks_of_built built
  have tokens := asks.lex logEnding cursorEnding
  refine ⟨⟨dialect, action⟩, rfl, tokens, ?_⟩
  rw [tokens, Shape.count_tokens, asks.args_length]

/-- Names with quotes, question marks, dashes and line breaks in them change nothing. -/
theorem statement_tokens_hostile :
    ∃ statement,
      '\x00' ∉ "a\"; -- ?".toList ∧ '\x00' ∉ "\"\"\n?)".toList ∧
      (Request.fetch "group").statements
        (MessageSettings.layout ⟨.sqlite, .constant "a\"; -- ?", 7, .json⟩)
        (CursorSettings.layout ⟨.sqlite, .constant "\"\"\n?)"⟩) "orders" = .ok [statement] ∧
      Dialect.sqlite.lex statement.sql =
        (Shape.fetch 7).tokens .sqlite "a\"; -- ?" "\"\"\n?)" ∧
      (Dialect.sqlite.lex statement.sql).count .place = statement.args.length := by
  obtain ⟨statement, same, tokens, count⟩ :=
    statement_tokens .sqlite (.constant "a\"; -- ?") (.constant "\"\"\n?)") 7 .json "orders"
      (.fetch "group") [⟨.sqlite, .fetch "a\"; -- ?" ⟨.sqlite, "\"\"\n?)", "group"⟩ 7⟩]
      (by decide) (by decide) rfl
  cases same
  exact ⟨_, by decide, by decide, rfl, tokens, count⟩

end TopicLog
