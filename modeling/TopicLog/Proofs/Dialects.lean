import Mathlib.Data.List.Forall2
import TopicLog.Proofs.StatementTokens

/-!
The dialects differ in their texts only. Layouts with the same choices build a statement in one dialect
where they build one in the other, and fail alike where they do not. The statements are the same but for
the dialect: they have the same arguments, and what they insert and select has the same columns in the
same order, as many rows and the same limit. Nothing else about the layouts depends on the dialect.
-/
namespace TopicLog

/-- The same failure, or results that are related. -/
inductive Likewise {α β : Type} (related : α → β → Prop) :
    Except Failure α → Except Failure β → Prop where
  | ok {first : α} {second : β} (same : related first second) :
      Likewise related (.ok first) (.ok second)
  | error (failure : Failure) : Likewise related (.error failure) (.error failure)

theorem likewise_map {α β : Type} {related : α → β → Prop} {made : Except Failure α} {f : α → β}
    (each : ∀ value, made = .ok value → related value (f value)) :
    Likewise related made (made.map f) := by
  cases made with
  | error failure => exact .error failure
  | ok value => exact .ok (each value rfl)

/-! Translation. -/

/-- The same statement in another dialect. A bound inside it is translated with it. -/
def Statement.inDialect (dialect : Dialect) (statement : Statement) : Statement :=
  ⟨dialect, match statement.action with
    | .fetch table bound limit => .fetch table { bound with dialect } limit
    | .claim claim => .claim { claim with dialect }
    | action => action⟩

theorem Statement.inDialect_args (dialect : Dialect) (statement : Statement) :
    (statement.inDialect dialect).args = statement.args := by
  obtain ⟨_, action⟩ := statement
  cases action <;> rfl

structure Choices where
  messages : TableNaming
  cursors : TableNaming
  batchSize : Nat
  codec : Codec

namespace Choices

def layout (choices : Choices) (dialect : Dialect) : MessageLayout :=
  MessageSettings.layout ⟨dialect, choices.messages, choices.batchSize, choices.codec⟩

def cursorLayout (choices : Choices) (dialect : Dialect) : CursorLayout :=
  CursorSettings.layout ⟨dialect, choices.cursors⟩

def limit (choices : Choices) : Nat :=
  if choices.batchSize = 0 then defaultBatchSize else choices.batchSize

def statements (choices : Choices) (dialect : Dialect) (topic : String) (request : Request) :
    Except Failure (List Statement) :=
  request.statements (choices.layout dialect) (choices.cursorLayout dialect) topic

theorem statements_inDialect (choices : Choices) (first second : Dialect) (topic : String)
    (request : Request) :
    choices.statements second topic request =
      (choices.statements first topic request).map (List.map (Statement.inDialect second)) := by
  simp only [statements, layout, cursorLayout, Request.statements_build]
  cases request with
  | createLog => cases choices.messages.table topic <;> rfl
  | append messages =>
      cases choices.messages.table topic with
      | error failure => rfl
      | ok table =>
          -- The messages decide next: there have to be some, and all of them have to be encoded.
          simp only [Request.build, MessageSettings.appendOn]
          cases empty : messages.isEmpty with
          | true => rfl
          | false => cases choices.codec.records messages <;> rfl
  | fetch group =>
      cases choices.messages.table topic with
      | error failure => rfl
      | ok table => cases choices.cursors.table topic <;> rfl
  | _ => cases choices.cursors.table topic <;> rfl

end Choices

/-! Texts. -/

namespace Piece

@[simp] theorem join_nil : join [] = "" := rfl

@[simp] theorem join_cons (piece : Piece) (rest : List Piece) :
    join (piece :: rest) = piece.text ++ join rest := by
  rw [join, List.map_cons, String.join_cons, join]

@[simp] theorem join_append (first second : List Piece) :
    join (first ++ second) = join first ++ join second := by
  rw [join, List.map_append, String.join_append, join, join]

end Piece

namespace Dialect

def columns (dialect : Dialect) (plains : List String) : String :=
  String.intercalate ", " (plains.map dialect.quote)

def insertion (dialect : Dialect) (table : String) (plains : List String) (places : String) :
    String :=
  String.join ["INSERT INTO ", dialect.quote table, " (", dialect.columns plains, ") VALUES ", places]

def selection (dialect : Dialect) (table : String) (plains : List String) (bound : String)
    (limit : Nat) : String :=
  String.join ["SELECT ", dialect.columns plains, " FROM ", dialect.quote table, "\nWHERE ",
    dialect.quote "offset", " > (", bound, ")\nORDER BY ", dialect.quote "offset", " ASC\nLIMIT ",
    toString limit]

end Dialect

namespace Statement

variable (dialect : Dialect) (table : String)

theorem join_nameList (plains : List String) :
    Piece.join (nameList dialect ", " plains) = dialect.columns plains := by
  induction plains with
  | nil => rfl
  | cons plain rest ih =>
      cases rest with
      | nil => simp [nameList, Dialect.columns, Piece.text]
      | cons next rest =>
          rw [nameList, Piece.join_cons, Piece.join_cons, ih]
          simp only [Dialect.columns, List.map_cons, String.intercalate_cons_cons, Piece.text,
            String.append_assoc]
          simp

theorem sql_append (records : List Record) :
    sql ⟨dialect, .append table records⟩ =
      dialect.insertion table ["uuid", "payload", "metadata"] (rowPlaces records.length) := by
  simp only [sql, pieces, Piece.join_cons, Piece.join_append, join_nameList, Piece.join_nil,
    Piece.text, Dialect.insertion, String.join_cons, String.join_nil, String.append_empty]

theorem sql_fetch (bound : Claim) (limit : Nat) :
    sql ⟨dialect, .fetch table bound limit⟩ =
      dialect.selection table ["offset", "uuid", "created_at", "payload", "metadata"]
        bound.statement.sql limit := by
  have claimed : bound.statement.sql = Piece.join (claimPieces bound) := rfl
  rw [claimed]
  simp only [sql, pieces, Piece.join_cons, Piece.join_append, join_nameList, Piece.join_nil,
    Piece.text, Dialect.selection, String.join_cons, String.join_nil, String.append_empty]

theorem join_upsert (offsets : List String) (places : String) :
    ∃ update, Piece.join (upsert dialect table offsets places) =
      dialect.insertion table (offsets ++ ["consumer_group"]) places ++ update := by
  simp only [upsert, Piece.join_cons, Piece.join_append, join_nameList, Piece.text,
    Dialect.insertion, String.join_cons, String.join_nil, String.append_assoc,
    String.append_empty]
  exact ⟨_, rfl⟩

end Statement

namespace Request

/-- What the text of a request has to be in every dialect: which columns are inserted or selected and in
which order, how many rows there are and how many are selected at most. -/
def Framed (dialect : Dialect) (log cursors : String) (limit : Nat) : Request → String → Prop
  | .append messages, text =>
      text = dialect.insertion log ["uuid", "payload", "metadata"]
        (Statement.rowPlaces messages.length)
  | .fetch group, text =>
      text = dialect.selection log ["offset", "uuid", "created_at", "payload", "metadata"]
        (Claim.statement ⟨dialect, cursors, group⟩).sql limit
  | .markConsumed .., text =>
      ∃ update, text = dialect.insertion cursors ["offset_consumed", "consumer_group"] "(?, ?)" ++
        update
  | .acknowledge .., text =>
      ∃ update, text = dialect.insertion cursors
        ["offset_consumed", "offset_acked", "consumer_group"] "(?, ?, ?)" ++ update
  | _, _ => True

variable {dialect : Dialect} {log cursors : String} {limit : Nat} {request : Request}
  {action : Action}

theorem Asks.framed (asks : request.Asks dialect log cursors limit action) :
    request.Framed dialect log cursors limit (Statement.sql ⟨dialect, action⟩) := by
  cases asks with
  | append whole =>
      rw [Framed, ← whole]
      exact Statement.sql_append dialect log _
  | fetch group => exact Statement.sql_fetch dialect log _ limit
  | markConsumed delivery group => exact Statement.join_upsert dialect cursors _ _
  | acknowledge delivery group => exact Statement.join_upsert dialect cursors _ _
  | _ => trivial

theorem Asks.inDialect (other : Dialect)
    (asks : request.Asks dialect log cursors limit action) :
    request.Asks other log cursors limit (Statement.inDialect other ⟨dialect, action⟩).action := by
  cases asks with
  | append whole => exact .append whole
  | _ => constructor

/-- What two statements for one request have in common. -/
structure Counterparts (request : Request) (choices : Choices) (topic : String)
    (first second : Statement) : Prop where
  translated : second = first.inDialect second.dialect
  arguments : first.args = second.args
  framed : ∀ statement ∈ [first, second],
    request.Framed statement.dialect (choices.messages.generate topic)
      (choices.cursors.generate topic) choices.limit statement.sql

theorem Asks.counterparts {choices : Choices} {topic : String}
    (asks : request.Asks dialect (choices.messages.generate topic)
      (choices.cursors.generate topic) choices.limit action) (other : Dialect) :
    request.Counterparts choices topic ⟨dialect, action⟩
      (Statement.inDialect other ⟨dialect, action⟩) where
  translated := rfl
  arguments := (Statement.inDialect_args other ⟨dialect, action⟩).symm
  framed := by
    intro statement member
    rcases List.mem_pair.mp member with rfl | rfl
    · exact asks.framed
    · exact (asks.inDialect other).framed

end Request

/-- Layouts with the same choices build counterparts in any two dialects, as many in one as in the other,
or fail with the same failure. What is run before subscribing, how rows are decoded and the isolation do
not depend on the dialect. -/
theorem dialects_agree (choices : Choices) (first second : Dialect) (topic : String) :
    (∀ request : Request,
      Likewise (List.Forall₂ (request.Counterparts choices topic))
        (choices.statements first topic request) (choices.statements second topic request)) ∧
    (∀ group, (choices.cursorLayout first).beforeSubscribing topic group =
      (choices.cursorLayout second).beforeSubscribing topic group) ∧
    (∀ row, (choices.layout first).decode row = (choices.layout second).decode row) ∧
    (choices.layout first).isolation = (choices.layout second).isolation := by
  refine ⟨?_, fun _ => rfl, fun _ => rfl, rfl⟩
  intro request
  rw [choices.statements_inDialect first second]
  apply likewise_map
  intro statements built
  obtain ⟨action, rfl, asks⟩ := Request.asks_of_built built
  exact .cons (asks.counterparts second) .nil

end TopicLog
