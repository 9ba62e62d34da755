import TopicLog.Proofs.StatementTokens

/-!
Statements do what they say. The columns that an insertion names in its text and the arguments at its
places make up the rows that it adds, and the columns that a selection names are those that its rows are
returned with. Nothing but the tokens of the text and the list of arguments is looked at, so a column out
of order, or an argument at the place of another, would show.
-/
namespace TopicLog

/-! Parts of a text. -/

namespace Token

def names (tokens : List Token) : List String :=
  tokens.filterMap fun
    | .name plain => some plain
    | _ => none

def bracketed (tokens : List Token) : List Token :=
  ((tokens.dropWhile (· ≠ .sign '(')).tail).takeWhile (· ≠ .sign ')')

def ahead (word : String) (tokens : List Token) : List Token := tokens.takeWhile (· ≠ .word word)

def behind (word : String) (tokens : List Token) : List Token :=
  (tokens.dropWhile (· ≠ .word word)).tail

end Token

namespace Statement

variable (statement : Statement)

def tokens : List Token := statement.dialect.lex statement.sql

def inserted : List String := Token.names (Token.bracketed statement.tokens)

def updated : List String := Token.names (Token.behind "UPDATE" statement.tokens)

def selected : List String := Token.names (Token.ahead "FROM" statement.tokens)

def compared : List String := Token.names (Token.behind "WHERE" statement.tokens)

end Statement

/-! Rows, by the names of their columns. -/

def given (columns : List String) (values : List Value) (column : String) : Option Value :=
  (columns.zip values).lookup column

def LogDraft.ofColumns (columns : List String) (values : List Value) : LogDraft where
  offset := given columns values "offset"
  uuid := given columns values "uuid"
  createdAt := given columns values "created_at"
  payload := given columns values "payload"
  metadata := given columns values "metadata"

/-- So many rows with the same columns, whose values follow one another. -/
def LogDraft.rows (columns : List String) : Nat → List Value → List LogDraft
  | 0, _ => []
  | count + 1, values => .ofColumns columns values :: rows columns count (values.drop columns.length)

/-- What stands for a quoted name in a row; a name that is no column is a text. -/
def LogRow.column (row : LogRow) : String → Value
  | "offset" => .int row.offset
  | "uuid" => row.uuid
  | "created_at" => row.createdAt
  | "payload" => row.payload
  | "metadata" => row.metadata
  | other => .text other

def CursorRow.column (row : CursorRow) : String → Value
  | "consumer_group" => row.group
  | "offset_acked" => row.acked
  | "offset_consumed" => row.consumed
  | other => .text other

def Value.below (bound : Value) : Value → Bool
  | .int n => bound.belowInteger n
  | .text s => bound.belowText s
  | _ => false

def CursorRow.ofColumns (columns : List String) (values : List Value) : CursorRow where
  group := (given columns values "consumer_group").getD .null
  acked := (given columns values "offset_acked").getD .null
  consumed := (given columns values "offset_consumed").getD .null

def CursorRow.taking (row other : CursorRow) (columns : List String) : CursorRow where
  group := if columns.contains "consumer_group" then other.group else row.group
  acked := if columns.contains "offset_acked" then other.acked else row.acked
  consumed := if columns.contains "offset_consumed" then other.consumed else row.consumed

namespace Statement

/-- The rows that an insertion gives. Its arguments are cut at the number of its columns. -/
def drafts (statement : Statement) : List LogDraft :=
  LogDraft.rows statement.inserted (statement.args.length / statement.inserted.length) statement.args

/-- What a statement does is what its text and its arguments say. -/
def AsWritten (statement : Statement) : Prop :=
  match statement.action with
  | .append table _ => ∀ (database : Database) (now : Timestamp),
      database.plan now (.run statement.action) =
        database.onLog table (statement.inserted.headD "") fun found log =>
          let inserted := statement.drafts.foldlM
            (fun (log : Log) draft => log.insert found.name now draft) log
          ⟨true, inserted.map fun grown =>
            { after := database.put table (.log grown), affected := statement.drafts.length,
              changed := true }⟩
  | .fetch _ _ limit =>
      let own := statement.compared.headD ""
      statement.tokens.getLast? = some (.word (toString limit)) ∧
      ∀ bound : Value,
        (∀ log, Database.fetched (.log log) bound limit =
          ((log.rows.filter fun row => bound.below (row.column own)).take limit).map fun row =>
            statement.selected.map row.column) ∧
        ∀ rows, Database.fetched (.cursors rows) bound limit =
          ((rows.filter fun row => bound.below (row.column own)).take limit).map fun row =>
            statement.selected.map row.column
  | .claim claim => ∀ rows, Cursors.bound claim.group rows =
      match rows.find? fun row => statement.compared.map row.column = statement.args with
      | none => .int 0
      | some row => if statement.selected.map row.column = [.null] then .int 0
          else (statement.selected.map row.column).headD .null
  | .markConsumed table group _ | .acknowledge table group _ =>
      ∀ (database : Database) (now : Timestamp),
        let fresh := CursorRow.ofColumns statement.inserted statement.args
        database.plan now (.run statement.action) =
          database.onCursors table (statement.inserted.headD "")
            (Cursors.upsert group (fun row => row.taking fresh statement.updated) fresh)
  | _ => True

section Written

variable {dialect : Dialect} {table : String}

theorem inserted_append (ending : '\x00' ∉ table.toList) (records : List Record) :
    inserted ⟨dialect, .append table records⟩ = ["uuid", "payload", "metadata"] := by
  have read : dialect.lex (sql ⟨dialect, .append table records⟩) =
      (Shape.append records.length).tokens dialect table "" := lex_append ending records
  rw [inserted, tokens, read]
  rfl

theorem drafts_append (ending : '\x00' ∉ table.toList) (records : List Record) :
    drafts ⟨dialect, .append table records⟩ = records.map Log.draftOf := by
  have columns : inserted ⟨dialect, .append table records⟩ = ["uuid", "payload", "metadata"] :=
    inserted_append ending records
  have counted : (args ⟨dialect, .append table records⟩).length / 3 = records.length := by
    rw [args_append, Nat.mul_div_cancel_left _ (by decide)]
  rw [drafts, columns]
  refine (congrArg (LogDraft.rows _ · _) counted).trans ?_
  clear counted columns
  induction records with
  | nil => rfl
  | cons record rest ih => exact congrArg (_ :: ·) ih

theorem append_drafts (log : Log) (now : Timestamp) (records : List Record) :
    log.append table now records =
      (records.map Log.draftOf).foldlM (fun (log : Log) draft => log.insert table now draft) log := by
  induction records generalizing log with
  | nil => rfl
  | cons record rest ih =>
      rw [Log.append, List.map_cons, List.foldlM_cons]
      cases log.insert table now (Log.draftOf record) with
      | error fault => rfl
      | ok grown => exact ih grown

theorem append_asWritten (ending : '\x00' ∉ table.toList) (records : List Record) :
    AsWritten ⟨dialect, .append table records⟩ := by
  intro database now
  rw [inserted_append ending, drafts_append ending, List.length_map]
  refine congrArg (database.onLog table "uuid") (funext fun found => funext fun log => ?_)
  rw [← append_drafts]
  cases log.append found.name now records <;> rfl

theorem fetch_asWritten (ending : '\x00' ∉ table.toList) {cursors : String}
    (cursorEnding : '\x00' ∉ cursors.toList) (group : String) (limit : Nat) :
    AsWritten ⟨dialect, .fetch table ⟨dialect, cursors, group⟩ limit⟩ := by
  have read : dialect.lex (sql ⟨dialect, .fetch table ⟨dialect, cursors, group⟩ limit⟩) =
      (Shape.fetch limit).tokens dialect table cursors := lex_fetch ending cursorEnding group limit
  have columns : selected ⟨dialect, .fetch table ⟨dialect, cursors, group⟩ limit⟩ =
      ["offset", "uuid", "created_at", "payload", "metadata"] := by
    rw [selected, tokens, read]
    rfl
  have compares : (compared ⟨dialect, .fetch table ⟨dialect, cursors, group⟩ limit⟩).headD "" =
      "offset" := by
    rw [compared, tokens, read]
    rfl
  have limited : (tokens ⟨dialect, .fetch table ⟨dialect, cursors, group⟩ limit⟩).getLast? =
      some (.word (toString limit)) := by
    rw [tokens, read]
    cases dialect <;> rfl
  refine ⟨limited, fun bound => ?_⟩
  rw [compares, columns]
  refine ⟨fun log => rfl, fun rows => ?_⟩
  -- No cursor has a column of that name, so the comparison is the same for all of them.
  have each : (fun row : CursorRow => bound.below (row.column "offset")) =
      fun _ => bound.belowText "offset" := rfl
  rw [each, Database.fetched]
  cases bound.belowText "offset" with
  | true =>
      rw [List.filter_eq_self.mpr fun _ _ => rfl]
      rfl
  | false =>
      rw [List.filter_eq_nil_iff.mpr (by simp), List.take_nil]
      rfl

theorem claim_asWritten (ending : '\x00' ∉ table.toList) (group : String) :
    AsWritten ⟨dialect, .claim ⟨dialect, table, group⟩⟩ := by
  have read : dialect.lex (sql ⟨dialect, .claim ⟨dialect, table, group⟩⟩) =
      Shape.claim.tokens dialect "" table := lex_claim ending group
  have column : selected ⟨dialect, .claim ⟨dialect, table, group⟩⟩ = ["offset_acked"] := by
    rw [selected, tokens, read]
    rfl
  have compares : compared ⟨dialect, .claim ⟨dialect, table, group⟩⟩ = ["consumer_group"] := by
    rw [compared, tokens, read]
    cases dialect <;> rfl
  intro rows
  rw [column, compares]
  have own : (fun row : CursorRow => decide ([row.group] = [.text group])) =
      fun row => decide (row.group = .text group) := by
    funext row
    simp
  change Cursors.bound group rows =
    match rows.find? fun row => decide ([row.group] = [.text group]) with
    | none => .int 0
    | some row => if [row.acked] = [.null] then .int 0 else row.acked
  rw [own, Cursors.bound, Cursors.find?]
  cases rows.find? fun row => decide (row.group = .text group) with
  | none => rfl
  | some row => simp only [List.cons.injEq, and_true]

theorem upsert_asWritten (ending : '\x00' ∉ table.toList) (upsert : Upsert) :
    AsWritten ⟨dialect, upsert.action table⟩ := by
  have read : dialect.lex (sql ⟨dialect, upsert.action table⟩) =
      (Shape.upsert dialect upsert.offsets).map (Slot.fill "" table) := lex_write ending upsert
  have columns : inserted ⟨dialect, upsert.action table⟩ = upsert.offsets ++ ["consumer_group"] := by
    rw [inserted, tokens, read]
    cases upsert <;> rfl
  have overwrites : updated ⟨dialect, upsert.action table⟩ =
      upsert.offsets.flatMap fun offset => [offset, offset] := by
    rw [updated, tokens, read]
    cases upsert <;> cases dialect <;> rfl
  cases upsert
  all_goals
    intro database now
    rw [columns, overwrites]
    rfl

end Written

end Statement

/-- Whatever the names, the topic and the messages: a statement of the usual layouts inserts, selects and
writes the columns that its text names, with the values that its arguments give for them. -/
theorem Request.statements_asWritten {dialect : Dialect} {logNaming cursorNaming : TableNaming}
    {batchSize : Nat} {codec : Codec} {topic : String} {request : Request}
    {statements : List Statement} (logEnding : '\x00' ∉ (logNaming.generate topic).toList)
    (cursorEnding : '\x00' ∉ (cursorNaming.generate topic).toList)
    (built : request.statements (MessageSettings.layout ⟨dialect, logNaming, batchSize, codec⟩)
      (CursorSettings.layout ⟨dialect, cursorNaming⟩) topic = .ok statements) :
    ∀ statement ∈ statements, statement.AsWritten := by
  obtain ⟨action, rfl, asks⟩ := asks_of_built built
  rw [List.forall_mem_singleton]
  cases asks with
  | createLog => trivial
  | createCursors => trivial
  | @append messages records whole => exact Statement.append_asWritten logEnding records
  | fetch group => exact Statement.fetch_asWritten logEnding cursorEnding group _
  | claim group => exact Statement.claim_asWritten cursorEnding group
  | markConsumed delivery group =>
      exact Statement.upsert_asWritten cursorEnding (.mark delivery group)
  | acknowledge delivery group =>
      exact Statement.upsert_asWritten cursorEnding (.acknowledge delivery group)

end TopicLog
