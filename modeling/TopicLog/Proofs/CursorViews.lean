import TopicLog.Proofs.Progress

/-!
Where the cursors of a topic stand. A settled cursor stands at a message that its group acknowledged and
consumed. To mark a message moves the consumed offset ahead, to acknowledge it brings the other one up
again; a poll commits after the second and before the next first, so it commits settled cursors only,
and in none of its views has a cursor consumed less than it acknowledged.
-/
namespace TopicLog

/-- A cursor whose two offsets are the one of a message. -/
def CursorRow.At (log : Log) (row : CursorRow) : Prop :=
  ∃ message ∈ log.rows, row.acked = .int message.offset ∧ row.consumed = .int message.offset

/-- The acknowledged offset of a cursor, zero if there is none yet. -/
def CursorRow.bound (row : CursorRow) : Value := if row.acked = .null then .int 0 else row.acked

/-- A cursor that consumed at least what it acknowledged. -/
def CursorRow.Level (row : CursorRow) : Prop :=
  ∃ bound consumed : Int, row.bound = .int bound ∧ row.consumed = .int consumed ∧ bound ≤ consumed

theorem CursorRow.At.level {log : Log} {row : CursorRow} (settled : row.At log) : row.Level := by
  obtain ⟨message, -, acked, consumed⟩ := settled
  exact ⟨message.offset, message.offset, by simp [CursorRow.bound, acked], consumed, Int.le_refl _⟩

theorem CursorRow.At.extends {old new : Log} {row : CursorRow} (settled : row.At old)
    (grown : Log.Extends old new) : row.At new := by
  obtain ⟨message, member, offsets⟩ := settled
  obtain ⟨added, rows, -⟩ := grown.rows
  exact ⟨message, rows ▸ List.mem_append_left added member, offsets⟩

namespace Cursors

theorem mem_upsert {group : String} {update : CursorRow → CursorRow} {fresh row : CursorRow}
    {rows : List CursorRow} (member : row ∈ upsert group update fresh rows) :
    row ∈ rows ∨ row = (find? group rows).elim fresh update := by
  induction rows with
  | nil => exact .inr (List.mem_singleton.mp member)
  | cons first rest ih =>
      by_cases hit : first.group = .text group
      · simp only [upsert, hit, ↓reduceIte, List.mem_cons] at member
        rcases member with written | old
        · exact .inr (by simp [find?, hit, written])
        · exact .inl (.tail _ old)
      · simp only [upsert, hit, ↓reduceIte, List.mem_cons] at member
        rcases member with rfl | later
        · exact .inl (.head _)
        · rcases ih later with old | written
          · exact .inl (.tail _ old)
          · exact .inr (by simpa [find?, hit] using written)

end Cursors

namespace Namings

structure Settled (namings : Namings) (topic : String) (database : Database) : Prop where
  sound : namings.Sound topic database
  rows : ∀ row ∈ namings.cursorRows topic database, row.At (namings.log topic database)

def Level (namings : Namings) (topic : String) (database : Database) : Prop :=
  ∀ row ∈ namings.cursorRows topic database, row.Level

variable {namings : Namings} {topic group : String} {database after : Database}

theorem Settled.level (settled : namings.Settled topic database) : namings.Level topic database :=
  fun row member => (settled.rows row member).level

theorem Settled.published (settled : namings.Settled topic database)
    (published : namings.Published topic database after) : namings.Settled topic after where
  sound := published.sound
  rows row member := by
    rw [published.cursors] at member
    exact (settled.rows row member).extends published.grown

theorem Settled.found (settled : namings.Settled topic database) {row : CursorRow}
    (found : Cursors.find? group (namings.cursorRows topic database) = some row) :
    row.acked = .int (namings.acked topic database group) ∧
      0 < namings.acked topic database group := by
  obtain ⟨message, member, acked, -⟩ := settled.rows row (List.mem_of_find?_eq_some found)
  have bounded := settled.sound.bound group
  have same : namings.acked topic database group = message.offset := by
    simpa [Cursors.bound, found, acked] using bounded.symm
  rw [same]
  exact ⟨acked, settled.sound.ordered.positive message member⟩

theorem Settled.find (settled : namings.Settled topic database)
    (begun : 0 < namings.acked topic database group) :
    ∃ row, Cursors.find? group (namings.cursorRows topic database) = some row ∧
      row.acked = .int (namings.acked topic database group) := by
  cases found : Cursors.find? group (namings.cursorRows topic database) with
  | some row => exact ⟨row, rfl, (settled.found found).1⟩
  | none =>
      have bounded := settled.sound.bound group
      simp only [Cursors.bound, found, Value.int.injEq] at bounded
      omega

section Write

variable {rows : List CursorRow} {message : LogRow} (settled : namings.Settled topic database)
  (holds : database.contents? (namings.cursorTable topic) = some (.cursors rows))
  (inside : message ∈ (namings.log topic database).rows)
include settled holds inside

theorem Settled.mark (above : namings.acked topic database group < message.offset) :
    namings.Level topic (database.put (namings.cursorTable topic)
      (.cursors (Cursors.mark group message.offset rows))) := by
  have before : namings.cursorRows topic database = rows := Database.cursorsOf_eq holds
  intro row member
  rw [namings.cursorRows_put _ holds] at member
  rcases Cursors.mem_upsert member with old | rfl
  · exact (settled.rows row (before ▸ old)).level
  · cases found : Cursors.find? group rows with
    | none =>
        have positive := settled.sound.ordered.positive message inside
        exact ⟨0, message.offset, rfl, rfl, Int.le_of_lt positive⟩
    | some row =>
        obtain ⟨acked, -⟩ := settled.found (before ▸ found)
        exact ⟨_, message.offset, by simp [CursorRow.bound, acked], rfl, Int.le_of_lt above⟩

theorem Settled.acknowledge (valid : isTopic topic = true) :
    let written := database.put (namings.cursorTable topic)
      (.cursors (Cursors.acknowledge group message.offset rows))
    namings.Settled topic written ∧ namings.log topic written = namings.log topic database ∧
      namings.acked topic written group = message.offset := by
  intro written
  have before : namings.cursorRows topic database = rows := Database.cursorsOf_eq holds
  have after : namings.cursorRows topic written = Cursors.acknowledge group message.offset rows :=
    namings.cursorRows_put _ holds
  have positive := settled.sound.ordered.positive message inside
  have used := settled.sound.ordered.used message inside
  have moved : namings.Advanced topic database written group message.offset := by
    apply advanced_put valid settled.sound holds (Cursors.bound_acknowledge group _ rows)
    · intro other apart
      exact Cursors.bound_acknowledge_other apart message.offset rows
    · exact ⟨Int.le_of_lt positive, used⟩
  refine ⟨⟨moved.sound, fun row member => ?_⟩, moved.log, moved.own⟩
  rw [moved.log]
  rw [after] at member
  rcases Cursors.mem_upsert member with old | rfl
  · exact settled.rows row (before ▸ old)
  · cases Cursors.find? group rows with
    | none => exact ⟨message, inside, rfl, rfl⟩
    | some row => exact ⟨message, inside, rfl, rfl⟩

end Write

theorem Sound.rewrites (sound : namings.Sound topic database) {column : String}
    {change : List CursorRow → List CursorRow} {plan : Plan} {effect : Effect}
    (planned : database.onCursors (namings.cursorTable topic) column change = .ok plan)
    (outcome : plan.outcome = .ok effect) :
    ∃ rows, database.contents? (namings.cursorTable topic) = some (.cursors rows) ∧
      effect.after = database.put (namings.cursorTable topic) (.cursors (change rows)) := by
  cases held : database.contents? (namings.cursorTable topic) with
  | none => cases (Database.onCursors_of_missing held).symm.trans planned
  | some contents =>
      obtain ⟨rows, rfl⟩ := sound.cursors contents held
      cases (Database.onCursors_of_cursors held).symm.trans planned
      cases outcome
      exact ⟨rows, rfl, rfl⟩

end Namings

/-! Scripts. -/

namespace Script

variable {α : Type} {seen committed : Database → Prop}

/-- Whatever a script is answered, its statements leave views of one kind, and it commits only views of
another. -/
def Upholds (seen committed : Database → Prop) : Script α → Database → Prop
  | .done _, _ => True
  | .execute command next, view =>
      (∃ action, command = .run action) ∧ (∀ fault, (next (.error fault)).Upholds seen committed view) ∧
        ∀ now plan effect, view.plan now command = .ok plan → plan.outcome = .ok effect →
          seen effect.after ∧ (next (.ok effect)).Upholds seen committed effect.after
  | .hand _ next, view => ∀ verdict, (next verdict).Upholds seen committed view
  | .commit _, view => committed view
  | .rollback _, _ => True

theorem statement_upholds {statement : Statement} {next : Effect → Script (Except Failure α)}
    {view : Database}
    (later : ∀ now plan effect, view.plan now (.run statement.action) = .ok plan →
      plan.outcome = .ok effect →
      seen effect.after ∧ (next effect).Upholds seen committed effect.after) :
    (Script.statement statement next).Upholds seen committed view :=
  ⟨⟨_, rfl⟩, fun _ => trivial, later⟩

end Script

section Polls

variable {namings : Namings} {topic : String} {view : Database}

theorem Member.delivering_upholds (member : Member) (valid : isTopic topic = true)
    (rows : List LogRow) (count : Nat) (settled : namings.Settled topic view)
    (inside : ∀ row ∈ rows, row ∈ (namings.log topic view).rows)
    (ascending : rows.Pairwise fun a b => a.offset < b.offset)
    (above : ∀ row ∈ rows, namings.acked topic view member.group < row.offset) :
    (member.delivering namings topic rows count).Upholds (namings.Level topic)
      (namings.Settled topic) view := by
  -- Between a mark and the acknowledgment after it the view is level; after both it is settled again.
  induction rows generalizing count view with
  | nil => exact settled
  | cons row rest ih =>
      rcases member.delivering_cases namings valid (row :: rest) count with
        ⟨result, commits⟩ | ⟨_, _, delivery, ⟨rfl, rfl⟩, decodes, statement⟩
      · rw [commits]
        exact settled
      · rw [statement, Member.decode_offset decodes]
        have first := inside row (.head _)
        apply Script.statement_upholds
        intro now plan effect planned outcome
        obtain ⟨cursors, holds, marked⟩ := settled.sound.rewrites planned outcome
        rw [marked]
        refine ⟨settled.mark holds first (above row (.head _)), fun verdict => ?_⟩
        cases verdict with
        | refused text => trivial
        | accepted =>
            have held := Database.contents_put_held
              (.cursors (Cursors.mark member.group row.offset cursors)) holds
            simp only [Member.judging, Member.acknowledging, Member.decode_offset decodes]
            apply Script.statement_upholds
            intro now plan effect planned outcome
            cases (Database.onCursors_of_cursors held).symm.trans planned
            cases outcome
            rw [Database.put_put, Cursors.acknowledge_mark]
            obtain ⟨next, log, own⟩ := settled.acknowledge holds first valid
            obtain ⟨below, later⟩ := List.pairwise_cons.mp ascending
            refine ⟨next.level, ih (count + 1) next ?_ later ?_⟩
            · rw [log]
              exact fun other member => inside other (.tail _ member)
            · rw [own]
              exact below

theorem Member.fetching_upholds (member : Member) (valid : isTopic topic = true)
    (settled : namings.Settled topic view) :
    (member.fetching namings topic).Upholds (namings.Level topic) (namings.Settled topic) view := by
  apply Script.statement_upholds
  intro now plan effect planned outcome
  rcases Namings.plan_fetch member.group settled.sound now member.effectiveBatchSize with
    ⟨fault, failed⟩ | ⟨fetch, fetches, -, ⟨fault, failed⟩ | read⟩
  · cases failed.symm.trans planned
  · cases fetches.symm.trans planned
    cases failed.symm.trans outcome
  · cases fetches.symm.trans planned
    cases read.symm.trans outcome
    have ascending := settled.sound.ordered.ascending
    refine ⟨settled.level, member.delivering_upholds valid _ 0 settled ?_ ?_ ?_⟩
    · exact fun row member => (Log.batch_above member).1
    · exact Log.batch_ascending ascending _ _
    · exact fun row member => (Log.batch_above member).2

theorem Member.claiming_upholds (member : Member) (valid : isTopic topic = true)
    (settled : namings.Settled topic view) :
    (member.claiming namings topic).Upholds (namings.Level topic) (namings.Settled topic) view := by
  apply Script.statement_upholds
  intro now plan effect planned outcome
  rcases Namings.plan_claim member.group settled.sound now with ⟨fault, failed⟩ | claimed
  · cases failed.symm.trans planned
  · cases claimed.symm.trans planned
    cases outcome
    exact ⟨settled.level, member.fetching_upholds valid settled⟩

end Polls

end TopicLog
