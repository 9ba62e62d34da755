import Mathlib.Data.List.Induction
import Mathlib.Data.List.Nodup
import TopicLog.Proofs.Operations
import TopicLog.Proofs.Reached
import TopicLog.Proofs.Readers
import TopicLog.Proofs.Undisturbed

/-!
The cursors of a topic after any history of transactions that mark and acknowledge offsets. One
transaction follows another, and each is committed, rolled back or dropped. What its statements wrote in
the committed ones is all that is left: the bound of a group is the offset that was acknowledged last,
and marks move no bound, not even where they make the row of a group.
-/
namespace TopicLog

/-! Histories. -/

inductive Ending where
  | committed
  | rolledBack
  | dropped
  deriving DecidableEq

/-- What a transaction writes, in order, and how it ends. -/
structure CursorTransaction where
  upserts : List Upsert
  ending : Ending

/-- All that the committed transactions of a history wrote, in order. -/
def committedUpserts (history : List CursorTransaction) : List Upsert :=
  (history.filter fun transaction => transaction.ending = .committed).flatMap
    CursorTransaction.upserts

namespace Upsert

/-- The offset that a statement consumes for a group; to acknowledge is to consume. -/
def consumes (group : String) : Upsert → Option Int
  | .mark delivery other | .acknowledge delivery other =>
      if other = group then some delivery.offset else none

def last (tells : Upsert → Option Int) (upserts : List Upsert) : Option Int :=
  (upserts.filterMap tells).getLast?

def lastAcknowledged (group : String) : List Upsert → Option Int := last (acknowledges group)

def lastConsumed (group : String) : List Upsert → Option Int := last (consumes group)

def lastRow (group : String) (upserts : List Upsert) : Option CursorRow :=
  (lastConsumed group upserts).map fun consumed =>
    ⟨.text group, ((lastAcknowledged group upserts).map Value.int).getD .null, .int consumed⟩

end Upsert

namespace Session

def writes (session : Session) (name : Option String) (topic : String) (upserts : List Upsert) :
    Session :=
  upserts.foldl (fun session upsert => (session.write name topic upsert).2) session

def finish (session : Session) (name : String) : Ending → Session
  | .committed => session.commitNamed name
  | .rolledBack | .dropped => session.rollbackNamed name

def play (session : Session) (name topic : String) (history : List CursorTransaction) : Session :=
  history.foldl (fun session transaction =>
    ((session.beginNamed name).writes (some name) topic transaction.upserts).finish name
      transaction.ending) session

/-- The database that the transaction of a name sees, or the committed one. -/
def sees (session : Session) (name : Option String) : Database :=
  match name.bind fun name => session.named.lookup name with
  | some handle => session.storage.view handle
  | none => session.storage.committed

/-- No transaction is open, and the cursors of a topic are these. -/
structure Between (names : Names) (topic : String) (rows : List CursorRow) (session : Session) :
    Prop where
  layout : session.cursors = names.cursorLayout
  unnamed : session.named = []
  closed : session.storage.holds = []
  cursors : session.storage.committed.contents? (names.cursorTable topic) = some (.cursors rows)

structure Inside (names : Names) (topic name : String) (base : Database) (rows : List CursorRow)
    (session : Session) : Prop where
  layout : session.cursors = names.cursorLayout
  committed : session.storage.committed = base
  alone : ∃ handle view, session.named = [(name, handle)] ∧ session.storage.Solo handle view ∧
    view.contents? (names.cursorTable topic) = some (.cursors rows)

/-- What is read in the transaction of a name, or outside any, when these statements took effect. -/
structure Tells (names : Names) (topic : String) (name : Option String) (upserts : List Upsert)
    (session : Session) : Prop where
  bounds : ∀ group, (session.claim name topic group).1 =
    .ok ((Upsert.lastAcknowledged group upserts).getD 0)
  rows : ∃ rows, (session.sees name).contents? (names.cursorTable topic) = some (.cursors rows) ∧
    (rows.map CursorRow.group).Nodup ∧
    ∀ group, Cursors.find? group rows = Upsert.lastRow group upserts

end Session

/-! The rows that statements leave. -/

namespace Cursors

theorem groups_upsert {group : String} {update : CursorRow → CursorRow} {fresh : CursorRow}
    (keeps : ∀ row, (update row).group = row.group) (named : fresh.group = .text group)
    (rows : List CursorRow) :
    (upsert group update fresh rows).map CursorRow.group =
      if .text group ∈ rows.map CursorRow.group then rows.map CursorRow.group
      else rows.map CursorRow.group ++ [.text group] := by
  induction rows with
  | nil => simp [upsert, named]
  | cons row rest ih =>
      by_cases hit : row.group = .text group
      · simp [upsert, hit, keeps]
      · rw [upsert, if_neg hit, List.map_cons, ih]
        have apart : Value.text group ≠ row.group := Ne.symm hit
        by_cases later : Value.text group ∈ rest.map CursorRow.group
        · simp [later]
        · simp [later, apart]

theorem nodup_upsert {group : String} {update : CursorRow → CursorRow} {fresh : CursorRow}
    (keeps : ∀ row, (update row).group = row.group) (named : fresh.group = .text group)
    {rows : List CursorRow} (single : (rows.map CursorRow.group).Nodup) :
    ((upsert group update fresh rows).map CursorRow.group).Nodup := by
  rw [groups_upsert keeps named]
  split
  · exact single
  · rename_i missing
    rw [← List.concat_eq_append]
    exact List.Nodup.concat missing single

end Cursors

namespace Upsert

theorem last_snoc (tells : Upsert → Option Int) (upserts : List Upsert) (upsert : Upsert) :
    last tells (upserts ++ [upsert]) = (tells upsert).or (last tells upserts) := by
  rw [last, last, List.filterMap_append]
  cases told : tells upsert <;> simp [told]

theorem lastAcknowledged_snoc (group : String) (upserts : List Upsert) (upsert : Upsert) :
    lastAcknowledged group (upserts ++ [upsert]) =
      (upsert.acknowledges group).or (lastAcknowledged group upserts) :=
  last_snoc (acknowledges group) upserts upsert

theorem lastConsumed_snoc (group : String) (upserts : List Upsert) (upsert : Upsert) :
    lastConsumed group (upserts ++ [upsert]) =
      (upsert.consumes group).or (lastConsumed group upserts) :=
  last_snoc (consumes group) upserts upsert

theorem nodup_apply (upsert : Upsert) {rows : List CursorRow}
    (single : (rows.map CursorRow.group).Nodup) :
    ((upsert.apply rows).map CursorRow.group).Nodup := by
  cases upsert with
  | mark delivery group => exact Cursors.nodup_upsert (by simp) rfl single
  | acknowledge delivery group => exact Cursors.nodup_upsert (by simp) rfl single

theorem others_apply (upsert : Upsert) (rows : List CursorRow) :
    (upsert.apply rows).filter (fun row => row.group ≠ .text upsert.group) =
      rows.filter fun row => row.group ≠ .text upsert.group := by
  cases upsert with
  | mark delivery group => exact Cursors.others_upsert (by simp) rfl rows
  | acknowledge delivery group => exact Cursors.others_upsert (by simp) rfl rows

theorem bound_applyAll (upserts : List Upsert) (group : String) :
    Cursors.bound group (applyAll upserts []) =
      .int ((lastAcknowledged group upserts).getD 0) := by
  induction upserts using List.reverseRecOn with
  | nil => rfl
  | append_singleton upserts upsert ih =>
      rw [applyAll_snoc, bound_apply, ih, lastAcknowledged_snoc]
      cases upsert.acknowledges group <;> rfl

theorem nodup_applyAll (upserts : List Upsert) :
    ((applyAll upserts []).map CursorRow.group).Nodup := by
  induction upserts using List.reverseRecOn with
  | nil => exact List.nodup_nil
  | append_singleton upserts upsert ih =>
      rw [applyAll_snoc]
      exact upsert.nodup_apply ih

theorem lastAcknowledged_of_unconsumed {group : String} {upserts : List Upsert}
    (untouched : lastConsumed group upserts = none) : lastAcknowledged group upserts = none := by
  induction upserts using List.reverseRecOn with
  | nil => rfl
  | append_singleton upserts upsert ih =>
      rw [lastConsumed_snoc, Option.or_eq_none_iff] at untouched
      rw [lastAcknowledged_snoc, ih untouched.2, Option.or_none]
      cases upsert with
      | mark delivery other => rfl
      | acknowledge delivery other => exact untouched.1

theorem find_applyAll (upserts : List Upsert) (group : String) :
    Cursors.find? group (applyAll upserts []) = lastRow group upserts := by
  induction upserts using List.reverseRecOn with
  | nil => rfl
  | append_singleton upserts upsert ih =>
      rw [applyAll_snoc, lastRow, lastConsumed_snoc, lastAcknowledged_snoc]
      cases upsert with
      | mark delivery other =>
          by_cases same : group = other
          · subst same
            simp only [apply, Cursors.find_mark, ih, lastRow, consumes, acknowledges, ↓reduceIte]
            cases before : lastConsumed group upserts with
            | none => simp [lastAcknowledged_of_unconsumed before]
            | some consumed => simp
          · simp [apply, Cursors.find_mark_other same, ih, lastRow, consumes, acknowledges,
              Ne.symm same]
      | acknowledge delivery other =>
          by_cases same : group = other
          · subst same
            simp only [apply, Cursors.find_acknowledge, ih, lastRow, consumes, acknowledges,
              ↓reduceIte]
            cases before : lastConsumed group upserts with
            | none => simp
            | some consumed => simp
          · simp [apply, Cursors.find_acknowledge_other same, ih, lastRow, consumes, acknowledges,
              Ne.symm same]

theorem applyAll_append (first second : List Upsert) (rows : List CursorRow) :
    applyAll (first ++ second) rows = applyAll second (applyAll first rows) := List.foldl_append

end Upsert

/-! One transaction. -/

section Steps

variable {names : Names} {topic name : String} {base : Database} {rows : List CursorRow}
  {session : Session}

namespace Session

/-- A statement in the only transaction, or outside when none is open, is answered by the database that
it sees. -/
structure Answers (session : Session) (name : Option String) (database : Database) : Prop where
  sees : session.sees name = database
  answer : ∀ action, (session.command name (.run action)).1 =
    (database.answer session.storage.clock (.run action)).1.mapError .ofFault

theorem command_named {handle : Handle} (named : session.named = [(name, handle)])
    (command : Command) :
    session.command (some name) command =
      ((session.storage.execute handle command).1.mapError .ofFault,
        session.after (session.storage.execute handle command).2) := by
  have found : session.named.lookup name = some handle := by simp [named]
  simp only [Session.command, Option.bind_some, found]

theorem endNamed_named {handle : Handle} (named : session.named = [(name, handle)])
    (finish : Storage → Handle → Storage) :
    session.endNamed name finish =
      { session with named := [] }.after (finish session.storage handle) := by
  simp [endNamed, named]

theorem answers_inside {handle : Handle} {view : Database}
    (named : session.named = [(name, handle)]) (solo : session.storage.Solo handle view) :
    session.Answers (some name) view := by
  have found : session.named.lookup name = some handle := by simp [named]
  constructor
  · simp only [Session.sees, Option.bind_some, found]
    exact solo.sees
  · intro action
    rw [command_named named, (solo.execute action).1]

theorem answers_outside (closed : session.storage.holds = []) :
    session.Answers none session.storage.committed := by
  constructor
  · rfl
  · intro action
    have answered : (session.storage.autocommit (.run action)).1 =
        (session.storage.committed.answer session.storage.clock (.run action)).1 := by
      rw [Storage.autocommit_answer]
      exact ((Storage.Solo.begin closed).execute action).1
    simp only [command, Option.bind_none, answered]

theorem Answers.claim {database : Database} {name : Option String} {group : String} {bound : Int}
    (answers : session.Answers name database) (valid : isTopic topic = true)
    (layout : session.cursors = names.cursorLayout)
    (cursors : database.contents? (names.cursorTable topic) = some (.cursors rows))
    (bounded : Cursors.bound group rows = .int bound) :
    (session.claim name topic group).1 = .ok bound := by
  have told : database.bound (names.claim topic group) = .ok (Cursors.bound group rows) :=
    Database.bound_of_cursors (names.claim topic group) cursors
  have answer := answers.answer (names.claim topic group).statement.action
  simp only [Claim.statement, Database.answer, Database.plan, Database.planAction, told, bounded,
    Except.map] at answer
  simp only [Session.claim, layout, names.claim_built group valid]
  simp only [statement, Except.map, attempt, Claim.statement, answer]
  rfl

theorem Answers.tells {database : Database} {name : Option String} {upserts : List Upsert}
    (answers : session.Answers name database) (valid : isTopic topic = true)
    (layout : session.cursors = names.cursorLayout)
    (cursors : database.contents? (names.cursorTable topic) =
      some (.cursors (Upsert.applyAll upserts []))) :
    session.Tells names topic name upserts := by
  constructor
  · intro group
    exact answers.claim valid layout cursors (Upsert.bound_applyAll upserts group)
  · rw [answers.sees]
    exact ⟨_, cursors, Upsert.nodup_applyAll upserts, Upsert.find_applyAll upserts⟩

theorem Between.tells {upserts : List Upsert}
    (between : session.Between names topic (Upsert.applyAll upserts []))
    (valid : isTopic topic = true) : session.Tells names topic none upserts :=
  (answers_outside between.closed).tells valid between.layout between.cursors

theorem Inside.tells {upserts : List Upsert}
    (inside : session.Inside names topic name base (Upsert.applyAll upserts []))
    (valid : isTopic topic = true) : session.Tells names topic (some name) upserts := by
  obtain ⟨handle, view, named, solo, cursors⟩ := inside.alone
  exact (answers_inside named solo).tells valid inside.layout cursors

theorem Inside.seen (inside : session.Inside names topic name base rows) :
    (session.sees (some name)).contents? (names.cursorTable topic) = some (.cursors rows) := by
  obtain ⟨handle, view, named, solo, cursors⟩ := inside.alone
  rw [(answers_inside named solo).sees]
  exact cursors

theorem Between.begin (between : session.Between names topic rows) (name : String) :
    (session.beginNamed name).Inside names topic name session.storage.committed rows := by
  have begun : session.beginNamed name =
      { session with named := [(name, session.storage.fresh)] }.after
        session.storage.beginIsolated.2 := by
    simp only [beginNamed, between.unnamed, List.filter_nil]
    rfl
  rw [begun]
  constructor
  · exact between.layout
  · rfl
  · exact ⟨_, _, rfl, Storage.Solo.begin between.closed, between.cursors⟩

theorem write_eq (layout : session.cursors = names.cursorLayout) (valid : isTopic topic = true)
    (name : Option String) (upsert : Upsert) :
    session.write name topic upsert =
      ((session.command name (.run (upsert.action (names.cursorTable topic)))).1.map
          Effect.affected,
        (session.command name (.run (upsert.action (names.cursorTable topic)))).2) := by
  rw [write_usual layout, ofTopic_valid valid]
  rfl

theorem Inside.write (inside : session.Inside names topic name base rows)
    (valid : isTopic topic = true) (upsert : Upsert) :
    (session.write (some name) topic upsert).1 = .ok 1 ∧
      (session.write (some name) topic upsert).2.Inside names topic name base
        (upsert.apply rows) := by
  obtain ⟨handle, view, named, solo, cursors⟩ := inside.alone
  have executed := solo.execute (upsert.action (names.cursorTable topic))
  have frame := session.storage.execute_frame handle
    (.run (upsert.action (names.cursorTable topic)))
  simp only [Database.answer, upsert.plan_of_cursors cursors session.storage.clock] at executed
  rw [write_eq inside.layout valid, command_named named, executed.1]
  constructor
  · rfl
  · constructor
    · exact inside.layout
    · exact frame.1.trans inside.committed
    · exact ⟨handle, _, named, executed.2, Database.contents_put_held _ cursors⟩

theorem Inside.writes (inside : session.Inside names topic name base rows)
    (valid : isTopic topic = true) (upserts : List Upsert) :
    (session.writes (some name) topic upserts).Inside names topic name base
      (Upsert.applyAll upserts rows) := by
  induction upserts generalizing session rows with
  | nil => exact inside
  | cons upsert rest ih => exact ih (inside.write valid upsert).2

theorem Inside.commit (inside : session.Inside names topic name base rows) :
    (session.commitNamed name).Between names topic rows := by
  obtain ⟨handle, view, named, solo, cursors⟩ := inside.alone
  obtain ⟨same, closed⟩ := solo.commit
  rw [commitNamed, endNamed_named named]
  constructor
  · exact inside.layout
  · rfl
  · exact closed
  · exact (congrArg (Option.map Table.contents) (same.table _)).trans cursors

theorem Inside.rollback {earlier : List CursorRow}
    (inside : session.Inside names topic name base rows)
    (kept : base.contents? (names.cursorTable topic) = some (.cursors earlier)) :
    (session.rollbackNamed name).Between names topic earlier := by
  obtain ⟨handle, view, named, solo, -⟩ := inside.alone
  have committed := (session.storage.rollback_frame handle).1.trans inside.committed
  rw [rollbackNamed, endNamed_named named]
  constructor
  · exact inside.layout
  · rfl
  · exact solo.rollback
  · exact (congrArg (Database.contents? · _) committed).trans kept

/-! Whole histories. -/

theorem Between.play (between : session.Between names topic rows) (valid : isTopic topic = true)
    (name : String) (history : List CursorTransaction) :
    (session.play name topic history).Between names topic
      (Upsert.applyAll (committedUpserts history) rows) := by
  -- A transaction that is not committed gives back the rows that were there before it.
  induction history generalizing session rows with
  | nil => exact between
  | cons transaction rest ih =>
      have inside := (between.begin name).writes valid transaction.upserts
      cases transaction with
      | mk upserts ending =>
          cases ending with
          | committed =>
              have later := ih inside.commit
              rw [← Upsert.applyAll_append] at later
              exact later
          | rolledBack => exact ih (inside.rollback between.cursors)
          | dropped => exact ih (inside.rollback between.cursors)

end Session

end Steps

/-- After any history of transactions that marked and acknowledged offsets of any groups, the bound of a
group is the offset that was acknowledged last in a committed transaction, or zero, and every group has
at most one row, with the offset that was consumed last. A further transaction sees the same with its
own statements after those of the history; each of them writes one row and leaves the rows of all other
groups, and one that marks moves the bound of no group. -/
theorem bounds_follow_acknowledgments (names : Names) (topic name : String)
    (valid : isTopic topic = true) (session : Session)
    (start : session.Between names topic []) (history : List CursorTransaction) :
    let after := session.play name topic history
    let kept := committedUpserts history
    after.Tells names topic none kept ∧
    ∀ (upserts : List Upsert) (upsert : Upsert),
      let before := (after.beginNamed name).writes (some name) topic upserts
      let written := before.write (some name) topic upsert
      before.Tells names topic (some name) (kept ++ upserts) ∧
      written.1 = .ok 1 ∧
      written.2.Tells names topic (some name) (kept ++ upserts ++ [upsert]) ∧
      (∀ delivery group, upsert = .mark delivery group → ∀ other,
        (written.2.claim (some name) topic other).1 = (before.claim (some name) topic other).1) ∧
      ∃ earlier later,
        (before.sees (some name)).contents? (names.cursorTable topic) = some (.cursors earlier) ∧
        (written.2.sees (some name)).contents? (names.cursorTable topic) = some (.cursors later) ∧
        later.filter (fun row => row.group ≠ .text upsert.group) =
          earlier.filter fun row => row.group ≠ .text upsert.group := by
  intro after kept
  have between := start.play valid name history
  constructor
  · exact between.tells valid
  · intro upserts upsert before written
    have inside := (between.begin name).writes valid upserts
    rw [← Upsert.applyAll_append] at inside
    have one := inside.write valid upsert
    have told := inside.tells valid
    have wrote : written.2.Inside names topic name after.storage.committed
        (Upsert.applyAll (kept ++ upserts ++ [upsert]) []) := by
      rw [Upsert.applyAll_snoc]
      exact one.2
    have toldAfter := wrote.tells valid
    constructor
    · exact told
    · constructor
      · exact one.1
      · constructor
        · exact toldAfter
        · constructor
          · rintro delivery group rfl other
            rw [toldAfter.bounds, told.bounds, Upsert.lastAcknowledged_snoc]
            rfl
          · exact ⟨_, _, inside.seen, one.2.seen, upsert.others_apply _⟩

/-- Two groups: one acknowledges backwards and then marks further on, the other one only marks, and what
was acknowledged in transactions that were rolled back or dropped is forgotten. -/
theorem bounds_follow_acknowledgments_backwards :
    let delivery (offset : Int) : Delivery := ⟨offset, newYear, {}⟩
    let orders : Table := ⟨"sqlqueue_offsets_orders", .cursors []⟩
    let session := Namings.usual.names.session { clock := newYear, committed := ⟨[orders], []⟩ }
    let history : List CursorTransaction :=
      [⟨[.mark (delivery 9) "audit", .acknowledge (delivery 5) "billing"], .committed⟩,
        ⟨[.acknowledge (delivery 7) "billing"], .rolledBack⟩,
        ⟨[.acknowledge (delivery 3) "billing", .mark (delivery 8) "billing"], .committed⟩,
        ⟨[.acknowledge (delivery 6) "audit"], .dropped⟩]
    isTopic "orders" = true ∧ session.Between Namings.usual.names "orders" [] ∧
      ((session.play "tx" "orders" history).claim none "orders" "billing").1 = .ok 3 ∧
      ((session.play "tx" "orders" history).claim none "orders" "audit").1 = .ok 0 := by
  intro delivery orders session history
  have valid : isTopic "orders" = true := by decide
  have start : session.Between Namings.usual.names "orders" [] := ⟨rfl, rfl, rfl, by decide⟩
  have told := (bounds_follow_acknowledgments Namings.usual.names "orders" "tx" valid session start
    history).1.bounds
  exact ⟨valid, start, told "billing", told "audit"⟩

end TopicLog
