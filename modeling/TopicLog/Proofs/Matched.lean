import TopicLog.Proofs.Cursors
import TopicLog.Proofs.Operations

/-!
Databases that match on a topic: the same messages, and cursors that are alike in some respect. The
operations on the topic answer the same in both and keep them so, as far as the groups whose cursors
they use are told by what is alike. Operations of groups that it does not tell, and operations on tables
of other names, leave a database that matches what it matched.
-/
namespace TopicLog

namespace Cursors

/-- Rows that are alike have the same bound for a group, and stay alike when its row is written. -/
structure Tells (alike : List CursorRow → List CursorRow → Prop) (group : String) : Prop where
  bound : ∀ rows other, alike rows other → bound group rows = bound group other
  mark : ∀ offset rows other, alike rows other →
    alike (mark group offset rows) (mark group offset other)
  acknowledge : ∀ offset rows other, alike rows other →
    alike (acknowledge group offset rows) (acknowledge group offset other)

/-- Rows stay alike when the row of a group is written in one place only. -/
structure Ignores (alike : List CursorRow → List CursorRow → Prop) (group : String) : Prop where
  mark : ∀ offset rows other, alike rows other → alike (mark group offset rows) other
  acknowledge : ∀ offset rows other, alike rows other → alike (acknowledge group offset rows) other

def SameFor (group : String) (rows other : List CursorRow) : Prop :=
  find? group rows = find? group other

theorem sameFor_tells (group : String) : Tells (SameFor group) group where
  bound _ _ same := bound_of_find same
  mark offset rows other same := by
    unfold SameFor
    rw [find_mark, find_mark, same]
  acknowledge offset rows other same := by
    unfold SameFor
    rw [find_acknowledge, find_acknowledge, same]

theorem sameFor_ignores {group other : String} (apart : group ≠ other) :
    Ignores (SameFor group) other where
  mark offset _ _ same := (find_mark_other apart offset _).trans same
  acknowledge offset _ _ same := (find_acknowledge_other apart offset _).trans same

theorem eq_tells (group : String) : Tells Eq group where
  bound _ _ := congrArg _
  mark _ _ _ := congrArg _
  acknowledge _ _ _ := congrArg _

end Cursors

/-- Tables of which both are missing, or which differ at most in cursors that are alike. -/
inductive Table.Alike (alike : List CursorRow → List CursorRow → Prop) :
    Option Table → Option Table → Prop
  | missing : Alike alike none none
  | log (name : String) (log : Log) : Alike alike (some ⟨name, .log log⟩) (some ⟨name, .log log⟩)
  | cursors (name : String) {rows other : List CursorRow} (like : alike rows other) :
      Alike alike (some ⟨name, .cursors rows⟩) (some ⟨name, .cursors other⟩)

structure Namings.Matched (namings : Namings) (topic : String)
    (alike : List CursorRow → List CursorRow → Prop) (first second : Database) : Prop where
  messages : first.table? (namings.messageTable topic) = second.table? (namings.messageTable topic)
  cursors : Table.Alike alike (first.table? (namings.cursorTable topic))
    (second.table? (namings.cursorTable topic))
  messageIndex : first.index? (namings.messageTable topic) =
    second.index? (namings.messageTable topic)
  cursorIndex : first.index? (namings.cursorTable topic) = second.index? (namings.cursorTable topic)

def Namings.tables (namings : Namings) (topic : String) : List String :=
  [namings.messageTable topic, namings.cursorTable topic]

section Matched

variable {alike : List CursorRow → List CursorRow → Prop} {namings : Namings} {topic : String}
  {first second : Database} {now : Timestamp}

theorem Table.Alike.isSome {first second : Option Table} (tables : Table.Alike alike first second) :
    first.isSome = second.isSome := by
  cases tables <;> rfl

theorem Table.Alike.refl (same : ∀ rows, alike rows rows) (table : Option Table) :
    Table.Alike alike table table :=
  match table with
  | none => .missing
  | some ⟨name, .log kept⟩ => .log name kept
  | some ⟨name, .cursors rows⟩ => .cursors name (same rows)

theorem Table.Alike.or (same : ∀ rows, alike rows rows) {first second : Option Table}
    (tables : Table.Alike alike first second) (table : Option Table) :
    Table.Alike alike (first.or table) (second.or table) := by
  cases tables with
  | missing => exact .refl same table
  | log name kept => exact .log name kept
  | cursors name like => exact .cursors name like

theorem Namings.matched_stable : Stable (namings.Matched topic alike) := by
  intro first second one other same sameToo matched
  constructor
  · rw [← same.table, ← sameToo.table, matched.messages]
  · rw [← same.table, ← sameToo.table]
    exact matched.cursors
  · rw [← same.index, ← sameToo.index, matched.messageIndex]
  · rw [← same.index, ← sameToo.index, matched.cursorIndex]

namespace Namings.Matched

theorem refl (same : ∀ rows, alike rows rows) (database : Database) :
    namings.Matched topic alike database database :=
  ⟨rfl, .refl same _, rfl, rfl⟩

theorem addTable (same : ∀ rows, alike rows rows)
    (matched : namings.Matched topic alike first second) (table : Table) :
    namings.Matched topic alike (first.addTable table) (second.addTable table) where
  messages := by rw [Database.table_addTable, Database.table_addTable, matched.messages]
  cursors := by
    rw [Database.table_addTable, Database.table_addTable]
    exact matched.cursors.or same _
  messageIndex := matched.messageIndex
  cursorIndex := matched.cursorIndex

theorem create (same : ∀ rows, alike rows rows)
    (matched : namings.Matched topic alike first second) {action : Action} {name : String}
    {contents : Contents}
    (plans : ∀ database : Database,
      database.plan now (.run action) = database.create name contents)
    (own : name = namings.messageTable topic ∨ name = namings.cursorTable topic) :
    (first.answer now (.run action)).1.map Effect.told =
        (second.answer now (.run action)).1.map Effect.told ∧
      namings.Matched topic alike (first.answer now (.run action)).2
        (second.answer now (.run action)).2 := by
  have there : (first.table? name).isSome = (second.table? name).isSome := by
    rcases own with rfl | rfl
    · rw [matched.messages]
    · exact matched.cursors.isSome
  have indexed : first.index? name = second.index? name := by
    rcases own with rfl | rfl
    · exact matched.messageIndex
    · exact matched.cursorIndex
  unfold Database.answer
  rw [plans, plans]
  unfold Database.create
  rw [there, indexed]
  cases isReserved name with
  | true => exact ⟨rfl, matched⟩
  | false =>
      cases (second.table? name).isSome with
      | true => exact ⟨rfl, matched⟩
      | false =>
          cases (second.index? name).isSome with
          | true => exact ⟨rfl, matched⟩
          | false => exact ⟨rfl, matched.addTable same ⟨name, contents⟩⟩

theorem find (matched : namings.Matched topic alike first second) :
    first.find (namings.messageTable topic) = second.find (namings.messageTable topic) := by
  unfold Database.find
  rw [matched.messages]

theorem kinds (matched : namings.Matched topic alike first second) :
    (first.table? (namings.cursorTable topic) = none ∧
        second.table? (namings.cursorTable topic) = none) ∨
      (∃ name log, first.table? (namings.cursorTable topic) = some ⟨name, .log log⟩ ∧
        second.table? (namings.cursorTable topic) = some ⟨name, .log log⟩) ∨
      ∃ name rows other, first.table? (namings.cursorTable topic) = some ⟨name, .cursors rows⟩ ∧
        second.table? (namings.cursorTable topic) = some ⟨name, .cursors other⟩ ∧
        alike rows other := by
  have tables := matched.cursors
  generalize first.table? (namings.cursorTable topic) = one at tables ⊢
  generalize second.table? (namings.cursorTable topic) = other at tables ⊢
  cases tables with
  | missing => exact .inl ⟨rfl, rfl⟩
  | log name kept => exact .inr (.inl ⟨name, kept, rfl, rfl⟩)
  | cursors name like => exact .inr (.inr ⟨name, _, _, rfl, rfl, like⟩)

theorem bound (matched : namings.Matched topic alike first second) {group : String}
    (tells : Cursors.Tells alike group) (dialect : Dialect) :
    first.bound ⟨dialect, namings.cursorTable topic, group⟩ =
      second.bound ⟨dialect, namings.cursorTable topic, group⟩ := by
  simp only [Database.bound, Database.find]
  rcases matched.kinds with ⟨one, other⟩ | ⟨name, log, one, other⟩ |
    ⟨name, rows, rowsToo, one, other, like⟩
  · rw [one, other]
  · rw [one, other]
  · rw [one, other]
    exact congrArg Except.ok (tells.bound rows rowsToo like)

/-- A table that has the messages of the topic is not the one of its cursors. -/
theorem putMessages (matched : namings.Matched topic alike first second)
    (apart : sameName (namings.messageTable topic) (namings.cursorTable topic) = false)
    (contents : Contents) :
    namings.Matched topic alike (first.put (namings.messageTable topic) contents)
      (second.put (namings.messageTable topic) contents) where
  messages := by rw [Database.table_put, Database.table_put, matched.messages]
  cursors := by
    rw [Database.table_put, Database.table_put]
    simpa [apart] using matched.cursors
  messageIndex := matched.messageIndex
  cursorIndex := matched.cursorIndex

theorem table_putCursors {database : Database}
    (apart : sameName (namings.cursorTable topic) (namings.messageTable topic) = false)
    {name : String} {rows : List CursorRow}
    (found : database.table? (namings.cursorTable topic) = some ⟨name, .cursors rows⟩)
    (written : List CursorRow) :
    let left := database.put (namings.cursorTable topic) (.cursors written)
    left.table? (namings.messageTable topic) = database.table? (namings.messageTable topic) ∧
      left.table? (namings.cursorTable topic) = some ⟨name, .cursors written⟩ := by
  intro left
  rw [Database.table_put, Database.table_put, found]
  simp [apart, sameName_refl]

theorem writeCursors (matched : namings.Matched topic alike first second)
    (apart : sameName (namings.cursorTable topic) (namings.messageTable topic) = false)
    {name : String} {rows other written : List CursorRow}
    (found : first.table? (namings.cursorTable topic) = some ⟨name, .cursors rows⟩)
    (foundToo : second.table? (namings.cursorTable topic) = some ⟨name, .cursors other⟩)
    (like : alike written other) :
    namings.Matched topic alike (first.put (namings.cursorTable topic) (.cursors written))
      second := by
  obtain ⟨messages, cursors⟩ := table_putCursors apart found written
  refine ⟨messages.trans matched.messages, ?_, matched.messageIndex, matched.cursorIndex⟩
  rw [cursors, foundToo]
  exact .cursors name like

theorem putCursors (matched : namings.Matched topic alike first second)
    (apart : sameName (namings.cursorTable topic) (namings.messageTable topic) = false)
    {name : String} {rows other written writtenToo : List CursorRow}
    (found : first.table? (namings.cursorTable topic) = some ⟨name, .cursors rows⟩)
    (foundToo : second.table? (namings.cursorTable topic) = some ⟨name, .cursors other⟩)
    (like : alike written writtenToo) :
    namings.Matched topic alike (first.put (namings.cursorTable topic) (.cursors written))
      (second.put (namings.cursorTable topic) (.cursors writtenToo)) := by
  obtain ⟨messages, cursors⟩ := table_putCursors apart found written
  obtain ⟨messagesToo, cursorsToo⟩ := table_putCursors apart foundToo writtenToo
  refine ⟨messages.trans (matched.messages.trans messagesToo.symm), ?_, matched.messageIndex,
    matched.cursorIndex⟩
  rw [cursors, cursorsToo]
  exact .cursors name like

end Namings.Matched

/-! Statements on the topic. -/

theorem Namings.claim_respects {group : String} (tells : Cursors.Tells alike group) :
    (Action.claim ⟨.sqlite, namings.cursorTable topic, group⟩).Respects
      (namings.Matched topic alike) := by
  intro now first second matched
  simp only [Database.answer, Database.plan, Database.planAction, matched.bound tells]
  cases second.bound ⟨.sqlite, namings.cursorTable topic, group⟩ with
  | error fault => exact ⟨rfl, matched⟩
  | ok bound => exact ⟨rfl, matched⟩

theorem Namings.fetch_respects {group : String} (tells : Cursors.Tells alike group) (limit : Nat) :
    (Action.fetch (namings.messageTable topic) ⟨.sqlite, namings.cursorTable topic, group⟩
      limit).Respects (namings.Matched topic alike) := by
  intro now first second matched
  simp only [Database.answer, Database.plan, Database.planAction, Database.fetch,
    matched.bound tells, matched.find]
  cases second.find (namings.messageTable topic) with
  | error fault => exact ⟨rfl, matched⟩
  | ok table =>
      cases second.bound ⟨.sqlite, namings.cursorTable topic, group⟩ with
      | error fault => exact ⟨rfl, matched⟩
      | ok bound =>
          simp only [bind, Except.bind, pure, Except.pure]
          by_cases large : Value.greatestInteger < limit
          · simp only [if_pos large]
            exact ⟨trivial, matched⟩
          · simp only [if_neg large]
            exact ⟨rfl, matched⟩

theorem Namings.append_respects
    (apart : sameName (namings.messageTable topic) (namings.cursorTable topic) = false)
    (records : List Record) :
    (Action.append (namings.messageTable topic) records).Respects (namings.Matched topic alike) := by
  intro now first second matched
  simp only [Database.answer, Database.plan, Database.planAction, Database.append, Database.onLog,
    matched.find]
  cases second.find (namings.messageTable topic) with
  | error fault => exact ⟨rfl, matched⟩
  | ok table =>
      simp only [bind, Except.bind, pure, Except.pure]
      cases table.contents with
      | cursors rows => exact ⟨rfl, matched⟩
      | log log =>
          dsimp only
          cases log.append table.name now records with
          | error fault => exact ⟨rfl, matched⟩
          | ok grown => exact ⟨rfl, matched.putMessages apart (.log grown)⟩

theorem Namings.onCursors_respects
    (apart : sameName (namings.cursorTable topic) (namings.messageTable topic) = false)
    {action : Action} {column : String} {change : List CursorRow → List CursorRow}
    (plans : ∀ now (database : Database), database.plan now (.run action) =
      database.onCursors (namings.cursorTable topic) column change)
    (keeps : ∀ rows other, alike rows other → alike (change rows) (change other)) :
    action.Respects (namings.Matched topic alike) := by
  intro now first second matched
  simp only [Database.answer, plans, Database.onCursors, Database.find]
  rcases matched.kinds with ⟨one, other⟩ | ⟨name, log, one, other⟩ |
    ⟨name, rows, rowsToo, one, other, like⟩
  · rw [one, other]
    exact ⟨rfl, matched⟩
  · rw [one, other]
    exact ⟨rfl, matched⟩
  · rw [one, other]
    exact ⟨rfl, matched.putCursors apart one other (keeps rows rowsToo like)⟩

theorem Namings.onCursors_spares
    (apart : sameName (namings.cursorTable topic) (namings.messageTable topic) = false)
    {action : Action} {column : String} {change : List CursorRow → List CursorRow}
    (plans : ∀ now (database : Database), database.plan now (.run action) =
      database.onCursors (namings.cursorTable topic) column change)
    (keeps : ∀ rows other, alike rows other → alike (change rows) other) :
    action.Spares (namings.Matched topic alike) := by
  intro now first second matched
  simp only [Database.answer, plans, Database.onCursors, Database.find]
  rcases matched.kinds with ⟨one, other⟩ | ⟨name, log, one, other⟩ |
    ⟨name, rows, rowsToo, one, other, like⟩
  · rw [one]
    exact matched
  · rw [one]
    exact matched
  · rw [one]
    exact matched.writeCursors apart one other (keeps rows rowsToo like)

/-! Operations. -/

variable {σ : Type} {operation : Operation σ}

theorem Operation.respects
    (apart : sameName (namings.messageTable topic) (namings.cursorTable topic) = false)
    (same : ∀ rows, alike rows rows)
    (about : ∀ other, operation.topic? = some other → other = topic)
    (tells : ∀ group, operation.group? = some group → Cursors.Tells alike group) :
    operation.Runs namings (Action.Respects (namings.Matched topic alike)) := by
  have apartToo : sameName (namings.cursorTable topic) (namings.messageTable topic) = false :=
    (sameName_comm _ _).trans apart
  have createLog : (Action.createLog (namings.messageTable topic)).Respects
      (namings.Matched topic alike) :=
    fun _ _ _ matched => matched.create same (fun _ => rfl) (.inl rfl)
  have createCursors : (Action.createCursors (namings.cursorTable topic)).Respects
      (namings.Matched topic alike) :=
    fun _ _ _ matched => matched.create same (fun _ => rfl) (.inr rfl)
  have mark {group : String} (tells : Cursors.Tells alike group) (offset : Int) :
      (Action.markConsumed (namings.cursorTable topic) group offset).Respects
        (namings.Matched topic alike) :=
    Namings.onCursors_respects apartToo (fun _ _ => rfl) (tells.mark offset)
  have acknowledge {group : String} (tells : Cursors.Tells alike group) (offset : Int) :
      (Action.acknowledge (namings.cursorTable topic) group offset).Respects
        (namings.Matched topic alike) :=
    Namings.onCursors_respects apartToo (fun _ _ => rfl) (tells.acknowledge offset)
  cases operation with
  | setUpPublisher number other =>
      obtain rfl := about other rfl
      exact createLog
  | publish number other messages =>
      obtain rfl := about other rfl
      exact ⟨createLog, Namings.append_respects apart⟩
  | setUpSubscriber member other =>
      obtain rfl := about other rfl
      exact ⟨createCursors, createLog⟩
  | poll member other handler state =>
      obtain rfl := about other rfl
      have told := tells member.settings.group rfl
      exact ⟨Namings.claim_respects told, Namings.fetch_respects told,
        fun offset => ⟨mark told offset, acknowledge told offset⟩⟩
  | claim other group =>
      obtain rfl := about other rfl
      exact Namings.claim_respects (tells group rfl)
  | mark other group offset =>
      obtain rfl := about other rfl
      exact mark (tells group rfl) offset
  | acknowledge other group offset =>
      obtain rfl := about other rfl
      exact acknowledge (tells group rfl) offset
  | pause clock => trivial

theorem Action.spares_of_reads {action : Action} {agree : Database → Database → Prop}
    (reads : ∀ now (database : Database) plan, database.plan now (.run action) = .ok plan →
      plan.writes = false) : action.Spares agree := by
  intro now first second agreed
  unfold Database.answer
  cases planned : first.plan now (.run action) with
  | error fault => exact agreed
  | ok plan =>
      have unwritten := (Database.honest_run planned).reads (reads now first plan planned)
      dsimp only
      rw [unwritten]
      exact agreed

/-- An operation on the topic that uses the cursor of a group of no concern. -/
theorem Operation.spares_group
    (apart : sameName (namings.messageTable topic) (namings.cursorTable topic) = false)
    (about : operation.topic? = some topic)
    {group : String} (used : operation.group? = some group) (ignores : Cursors.Ignores alike group) :
    operation.Runs namings (Action.Spares (namings.Matched topic alike)) := by
  have apartToo : sameName (namings.cursorTable topic) (namings.messageTable topic) = false :=
    (sameName_comm _ _).trans apart
  have mark (offset : Int) : (Action.markConsumed (namings.cursorTable topic) group offset).Spares
      (namings.Matched topic alike) :=
    Namings.onCursors_spares apartToo (fun _ _ => rfl) (ignores.mark offset)
  have acknowledge (offset : Int) :
      (Action.acknowledge (namings.cursorTable topic) group offset).Spares
        (namings.Matched topic alike) :=
    Namings.onCursors_spares apartToo (fun _ _ => rfl) (ignores.acknowledge offset)
  have claim : (Action.claim ⟨.sqlite, namings.cursorTable topic, group⟩).Spares
      (namings.Matched topic alike) :=
    Action.spares_of_reads fun now _ _ planned => Database.claim_unwritten now planned
  have fetch (limit : Nat) : (Action.fetch (namings.messageTable topic)
      ⟨.sqlite, namings.cursorTable topic, group⟩ limit).Spares (namings.Matched topic alike) :=
    Action.spares_of_reads fun _ _ _ planned => Database.fetch_unwritten planned
  cases operation with
  | poll member other handler state =>
      cases about
      cases used
      exact ⟨claim, fetch, fun offset => ⟨mark offset, acknowledge offset⟩⟩
  | claim other group =>
      cases about
      cases used
      exact claim
  | mark other group offset =>
      cases about
      cases used
      exact mark offset
  | acknowledge other group offset =>
      cases about
      cases used
      exact acknowledge offset
  | _ => cases used

/-! Operations on tables of other names. -/

theorem Namings.Matched.elsewhere (matched : namings.Matched topic alike first second)
    {changed : Database} (indexes : changed.indexes = first.indexes)
    (tables : ∀ own ∈ namings.tables topic, changed.table? own = first.table? own) :
    namings.Matched topic alike changed second := by
  have index (name : String) : changed.index? name = first.index? name := by
    rw [Database.index?, indexes, Database.index?]
  constructor
  · exact (tables _ (by simp [Namings.tables])).trans matched.messages
  · rw [tables _ (by simp [Namings.tables])]
    exact matched.cursors
  · exact (index _).trans matched.messageIndex
  · exact (index _).trans matched.cursorIndex

/-- A statement that makes or rewrites at most a table that is none of the topic's. -/
theorem Namings.spares_elsewhere {action : Action} {name : String}
    (elsewhere : ∀ own ∈ namings.tables topic, sameName name own = false)
    (leaves : ∀ now (database : Database) plan, database.plan now (.run action) = .ok plan →
      (Storage.leaves database plan).after = database ∨
        ∃ contents, (Storage.leaves database plan).after = database.put name contents ∨
          (Storage.leaves database plan).after = database.addTable ⟨name, contents⟩) :
    action.Spares (namings.Matched topic alike) := by
  intro now first second matched
  unfold Database.answer
  cases planned : first.plan now (.run action) with
  | error fault => exact matched
  | ok plan =>
      dsimp only
      rcases leaves now first plan planned with same | ⟨contents, put | added⟩
      · rw [same]
        exact matched
      · rw [put]
        refine matched.elsewhere rfl fun own member => ?_
        simp [Database.table_put, elsewhere own member]
      · rw [added]
        refine matched.elsewhere rfl fun own member => ?_
        simp [Database.table_addTable, elsewhere own member]

theorem Operation.spares_topic {other : String} (about : operation.topic? = some other)
    (elsewhere : ∀ name ∈ namings.tables other, ∀ own ∈ namings.tables topic,
      sameName name own = false) :
    operation.Runs namings (Action.Spares (namings.Matched topic alike)) := by
  have messages := elsewhere (namings.messageTable other) (by simp [Namings.tables])
  have cursors := elsewhere (namings.cursorTable other) (by simp [Namings.tables])
  have made {name : String} {contents : Contents} {database : Database} {plan : Plan}
      (planned : database.create name contents = .ok plan) :
      (Storage.leaves database plan).after = database ∨
        ∃ contents, (Storage.leaves database plan).after = database.put name contents ∨
          (Storage.leaves database plan).after = database.addTable ⟨name, contents⟩ :=
    (Database.create_leaves planned).imp_right fun added => ⟨contents, .inr added.2⟩
  have createLog : (Action.createLog (namings.messageTable other)).Spares
      (namings.Matched topic alike) :=
    Namings.spares_elsewhere messages fun _ _ _ planned => made planned
  have createCursors : (Action.createCursors (namings.cursorTable other)).Spares
      (namings.Matched topic alike) :=
    Namings.spares_elsewhere cursors fun _ _ _ planned => made planned
  have append (records : List Record) : (Action.append (namings.messageTable other) records).Spares
      (namings.Matched topic alike) :=
    Namings.spares_elsewhere messages fun _ _ _ planned =>
      (Database.append_leaves planned).imp_right fun ⟨_, _, grown, _, _, put⟩ =>
        ⟨.log grown, .inl put⟩
  have moved {action : Action} {column : String} {change : List CursorRow → List CursorRow}
      (plans : ∀ now (database : Database), database.plan now (.run action) =
        database.onCursors (namings.cursorTable other) column change) :
      action.Spares (namings.Matched topic alike) :=
    Namings.spares_elsewhere cursors fun now database _ planned =>
      have ⟨rows, put⟩ := Database.onCursors_leaves ((plans now database).symm.trans planned)
      .inr ⟨.cursors rows, .inl put⟩
  have claim (group : String) : (Action.claim ⟨.sqlite, namings.cursorTable other, group⟩).Spares
      (namings.Matched topic alike) :=
    Action.spares_of_reads fun now _ _ planned => Database.claim_unwritten now planned
  have fetch (claim : Claim) (limit : Nat) : (Action.fetch (namings.messageTable other) claim
      limit).Spares (namings.Matched topic alike) :=
    Action.spares_of_reads fun _ _ _ planned => Database.fetch_unwritten planned
  cases operation with
  | setUpPublisher number named =>
      cases about
      exact createLog
  | publish number named messages =>
      cases about
      exact ⟨createLog, append⟩
  | setUpSubscriber member named =>
      cases about
      exact ⟨createCursors, createLog⟩
  | poll member named handler state =>
      cases about
      exact ⟨claim _, fetch _, fun offset => ⟨moved fun _ _ => rfl, moved fun _ _ => rfl⟩⟩
  | claim named group =>
      cases about
      exact claim group
  | mark named group offset =>
      cases about
      exact moved fun _ _ => rfl
  | acknowledge named group offset =>
      cases about
      exact moved fun _ _ => rfl
  | pause clock => cases about

end Matched

end TopicLog
