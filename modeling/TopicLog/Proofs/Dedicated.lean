import TopicLog.Proofs.Acceptance
import TopicLog.Proofs.Undisturbed
import TopicLog.Proofs.WholeBatches

/-!
A database that is used for one topic only. It holds the two tables of the topic, each of its own kind,
as far as they were made, and nothing else; whatever steps publishers, set-ups and polls take, it stays
so. A set-up that nobody disturbs therefore succeeds, and leaves both tables.
-/
namespace TopicLog

/-- The statements that there are on the tables of a topic. -/
def Namings.Concerns (namings : Namings) (topic : String) (command : Command) : Prop :=
  ∃ action, command = .run action ∧ (namings.publishes topic action = true ∨
    (∃ claim, action = .claim claim) ∨ (∃ table claim limit, action = .fetch table claim limit) ∨
    (∃ group offset, action = .markConsumed (namings.cursorTable topic) group offset ∨
      action = .acknowledge (namings.cursorTable topic) group offset))

/-- A database with the tables of a topic, or with one of them or none. -/
structure Namings.Owned (namings : Namings) (topic : String) (database : Database) : Prop where
  tables : ∀ table ∈ database.tables,
    (table.name = namings.messageTable topic ∧ ∃ log, table.contents = .log log) ∨
      (table.name = namings.cursorTable topic ∧ ∃ rows, table.contents = .cursors rows)
  indexes : database.indexes = []

section Owned

variable {namings : Namings} {topic : String} {database : Database}

theorem Namings.owned_empty : namings.Owned topic {} := ⟨nofun, rfl⟩

theorem Namings.Owned.unindexed (owned : namings.Owned topic database) (name : String) :
    database.index? name = none := by
  simp [Database.index?, owned.indexes]

theorem Namings.Owned.putLog (valid : isTopic topic = true) (owned : namings.Owned topic database)
    (log : Log) : namings.Owned topic (database.put (namings.messageTable topic) (.log log)) where
  tables table member := by
    obtain ⟨old, inside, rfl⟩ := List.mem_map.mp member
    rcases owned.tables old inside with ⟨named, kind⟩ | ⟨named, kind⟩
    · rw [if_pos (named ▸ sameName_refl _)]
      exact .inl ⟨named, log, rfl⟩
    · have apart := Namings.apart_cursors namings valid
      rw [if_neg (by simp [named, apart])]
      exact .inr ⟨named, kind⟩
  indexes := owned.indexes

theorem Namings.Owned.putCursors (valid : isTopic topic = true)
    (owned : namings.Owned topic database) (rows : List CursorRow) :
    namings.Owned topic (database.put (namings.cursorTable topic) (.cursors rows)) where
  tables table member := by
    obtain ⟨old, inside, rfl⟩ := List.mem_map.mp member
    rcases owned.tables old inside with ⟨named, kind⟩ | ⟨named, kind⟩
    · have apart : sameName (namings.messageTable topic) (namings.cursorTable topic) = false :=
        namings.apart topic valid
      rw [if_neg (by simp [named, apart])]
      exact .inl ⟨named, kind⟩
    · rw [if_pos (named ▸ sameName_refl _)]
      exact .inr ⟨named, rows, rfl⟩
  indexes := owned.indexes

theorem Namings.Owned.add (owned : namings.Owned topic database) {table : Table}
    (new : (table.name = namings.messageTable topic ∧ ∃ log, table.contents = .log log) ∨
      (table.name = namings.cursorTable topic ∧ ∃ rows, table.contents = .cursors rows)) :
    namings.Owned topic (database.addTable table) where
  tables other member := by
    rcases List.mem_append.mp member with old | added
    · exact owned.tables other old
    · exact List.mem_singleton.mp added ▸ new
  indexes := owned.indexes

theorem Namings.Owned.leaves (valid : isTopic topic = true) {now : Timestamp} {command : Command}
    {plan : Plan} (concerns : namings.Concerns topic command) (owned : namings.Owned topic database)
    (planned : database.plan now command = .ok plan) :
    namings.Owned topic (Storage.leaves database plan).after := by
  obtain ⟨action, rfl, allowed | ⟨claim, rfl⟩ | ⟨table, claim, limit, rfl⟩ |
    ⟨group, offset, rfl | rfl⟩⟩ := concerns
  · cases action with
    | createLog table =>
        have named : table = namings.messageTable topic := by
          simpa [Namings.publishes] using allowed
        rcases Database.create_leaves planned with same | ⟨-, made⟩
        · rw [same]
          exact owned
        · rw [made]
          exact owned.add (.inl ⟨named, {}, rfl⟩)
    | createCursors table =>
        have named : table = namings.cursorTable topic := by
          simpa [Namings.publishes] using allowed
        rcases Database.create_leaves planned with same | ⟨-, made⟩
        · rw [same]
          exact owned
        · rw [made]
          exact owned.add (.inr ⟨named, [], rfl⟩)
    | append table records =>
        have named : table = namings.messageTable topic := by
          simpa [Namings.publishes] using allowed
        subst named
        rcases Database.append_leaves planned with same | ⟨_, _, grown, -, -, put⟩
        · rw [same]
          exact owned
        · rw [put]
          exact owned.putLog valid grown
    | _ => simp [Namings.publishes] at allowed
  · rw [(Database.honest_run planned).reads (Database.claim_unwritten now planned)]
    exact owned
  · rw [(Database.honest_run planned).reads (Database.fetch_unwritten planned)]
    exact owned
  · obtain ⟨rows, put⟩ := Database.onCursors_leaves planned
    rw [put]
    exact owned.putCursors valid rows
  · obtain ⟨rows, put⟩ := Database.onCursors_leaves planned
    rw [put]
    exact owned.putCursors valid rows

end Owned

theorem Member.concerned (member : Member) (namings : Namings) (topic : String) :
    (member.subscriber namings).Runs topic (namings.Concerns topic) := by
  apply member.runs namings topic
  · exact ⟨_, rfl, .inr (.inl ⟨_, rfl⟩)⟩
  · intro limit
    exact ⟨_, rfl, .inr (.inr (.inl ⟨_, _, limit, rfl⟩))⟩
  · intro offset
    exact ⟨_, rfl, .inr (.inr (.inr ⟨_, offset, .inl rfl⟩))⟩
  · intro offset
    exact ⟨_, rfl, .inr (.inr (.inr ⟨_, offset, .inr rfl⟩))⟩

/-! Whole runs. -/

/-- A system that knows only databases of its topic's own. -/
structure System.Dedicated (namings : Namings) (topic : String) (system : System) : Prop where
  everywhere : system.storage.Everywhere (namings.Owned topic)
  concerned : ∀ handle poll, system.polls handle = some poll →
    poll.script.Runs (namings.Concerns topic)

namespace System.Dedicated

variable {namings : Namings} {topic : String} {system : System} {handle : Handle}

theorem start (namings : Namings) (topic : String) (clock : Timestamp) :
    System.Dedicated namings topic { storage := { clock } } :=
  ⟨⟨Namings.owned_empty, nofun⟩, nofun⟩

theorem survives (valid : isTopic topic = true) :
    namings.Survives topic (fun _ => True) (Storage.Everywhere (namings.Owned topic)) where
  begin _ everywhere := ⟨trivial, everywhere.begin⟩
  execute _ handle action everywhere _ allowed := everywhere.execute fun _ planned =>
    Namings.Owned.leaves valid ⟨action, rfl, .inl allowed⟩ (everywhere.view handle) planned
  commit _ handle everywhere _ := everywhere.commit handle
  rollback _ handle everywhere _ := everywhere.rollback handle

theorem withPoll {storage : Storage} {committed : List Poll} {poll : Option Poll}
    (dedicated : System.Dedicated namings topic system)
    (everywhere : storage.Everywhere (namings.Owned topic))
    (concerned : ∀ next, poll = some next → next.script.Runs (namings.Concerns topic)) :
    System.Dedicated namings topic ⟨storage, system.setPoll handle poll, committed⟩ := by
  refine ⟨everywhere, fun other next found => ?_⟩
  by_cases mine : other = handle
  · exact concerned next ((if_pos mine).symm.trans found)
  · exact dedicated.concerned other next ((if_neg mine).symm.trans found)

theorem stepped (valid : isTopic topic = true) {storage : Storage}
    {script : Script (Except Failure Nat)} (runs : script.Runs (namings.Concerns topic))
    (everywhere : storage.Everywhere (namings.Owned topic)) (verdict : Verdict) :
    let stepped := script.advance handle verdict storage
    stepped.storage.Everywhere (namings.Owned topic) ∧
      stepped.script.Runs (namings.Concerns topic) := by
  cases script with
  | done result => exact ⟨everywhere, trivial⟩
  | execute command next =>
      refine ⟨everywhere.execute fun _ planned => ?_, runs.2 _⟩
      exact Namings.Owned.leaves valid runs.1 (everywhere.view handle) planned
  | hand delivery next => exact ⟨everywhere, runs verdict⟩
  | commit next => exact ⟨everywhere.commit handle, runs⟩
  | rollback next => exact ⟨everywhere.rollback handle, runs⟩

theorem advance (valid : isTopic topic = true) (dedicated : System.Dedicated namings topic system)
    {verdict : Verdict} {poll : Poll} (found : system.polls handle = some poll) :
    System.Dedicated namings topic (system.advance handle verdict poll) := by
  obtain ⟨everywhere, runs⟩ :=
    stepped valid (dedicated.concerned handle poll found) dedicated.everywhere verdict
  refine dedicated.withPoll everywhere ?_
  rintro next ⟨⟩
  exact runs

theorem step (valid : isTopic topic = true) (dedicated : System.Dedicated namings topic system)
    (event : Event) : System.Dedicated namings topic (system.step namings topic event) := by
  cases event with
  | begin member =>
      simp only [System.step]
      cases built : (member.subscriber namings).pollScript? topic with
      | error failure => exact dedicated
      | ok script =>
          have begun := dedicated.everywhere.begin
          refine dedicated.withPoll ⟨begun.committed, begun.held⟩ ?_
          rintro next ⟨⟩
          exact Subscriber.poll_runs (member.concerned namings topic) built
  | advance handle verdict =>
      cases found : system.polls handle with
      | none =>
          simp only [System.step, found]
          exact dedicated
      | some poll =>
          simp only [System.step, found]
          exact dedicated.advance valid found
  | drop handle =>
      cases found : system.polls handle with
      | none =>
          simp only [System.step, found]
          exact dedicated
      | some poll =>
          simp only [System.step, found]
          exact dedicated.withPoll (dedicated.everywhere.rollback handle) (by simp)
  | publish codec settings initialized messages =>
      exact ⟨(survives valid).publish valid dedicated.everywhere rfl, dedicated.concerned⟩
  | setUp member =>
      exact ⟨(survives valid).subscriber_setUp dedicated.everywhere, dedicated.concerned⟩
  | move move =>
      refine ⟨?_, dedicated.concerned⟩
      change (system.moved namings topic move).Everywhere (namings.Owned topic)
      rw [system.moved_on]
      exact (survives valid).move (fun _ _ => trivial) dedicated.everywhere move
  | pause clock =>
      exact ⟨⟨dedicated.everywhere.committed, dedicated.everywhere.held⟩, dedicated.concerned⟩

theorem run (valid : isTopic topic = true) (dedicated : System.Dedicated namings topic system)
    (events : List Event) :
    System.Dedicated namings topic (System.run namings topic events system) := by
  induction events generalizing system with
  | nil => exact dedicated
  | cons event rest ih => exact ih (dedicated.step valid event)

end System.Dedicated

/-! The set-up. -/

section SetUp

variable {namings : Namings} {topic : String} {database : Database}

/-- To make a table where no index has its name adds the table, unless there is one of that name. -/
theorem create_answers (now : Timestamp) (action : Action) {name : String} {contents : Contents}
    (plans : database.plan now (.run action) = database.create name contents)
    (unreserved : isReserved name = false) (unindexed : database.index? name = none) :
    ∃ effect, (database.answer now (.run action)).1 = .ok effect ∧
      (∀ other, (database.answer now (.run action)).2.table? other =
        (database.table? other).or (if sameName name other then some ⟨name, contents⟩ else none)) ∧
      ∀ other, (database.answer now (.run action)).2.index? other = database.index? other := by
  unfold Database.answer
  rw [plans, Database.create, if_neg (by simp [unreserved])]
  by_cases there : (database.table? name).isSome = true
  · rw [if_pos there]
    refine ⟨_, rfl, fun other => ?_, fun _ => rfl⟩
    change database.table? other = _
    by_cases same : sameName name other = true
    · -- What would be added stands behind the table that is found.
      obtain ⟨table, found⟩ := Option.isSome_iff_exists.mp there
      rw [← database.table_of_sameName same, found, Option.some_or]
    · rw [if_neg same, Option.or_none]
  · rw [if_neg there, if_neg (by simp [unindexed])]
    exact ⟨_, rfl, fun other => Database.table_addTable _, fun _ => rfl⟩

theorem Namings.Owned.kinds (valid : isTopic topic = true) (owned : namings.Owned topic database)
    (messages : (database.table? (namings.messageTable topic)).isSome)
    (cursors : (database.table? (namings.cursorTable topic)).isSome) :
    ∃ log rows, namings.Tables topic database log rows := by
  obtain ⟨first, log⟩ := Option.isSome_iff_exists.mp messages
  obtain ⟨second, rows⟩ := Option.isSome_iff_exists.mp cursors
  have firstNamed := Database.table_name log
  have secondNamed := Database.table_name rows
  have apart : sameName (namings.messageTable topic) (namings.cursorTable topic) = false :=
    namings.apart topic valid
  rcases owned.tables first (List.mem_of_find?_eq_some log) with ⟨-, kept, logs⟩ | ⟨named, -⟩
  · rcases owned.tables second (List.mem_of_find?_eq_some rows) with ⟨named, -⟩ | ⟨-, held, holds⟩
    · rw [named, apart] at secondNamed
      cases secondNamed
    · exact ⟨kept, held, by simp [Database.contents?, log, logs],
        by simp [Database.contents?, rows, holds]⟩
  · rw [named, Namings.apart_cursors namings valid] at firstNamed
    cases firstNamed

theorem Namings.Owned.answer (valid : isTopic topic = true) (owned : namings.Owned topic database)
    (now : Timestamp) {command : Command} (concerns : namings.Concerns topic command) :
    namings.Owned topic (database.answer now command).2 := by
  unfold Database.answer
  cases planned : database.plan now command with
  | error fault => exact owned
  | ok plan => exact owned.leaves valid concerns planned

theorem Namings.Owned.setUp_alone (valid : isTopic topic = true)
    (owned : namings.Owned topic database) (now : Timestamp)
    (unreserved : isReserved (namings.messageTable topic) = false ∧
      isReserved (namings.cursorTable topic) = false) :
    let statements : List Statement := [⟨.sqlite, .createCursors (namings.cursorTable topic)⟩,
      ⟨.sqlite, .createLog (namings.messageTable topic)⟩]
    let outcome := (Script.all statements).alone (fun _ _ => (none, ())) now () database database
    outcome.result = some (.ok ()) ∧
      ∃ log rows, namings.Tables topic outcome.database log rows := by
  have first : namings.Concerns topic (.run (.createCursors (namings.cursorTable topic))) :=
    ⟨_, rfl, .inl (by simp [Namings.publishes])⟩
  have second : namings.Concerns topic (.run (.createLog (namings.messageTable topic))) :=
    ⟨_, rfl, .inl (by simp [Namings.publishes])⟩
  have middle := owned.answer valid now first
  have final := middle.answer valid now second
  obtain ⟨_, made, cursors, -⟩ := create_answers now
    (.createCursors (namings.cursorTable topic)) rfl unreserved.2 (owned.unindexed _)
  obtain ⟨_, makes, messages, -⟩ := create_answers now
    (.createLog (namings.messageTable topic)) rfl unreserved.1 (middle.unindexed _)
  simp only [Script.all, Script.statement, Script.alone, made, makes]
  refine ⟨trivial, final.kinds valid ?_ ?_⟩
  · simp [messages, sameName_refl]
  · simp [messages, cursors, sameName_refl]

theorem usual_unreserved (topic : String) :
    isReserved (Namings.usual.messageTable topic) = false ∧
      isReserved (Namings.usual.cursorTable topic) = false := by
  simp [isReserved, Namings.messageTable, Namings.cursorTable, Namings.usual,
    TableNaming.messages, TableNaming.offsets, TableNaming.prefixed, List.isPrefixOf]

theorem Member.setUp_states (member : Member) (valid : isTopic topic = true) (storage : Storage) :
    (member.subscriber namings).setUp topic storage =
      storage.setUp topic (.ok [⟨.sqlite, .createCursors (namings.cursorTable topic)⟩,
        ⟨.sqlite, .createLog (namings.messageTable topic)⟩]) :=
  congrArg (storage.setUp topic)
    ((namings.layouts_setup topic member.batchSize member.codec).trans (ofTopic_valid valid _))

theorem Storage.setUp_alone {storage : Storage} (topic : String) (statements : List Statement)
    (stated : ∀ statement ∈ statements, ∃ action, Command.run statement.action = .run action)
    (closed : storage.holds = []) :
    let outcome := (Script.all statements).alone (fun _ _ => (none, ())) storage.clock ()
      storage.committed storage.committed
    let ready := storage.setUp topic (.ok statements)
    ready.1 = readiness topic outcome.result ∧ ready.2.committed.Same outcome.database ∧
      ready.2.holds = [] ∧ ready.2.clock = storage.clock := by
  intro outcome ready
  obtain ⟨result, same, ended, clock⟩ :=
    perform_alone (Script.all_ends statements) (Script.all_runs stated) closed
  rw [show ready = _ from setUp_performed storage topic statements, result]
  exact ⟨rfl, same, ended, clock⟩

theorem Member.setUp_owned (member : Member) (valid : isTopic topic = true) {storage : Storage}
    (owned : namings.Owned topic storage.committed) (closed : storage.holds = [])
    (unreserved : isReserved (namings.messageTable topic) = false ∧
      isReserved (namings.cursorTable topic) = false) :
    let ready := (member.subscriber namings).setUp topic storage
    ready.1 = .ok () ∧ ready.2.holds = [] ∧
      ∃ log rows, namings.Tables topic ready.2.committed log rows := by
  obtain ⟨answered, same, ended, -⟩ := storage.setUp_alone topic
    [⟨.sqlite, .createCursors (namings.cursorTable topic)⟩,
      ⟨.sqlite, .createLog (namings.messageTable topic)⟩] (fun _ _ => ⟨_, rfl⟩) closed
  obtain ⟨succeeds, log, rows, tables⟩ := owned.setUp_alone valid storage.clock unreserved
  rw [succeeds] at answered
  rw [member.setUp_states valid storage]
  refine ⟨answered, ended, log, rows, ?_, ?_⟩
  · rw [Database.contents?, same.table]
    exact tables.messages
  · rw [Database.contents?, same.table]
    exact tables.cursors

end SetUp

end TopicLog
