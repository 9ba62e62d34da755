import TopicLog.Proofs.Interleaving
import TopicLog.Proofs.LogOrder

/-!
What the statements of publishers and set-ups do to a database. They make the two tables of a topic where
they are missing and append to the one of messages; nothing else changes.
-/
namespace TopicLog

namespace Database

variable {database : Database} {name : String} {plan : Plan}

theorem create_leaves {contents : Contents} (planned : database.create name contents = .ok plan) :
    (Storage.leaves database plan).after = database ∨
      database.contents? name = none ∧
        (Storage.leaves database plan).after = database.addTable ⟨name, contents⟩ := by
  unfold create at planned
  repeat' split at planned
  all_goals cases planned
  · exact .inl rfl
  · rename_i absent _
    exact .inr ⟨by simpa [contents?] using absent, rfl⟩

theorem append_leaves {now : Timestamp} {records : List Record}
    (planned : database.append now name records = .ok plan) :
    (Storage.leaves database plan).after = database ∨
      ∃ table log grown, database.contents? name = some (.log log) ∧
        log.append table now records = .ok grown ∧
        (Storage.leaves database plan).after = database.put name (.log grown) := by
  simp only [append, onLog, find, bind, Except.bind, pure, Except.pure] at planned
  cases found : database.table? name with
  | none => simp [found] at planned
  | some table =>
      cases held : table.contents with
      | cursors rows => simp [found, held] at planned
      | log log =>
          simp only [found, held] at planned
          cases planned
          cases appended : log.append table.name now records with
          | error fault => exact .inl rfl
          | ok grown =>
              exact .inr ⟨table.name, log, grown, by simp [contents?, found, held], appended, rfl⟩

end Database

namespace Namings

def log (namings : Namings) (topic : String) (database : Database) : Log :=
  database.logOf (namings.messageTable topic)

def cursorRows (namings : Namings) (topic : String) (database : Database) : List CursorRow :=
  database.cursorsOf (namings.cursorTable topic)

/-- One database after another in which no more was done than to make the tables of a topic and to
append to its messages. -/
structure Publishing (namings : Namings) (topic : String) (before after : Database) : Prop where
  messages : after.contents? (namings.messageTable topic) =
      before.contents? (namings.messageTable topic) ∨
    before.contents? (namings.messageTable topic) = none ∧
      after.contents? (namings.messageTable topic) = some (.log {}) ∨
    ∃ table now records log grown,
      before.contents? (namings.messageTable topic) = some (.log log) ∧
      Log.append log table now records = .ok grown ∧
      after.contents? (namings.messageTable topic) = some (.log grown)
  cursors : after.contents? (namings.cursorTable topic) =
      before.contents? (namings.cursorTable topic) ∨
    before.contents? (namings.cursorTable topic) = none ∧
      after.contents? (namings.cursorTable topic) = some (.cursors [])

structure Logged (namings : Namings) (topic : String) (database : Database) : Prop where
  messages : ∀ contents, database.contents? (namings.messageTable topic) = some contents →
    ∃ log, contents = .log log
  ordered : (namings.log topic database).Ordered

structure Grown (namings : Namings) (topic : String) (before after : Database) : Prop where
  logged : namings.Logged topic after
  grown : Log.Extends (namings.log topic before) (namings.log topic after)

/-- The table of cursors is one, if it is there. -/
def Kept (namings : Namings) (topic : String) (database : Database) : Prop :=
  ∀ contents, database.contents? (namings.cursorTable topic) = some contents →
    ∃ rows, contents = .cursors rows

/-- One database after another in which no cursor was written. -/
structure Keeps (namings : Namings) (topic : String) (before after : Database) : Prop where
  kept : namings.Kept topic after
  rows : ∀ rows, before.contents? (namings.cursorTable topic) = some (.cursors rows) →
    after.contents? (namings.cursorTable topic) = some (.cursors rows)

variable {namings : Namings} {topic : String} {database before after : Database}

theorem apart_cursors (namings : Namings) (valid : isTopic topic = true) :
    sameName (namings.cursorTable topic) (namings.messageTable topic) = false := by
  rw [Bool.eq_false_iff]
  intro same
  have := namings.apart topic valid
  rw [← Bool.not_eq_true] at this
  exact this (sameName_symm same)

theorem log_of_same (same : after.contents? (namings.messageTable topic) =
    before.contents? (namings.messageTable topic)) :
    namings.log topic after = namings.log topic before := by
  simp only [log, Database.logOf, same]

theorem log_of_missing
    (missing : before.contents? (namings.messageTable topic) = none)
    (made : after.contents? (namings.messageTable topic) = some (.log {})) :
    namings.log topic after = namings.log topic before := by
  rw [log, log, Database.logOf_eq made, Database.logOf, missing]

theorem create_publishing (valid : isTopic topic = true) {name : String} {contents : Contents}
    (missing : database.contents? name = none)
    (made : name = namings.messageTable topic ∧ contents = .log {} ∨
      name = namings.cursorTable topic ∧ contents = .cursors []) :
    namings.Publishing topic database (database.addTable ⟨name, contents⟩) := by
  rcases made with ⟨rfl, rfl⟩ | ⟨rfl, rfl⟩
  · have apart : sameName (namings.messageTable topic) (namings.cursorTable topic) = false :=
      namings.apart topic valid
    constructor
    · exact .inr (.inl ⟨missing, by simp [Database.contents_addTable, missing, sameName_refl]⟩)
    · exact .inl (by simp [Database.contents_addTable, apart])
  · have apart := apart_cursors namings valid
    constructor
    · exact .inl (by simp [Database.contents_addTable, apart])
    · exact .inr ⟨missing, by simp [Database.contents_addTable, missing, sameName_refl]⟩

theorem plan_publishing (valid : isTopic topic = true) {now : Timestamp} {action : Action}
    {plan : Plan} (allowed : namings.publishes topic action = true)
    (planned : database.plan now (.run action) = .ok plan) :
    namings.Publishing topic database (Storage.leaves database plan).after := by
  have stays (same : (Storage.leaves database plan).after = database) :
      namings.Publishing topic database (Storage.leaves database plan).after := by
    rw [same]
    exact ⟨.inl rfl, .inl rfl⟩
  cases action with
  | createLog table =>
      have named : table = namings.messageTable topic := by simpa [publishes] using allowed
      rcases Database.create_leaves planned with same | ⟨missing, made⟩
      · exact stays same
      · rw [made]
        exact create_publishing valid missing (.inl ⟨named, rfl⟩)
  | createCursors table =>
      have named : table = namings.cursorTable topic := by simpa [publishes] using allowed
      rcases Database.create_leaves planned with same | ⟨missing, made⟩
      · exact stays same
      · rw [made]
        exact create_publishing valid missing (.inr ⟨named, rfl⟩)
  | append table records =>
      have named : table = namings.messageTable topic := by simpa [publishes] using allowed
      subst named
      rcases Database.append_leaves planned with same | ⟨name, log, grown, held, appended, put⟩
      · exact stays same
      · rw [put]
        constructor
        · refine .inr (.inr ⟨name, now, records, log, grown, held, appended, ?_⟩)
          exact Database.contents_put_held _ held
        · exact .inl (Database.contents_put_other _ _ (namings.apart topic valid))
  | _ => simp [publishes] at allowed

/-! What follows for the messages. -/

theorem Logged.grown (logged : namings.Logged topic database) :
    namings.Grown topic database database := ⟨logged, Log.extends_refl _⟩

theorem Grown.trans {middle : Database} (early : namings.Grown topic before middle)
    (late : namings.Grown topic middle after) : namings.Grown topic before after :=
  ⟨late.logged, Log.extends_trans early.grown late.grown⟩

theorem Logged.of_same (logged : namings.Logged topic before)
    (same : after.contents? (namings.messageTable topic) =
      before.contents? (namings.messageTable topic)) : namings.Grown topic before after where
  logged := ⟨fun contents found => logged.messages contents (same ▸ found),
    log_of_same same ▸ logged.ordered⟩
  grown := log_of_same same ▸ Log.extends_refl _

theorem Publishing.grown (publishing : namings.Publishing topic before after)
    (logged : namings.Logged topic before) : namings.Grown topic before after := by
  rcases publishing.messages with same | ⟨missing, made⟩ |
    ⟨table, now, records, log, grown, held, appended, extended⟩
  · exact logged.of_same same
  · have empty := log_of_missing missing made
    refine ⟨⟨?_, empty ▸ logged.ordered⟩, empty ▸ Log.extends_refl _⟩
    intro contents found
    exact ⟨{}, Option.some.inj (found.symm.trans made)⟩
  · have old : namings.log topic before = log := Database.logOf_eq held
    have new : namings.log topic after = grown := Database.logOf_eq extended
    have ordered : log.Ordered := old ▸ logged.ordered
    obtain ⟨arranged, longer⟩ := Log.append_extends ordered.toArranged appended
    refine ⟨⟨?_, new ▸ Log.ordered_extends ordered longer arranged⟩, by rwa [old, new]⟩
    intro contents found
    exact ⟨grown, Option.some.inj (found.symm.trans extended)⟩

/-! What follows for the cursors. -/

theorem Kept.keeps (kept : namings.Kept topic database) : namings.Keeps topic database database :=
  ⟨kept, fun _ held => held⟩

theorem Keeps.trans {middle : Database} (early : namings.Keeps topic before middle)
    (late : namings.Keeps topic middle after) : namings.Keeps topic before after :=
  ⟨late.kept, fun rows held => late.rows rows (early.rows rows held)⟩

theorem Publishing.keeps (publishing : namings.Publishing topic before after)
    (kept : namings.Kept topic before) : namings.Keeps topic before after := by
  rcases publishing.cursors with same | ⟨missing, made⟩
  · exact ⟨fun contents found => kept contents (same ▸ found), fun rows held => same.trans held⟩
  · constructor
    · intro contents found
      exact ⟨[], Option.some.inj (found.symm.trans made)⟩
    · intro rows held
      cases missing.symm.trans held

theorem Publishing.cursorRows (publishing : namings.Publishing topic before after) :
    namings.cursorRows topic after = namings.cursorRows topic before := by
  rcases publishing.cursors with same | ⟨missing, made⟩
  · simp only [Namings.cursorRows, Database.cursorsOf, same]
  · rw [Namings.cursorRows, Namings.cursorRows, Database.cursorsOf_eq made, Database.cursorsOf,
      missing]

end Namings

end TopicLog
