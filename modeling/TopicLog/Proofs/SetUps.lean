import TopicLog.Proofs.FailedSetUps
import TopicLog.Proofs.TopicIsolation

/-!
Setting a topic up. A set-up adds the tables that are missing and leaves the others as they are, so it
may be run any number of times, by publishers and by members of groups in any order, and nothing tells
later which of them ran or how often. A set-up of which one statement fails leaves nothing behind,
whatever texts its layouts want run and wherever among them the failing one stands.
-/
namespace TopicLog

/-! Databases to which tables were added. -/

/-- The table that is found under a name once another name has its table, if that was wanted. -/
def Database.made (wanted : Bool) (name : String) (contents : Contents) (other : String) :
    Option Table :=
  if wanted && sameName name other then some ⟨name, contents⟩ else none

/-- A database that has the tables of another, and behind these the tables of a topic, empty, as far as
they were wanted. -/
structure Namings.Supplied (namings : Namings) (topic : String) (before : Database)
    (log cursors : Bool) (database : Database) : Prop where
  table : ∀ name, database.table? name =
    ((before.table? name).or (Database.made log (namings.messageTable topic) (.log {}) name)).or
      (Database.made cursors (namings.cursorTable topic) (.cursors []) name)
  unindexed : ∀ name, database.index? name = none

section Supplied

variable {namings : Namings} {topic : String} {before database later : Database}
  {log cursors : Bool}

theorem Namings.Supplied.start (unindexed : ∀ name, before.index? name = none) :
    namings.Supplied topic before false false before where
  table name := by simp [Database.made]
  unindexed := unindexed

theorem Namings.Supplied.of_same (supplied : namings.Supplied topic before log cursors database)
    (same : later.Same database) : namings.Supplied topic before log cursors later where
  table name := (same.table name).trans (supplied.table name)
  unindexed name := (same.index name).trans (supplied.unindexed name)

theorem Namings.Supplied.createLog (valid : isTopic topic = true)
    (unreserved : isReserved (namings.messageTable topic) = false)
    (supplied : namings.Supplied topic before log cursors database) (now : Timestamp) :
    ∃ effect,
      (database.answer now (.run (.createLog (namings.messageTable topic)))).1 = .ok effect ∧
      namings.Supplied topic before true cursors
        (database.answer now (.run (.createLog (namings.messageTable topic)))).2 := by
  obtain ⟨effect, done, table, index⟩ := create_answers now
    (.createLog (namings.messageTable topic)) rfl unreserved (supplied.unindexed _)
  have apart : ∀ name, sameName (namings.messageTable topic) name = true →
      sameName (namings.cursorTable topic) name = false := by
    intro name messages
    rw [Bool.eq_false_iff]
    intro both
    have same := sameName_trans both (sameName_symm messages)
    rw [Namings.apart_cursors namings valid] at same
    cases same
  refine ⟨effect, done, fun name => ?_, fun name => (index name).trans (supplied.unindexed name)⟩
  rw [table name, supplied.table name]
  cases before.table? name with
  | some found => rfl
  | none =>
      by_cases messages : sameName (namings.messageTable topic) name = true
      · cases log <;> simp [Database.made, messages, apart name messages]
      · simp [Database.made, messages]

theorem Namings.Supplied.createCursors
    (unreserved : isReserved (namings.cursorTable topic) = false)
    (supplied : namings.Supplied topic before log cursors database) (now : Timestamp) :
    ∃ effect,
      (database.answer now (.run (.createCursors (namings.cursorTable topic)))).1 = .ok effect ∧
      namings.Supplied topic before log true
        (database.answer now (.run (.createCursors (namings.cursorTable topic)))).2 := by
  obtain ⟨effect, done, table, index⟩ := create_answers now
    (.createCursors (namings.cursorTable topic)) rfl unreserved (supplied.unindexed _)
  refine ⟨effect, done, fun name => ?_, fun name => (index name).trans (supplied.unindexed name)⟩
  rw [table name, supplied.table name, Option.or_assoc]
  congr 1
  by_cases named : sameName (namings.cursorTable topic) name = true
  · cases cursors <;> simp [Database.made, named]
  · simp [Database.made, named]

/-- What was supplied with both tables is the same, in whatever order they were made. -/
theorem Namings.Supplied.same {other : Database}
    (supplied : namings.Supplied topic before log cursors database)
    (suppliedToo : namings.Supplied topic before log cursors other) : database.Same other where
  table name := (supplied.table name).trans (suppliedToo.table name).symm
  index name := (supplied.unindexed name).trans (suppliedToo.unindexed name).symm

theorem Namings.Supplied.tables (valid : isTopic topic = true) (owned : namings.Owned topic before)
    (supplied : namings.Supplied topic before true true database) :
    namings.Tables topic database (namings.log topic before) (namings.cursorRows topic before) := by
  have apart : sameName (namings.messageTable topic) (namings.cursorTable topic) = false :=
    namings.apart topic valid
  constructor
  · rw [Database.contents?, supplied.table, Namings.log, Database.logOf, Database.contents?]
    cases found : before.table? (namings.messageTable topic) with
    | none => simp [Database.made, sameName_refl]
    | some table =>
        have named := Database.table_name found
        rcases owned.tables table (List.mem_of_find?_eq_some found) with ⟨-, kept, holds⟩ | ⟨other, -⟩
        · simp [holds]
        · rw [other, Namings.apart_cursors namings valid] at named
          cases named
  · rw [Database.contents?, supplied.table, Namings.cursorRows, Database.cursorsOf,
      Database.contents?]
    cases found : before.table? (namings.cursorTable topic) with
    | none => simp [Database.made, sameName_refl, apart]
    | some table =>
        have named := Database.table_name found
        rcases owned.tables table (List.mem_of_find?_eq_some found) with ⟨other, -⟩ | ⟨-, kept, holds⟩
        · rw [other, apart] at named
          cases named
        · simp [holds]

end Supplied

/-! Set-ups that succeed. -/

def Operation.SetsUp {σ : Type} (topic : String) : Operation σ → Prop
  | .setUpPublisher _ named | .setUpSubscriber _ named => named = topic
  | _ => False

def Operation.makesCursors {σ : Type} : Operation σ → Bool
  | .setUpSubscriber _ _ => true
  | _ => false

/-- Set-ups of a topic in any number and order, at least one by a publisher and one by a member. -/
structure CompleteSetUp {σ : Type} (topic : String) (operations : List (Operation σ)) : Prop where
  only : ∀ operation ∈ operations, operation.SetsUp topic
  publisher : ∃ number, .setUpPublisher number topic ∈ operations
  subscriber : ∃ member, .setUpSubscriber member topic ∈ operations

structure Site.Prepared (namings : Namings) (topic : String) (site before : Site)
    (log cursors : Bool) : Prop where
  publishers : site.publishers = before.publishers
  closed : site.storage.holds = []
  clock : site.storage.clock = before.storage.clock
  supplied : namings.Supplied topic before.storage.committed log cursors site.storage.committed

section Prepared

variable {σ : Type} {namings : Namings} {topic : String} {before site : Site} {log cursors : Bool}

theorem Site.Prepared.setUp (valid : isTopic topic = true)
    (unreserved : isReserved (namings.messageTable topic) = false ∧
      isReserved (namings.cursorTable topic) = false)
    (standard : before.Standard namings) (prepared : site.Prepared namings topic before log cursors)
    {operation : Operation σ} (setsUp : operation.SetsUp topic) :
    (site.perform namings operation).1 = .done (.ok ()) ∧
      (site.perform namings operation).2.Prepared namings topic before true
        (cursors || operation.makesCursors) := by
  cases operation with
  | setUpPublisher number named =>
      obtain rfl : named = topic := setsUp
      obtain ⟨batchSize, codec, layout⟩ := standard number
      have built : (site.publishers number).layout.setup named =
          .ok [⟨.sqlite, .createLog (namings.messageTable named)⟩] := by
        rw [prepared.publishers, layout, namings.layout_setup, ofTopic_valid valid]
      obtain ⟨_, makes, supplied⟩ :=
        prepared.supplied.createLog valid unreserved.1 site.storage.clock
      obtain ⟨answered, same, closed, clock⟩ := site.storage.setUp_alone named
        [⟨.sqlite, .createLog (namings.messageTable named)⟩] (fun _ _ => ⟨_, rfl⟩) prepared.closed
      simp only [Script.all, Script.statement, Script.alone, makes] at answered same
      simp only [perform, Publisher.setUp, built, Operation.makesCursors, Bool.or_false]
      generalize site.storage.setUp named _ = ready at answered same closed clock ⊢
      exact ⟨congrArg Answer.done answered, prepared.publishers, closed,
        clock.trans prepared.clock, supplied.of_same same⟩
  | setUpSubscriber member named =>
      obtain rfl : named = topic := setsUp
      obtain ⟨_, made, halfway⟩ := prepared.supplied.createCursors unreserved.2 site.storage.clock
      obtain ⟨_, makes, supplied⟩ := halfway.createLog valid unreserved.1 site.storage.clock
      obtain ⟨answered, same, closed, clock⟩ := site.storage.setUp_alone named
        [⟨.sqlite, .createCursors (namings.cursorTable named)⟩,
          ⟨.sqlite, .createLog (namings.messageTable named)⟩] (fun _ _ => ⟨_, rfl⟩) prepared.closed
      simp only [Script.all, Script.statement, Script.alone, made, makes] at answered same
      simp only [perform, member.setUp_states valid, Operation.makesCursors, Bool.or_true]
      generalize site.storage.setUp named _ = ready at answered same closed clock ⊢
      exact ⟨congrArg Answer.done answered, prepared.publishers, closed,
        clock.trans prepared.clock, supplied.of_same same⟩
  | _ => cases setsUp

theorem Site.Prepared.run (valid : isTopic topic = true)
    (unreserved : isReserved (namings.messageTable topic) = false ∧
      isReserved (namings.cursorTable topic) = false)
    (standard : before.Standard namings) (operations : List (Operation σ))
    (only : ∀ operation ∈ operations, operation.SetsUp topic)
    (prepared : site.Prepared namings topic before log cursors) :
    (∀ answered ∈ (site.run namings operations).1, answered.2 = .done (.ok ())) ∧
      (site.run namings operations).2.Prepared namings topic before
        (log || !operations.isEmpty) (cursors || operations.any Operation.makesCursors) := by
  induction operations generalizing site log cursors with
  | nil => exact ⟨nofun, by simpa [Site.run] using prepared⟩
  | cons operation rest ih =>
      obtain ⟨done, next⟩ := prepared.setUp valid unreserved standard (only operation (.head _))
      obtain ⟨answers, final⟩ := ih (fun other member => only other (.tail _ member)) next
      constructor
      · rintro answered (_ | ⟨_, member⟩)
        · exact done
        · exact answers answered member
      · simpa [Site.run, Bool.or_assoc] using final

theorem CompleteSetUp.prepared (valid : isTopic topic = true)
    (unreserved : isReserved (namings.messageTable topic) = false ∧
      isReserved (namings.cursorTable topic) = false)
    (standard : before.Standard namings) (closed : before.storage.holds = [])
    (unindexed : ∀ name, before.storage.committed.index? name = none)
    {operations : List (Operation σ)} (complete : CompleteSetUp topic operations) :
    (∀ answered ∈ (before.run namings operations).1, answered.2 = .done (.ok ())) ∧
      (before.run namings operations).2.Prepared namings topic before true true := by
  have start : before.Prepared namings topic before false false := ⟨rfl, closed, rfl, .start unindexed⟩
  obtain ⟨answers, final⟩ := start.run valid unreserved standard operations complete.only
  obtain ⟨member, subscribes⟩ := complete.subscriber
  have some : operations.isEmpty = false := by
    rw [List.isEmpty_eq_false_iff]
    exact List.ne_nil_of_mem subscribes
  have makes : operations.any Operation.makesCursors = true :=
    List.any_eq_true.mpr ⟨_, subscribes, rfl⟩
  rw [some, makes] at final
  exact ⟨answers, final⟩

/-- Sites that came from one by complete set-ups do the same from then on. -/
theorem Site.Prepared.agrees {other : Site} (standard : before.Standard namings)
    (prepared : site.Prepared namings topic before true true)
    (preparedToo : other.Prepared namings topic before true true) :
    site.Agrees namings topic (namings.Matched topic Eq) other where
  storage :=
    { closed := prepared.closed
      closedToo := preparedToo.closed
      clock := prepared.clock.trans preparedToo.clock.symm
      committed := Namings.matched_stable _ _ _ _ (.refl _)
        (prepared.supplied.same preparedToo.supplied)
        (.refl (fun _ => rfl) site.storage.committed) }
  publishers number := by
    rw [prepared.publishers, preparedToo.publishers]
    exact ⟨rfl, rfl, rfl⟩
  standard number := by
    rw [prepared.publishers]
    exact standard number

theorem Site.Agrees.run {first second : Site} (valid : isTopic topic = true)
    (agrees : first.Agrees namings topic (namings.Matched topic Eq) second)
    {operations : List (Operation σ)}
    (about : ∀ operation ∈ operations, ∀ named, operation.topic? = some named → named = topic) :
    (first.run namings operations).1 = (second.run namings operations).1 := by
  have kept (operation : Operation σ) (member : operation ∈ operations)
      (_ : (fun _ => true) operation = true) (one other : Site)
      (agrees : one.Agrees namings topic (namings.Matched topic Eq) other) :=
    agrees.kept Namings.matched_stable
      (operation.respects (namings.apart topic valid) (fun _ => rfl) (about operation member)
        fun group _ => Cursors.eq_tells group) (about operation member)
  obtain ⟨answers, -⟩ := Site.run_filter (Site.Agrees namings topic (namings.Matched topic Eq))
    (fun _ => true) operations kept nofun agrees
  simpa using answers

end Prepared

end TopicLog
