import TopicLog.Proofs.Arrangement
import TopicLog.Proofs.CursorGuard

/-!
A transaction that reads the batches of a group, between the steps of all others. It takes its snapshot
with the first statement that finds its tables; from then on it sees what was committed at that moment
and what it wrote itself. Whatever the others do, the messages it sees stay those of the snapshot, and
the bound of its group changes only when it acknowledges an offset itself.
-/
namespace TopicLog

inductive Aside where
  | begin
  | beginIsolated
  | execute (handle : Handle) (command : Command)
  | commit (handle : Handle)
  | rollback (handle : Handle)
  | pause (clock : Timestamp)

/-- A step under the name of the transaction itself is none of another's and does nothing. -/
def Aside.on (own : Handle) (storage : Storage) : Aside → Storage
  | .begin => storage.begin.2
  | .beginIsolated => storage.beginIsolated.2
  | .execute handle command =>
      if handle = own then storage else (storage.execute handle command).2
  | .commit handle => if handle = own then storage else storage.commit handle
  | .rollback handle => if handle = own then storage else storage.rollback handle
  | .pause clock => { storage with clock }.settle

/-- What happens while the transaction is open: its own statements, of any group, and the others'. -/
inductive ReaderEvent where
  | claim (group : String)
  | select (group : String) (batchSize : Nat) (codec : Codec)
  | write (upsert : Upsert)
  | aside (aside : Aside)

def Hold.view? : Hold → Option Database
  | .idle => none
  | .reading view _ => some view
  | .writing view _ => some view

structure Reader where
  handle : Handle
  group : String
  storage : Storage
  /-- The database that was committed when the transaction took its snapshot. -/
  snapshot : Option Database := none
  acknowledged : Option Int := none

def Upsert.acknowledges (group : String) : Upsert → Option Int
  | .mark _ _ => none
  | .acknowledge delivery other => if other = group then some delivery.offset else none

namespace Reader

def opened (group : String) (storage : Storage) : Reader where
  handle := storage.beginIsolated.1
  group
  storage := storage.beginIsolated.2

/-- The committed database that the transaction reads: that of its snapshot or, until it has one, the
newest. -/
def base (reader : Reader) : Database := reader.snapshot.getD reader.storage.committed

def ask (reader : Reader) (built : Except Failure Statement) : Except Failure Effect × Storage :=
  match built with
  | .error failure => (.error failure, reader.storage)
  | .ok statement =>
      let (answer, storage) := reader.storage.execute reader.handle (.run statement.action)
      (answer.mapError .ofFault, storage)

/-- What is acknowledged after a statement that would acknowledge an offset, or none. -/
def noted {α β : Type} (offset acknowledged : Option Int) : Except α β → Option Int
  | .ok _ => offset.or acknowledged
  | .error _ => acknowledged

def after (reader : Reader) (built : Except Failure Statement) (offset : Option Int) : Reader :=
  let (answer, storage) := reader.ask built
  { reader with
    storage
    snapshot := reader.snapshot.or <|
      (storage.hold reader.handle).view?.map fun _ => reader.storage.committed
    acknowledged := noted offset reader.acknowledged answer }

def claimed (names : Names) (topic : String) (reader : Reader) : Except Failure Int :=
  (reader.ask ((names.cursorLayout.claim topic reader.group).map Claim.statement)).1.bind
    Script.scalar

def selected (names : Names) (topic : String) (batchSize : Nat) (codec : Codec)
    (reader : Reader) : Except Failure (List (List Value)) :=
  (reader.ask ((names.layout batchSize codec).fetch topic reader.group names.cursorLayout)).1.map
    Effect.rows

def step (names : Names) (topic : String) (reader : Reader) : ReaderEvent → Reader
  | .claim group => reader.after ((names.cursorLayout.claim topic group).map Claim.statement) none
  | .select group batchSize codec =>
      reader.after ((names.layout batchSize codec).fetch topic group names.cursorLayout) none
  | .write upsert =>
      reader.after (upsert.statement names.cursorLayout topic) (upsert.acknowledges reader.group)
  | .aside aside => { reader with storage := aside.on reader.handle reader.storage }

def run (names : Names) (topic : String) (events : List ReaderEvent) (reader : Reader) : Reader :=
  events.foldl (fun reader event => reader.step names topic event) reader

end Reader

/-! Other transactions. -/

section Asides

variable {storage : Storage} {own : Handle}

theorem Aside.keeps (aside : Aside) (property : Storage → Prop) (unmoved : property storage)
    (begin : property storage.begin.2) (beginIsolated : property storage.beginIsolated.2)
    (execute : ∀ handle command, aside = .execute handle command → handle ≠ own →
      property (storage.execute handle command).2)
    (commit : ∀ handle, handle ≠ own → property (storage.commit handle))
    (rollback : ∀ handle, handle ≠ own → property (storage.rollback handle))
    (pause : ∀ clock, property { storage with clock }.settle) :
    property (aside.on own storage) := by
  cases aside with
  | begin => exact begin
  | beginIsolated => exact beginIsolated
  | execute handle command =>
      rw [Aside.on]
      split
      · exact unmoved
      · exact execute handle command rfl ‹_›
  | commit handle =>
      rw [Aside.on]
      split
      · exact unmoved
      · exact commit handle ‹_›
  | rollback handle =>
      rw [Aside.on]
      split
      · exact unmoved
      · exact rollback handle ‹_›
  | pause clock => exact pause clock

theorem Aside.elsewhere (fresh : storage.Fresh) (given : own < storage.fresh) (aside : Aside) :
    ∃ other, own ≠ other ∧ Storage.Elsewhere other storage (aside.on own storage) := by
  have further : own ≠ own + 1 := Nat.ne_of_lt (Nat.lt_succ_self own)
  have new : own ≠ storage.fresh := Nat.ne_of_lt given
  apply aside.keeps fun after => ∃ other, own ≠ other ∧ Storage.Elsewhere other storage after
  · exact ⟨own + 1, further, Storage.elsewhere_refl _ _⟩
  · exact ⟨_, new, Storage.elsewhere_begin fresh⟩
  · exact ⟨_, new, Storage.elsewhere_beginIsolated fresh⟩
  · exact fun handle command _ apart =>
      ⟨handle, Ne.symm apart, Storage.elsewhere_execute handle command storage⟩
  · exact fun handle apart => ⟨handle, Ne.symm apart, Storage.elsewhere_commit handle storage⟩
  · exact fun handle apart => ⟨handle, Ne.symm apart, Storage.elsewhere_rollback handle storage⟩
  · exact fun clock => ⟨_, further, fun _ _ => rfl, fun _ _ => rfl, Nat.le_refl _, Nat.le_refl _⟩

theorem Aside.fresh (fresh : storage.Fresh) (aside : Aside) : (aside.on own storage).Fresh :=
  aside.keeps Storage.Fresh fresh (Storage.fresh_begin fresh) (Storage.fresh_begin fresh)
    (fun _ _ _ _ => Storage.fresh_execute fresh) (fun _ _ => Storage.fresh_commit fresh)
    (fun _ _ => Storage.fresh_rollback fresh) fun _ => fresh

theorem Aside.arranged (arranged : storage.Arranged) (aside : Aside) :
    (aside.on own storage).Arranged := by
  apply aside.keeps Storage.Arranged arranged arranged.begin
  · exact ⟨arranged.begin.committed, arranged.begin.held⟩
  · exact fun handle _ _ _ => arranged.execute fun _ planned =>
      Database.arranged_leaves (arranged.view handle) planned
  · exact fun handle _ => arranged.commit handle
  · exact fun handle _ => arranged.rollback handle
  · exact fun _ => ⟨arranged.committed, arranged.held⟩

end Asides

/-! What the transaction sees of its snapshot. -/

/-- A database that has the messages of another, and its bound unless an offset was acknowledged. -/
structure Follows (names : Names) (topic group : String) (base : Database)
    (acknowledged : Option Int) (view : Database) : Prop where
  messages : ∀ log, base.contents? (names.messageTable topic) = some (.log log) →
    view.contents? (names.messageTable topic) = some (.log log)
  bound : view.bound (names.claim topic group) =
    (base.bound (names.claim topic group)).map fun value => (acknowledged.map .int).getD value

variable {names : Names} {topic group : String} {base view : Database}
  {acknowledged : Option Int}

theorem follows_refl (names : Names) (topic group : String) (base : Database) :
    Follows names topic group base none base := by
  refine ⟨fun _ holds => holds, ?_⟩
  cases base.bound (names.claim topic group) <;> rfl

theorem Upsert.bound_apply (upsert : Upsert) (group : String) (rows : List CursorRow) :
    Cursors.bound group (upsert.apply rows) =
      ((upsert.acknowledges group).map .int).getD (Cursors.bound group rows) := by
  cases upsert with
  | mark delivery other => exact Cursors.bound_mark other group delivery.offset rows
  | acknowledge delivery other =>
      by_cases same : other = group
      · subst same
        simp only [apply, acknowledges, ↓reduceIte]
        exact Cursors.bound_acknowledge other delivery.offset rows
      · simp only [apply, acknowledges, same, ↓reduceIte]
        exact Cursors.bound_acknowledge_other (Ne.symm same) delivery.offset rows

theorem Upsert.planned {table : String} {now : Timestamp} {plan : Plan} (upsert : Upsert)
    (planned : view.plan now (.run (upsert.action table)) = .ok plan) :
    ∃ rows, view.contents? table = some (.cursors rows) ∧
      plan = .write (view.put table (.cursors (upsert.apply rows))) 1
        (upsert.apply rows ≠ rows) := by
  cases upsert <;> exact Database.onCursors_planned planned

/-- A table of cursors is not the table of messages, whatever their names. -/
theorem Database.apart_of_contents {database : Database} {name other : String} {log : Log}
    {rows : List CursorRow} (cursors : database.contents? name = some (.cursors rows))
    (messages : database.contents? other = some (.log log)) : sameName name other = false := by
  rw [Bool.eq_false_iff]
  intro same
  rw [Database.contents?, Database.table_of_sameName database same] at cursors
  cases cursors.symm.trans messages

theorem Follows.put {rows : List CursorRow} (follows : Follows names topic group base acknowledged view)
    (cursors : view.contents? (names.cursorTable topic) = some (.cursors rows)) (upsert : Upsert) :
    Follows names topic group base ((upsert.acknowledges group).or acknowledged)
      (view.put (names.cursorTable topic) (.cursors (upsert.apply rows))) := by
  constructor
  · intro log holds
    have seen := follows.messages log holds
    rw [Database.contents_put_other view _ (Database.apart_of_contents cursors seen)]
    exact seen
  · have before : view.bound (names.claim topic group) = .ok (Cursors.bound group rows) :=
      Database.bound_of_cursors (names.claim topic group) cursors
    have after : (view.put (names.cursorTable topic) (.cursors (upsert.apply rows))).bound
        (names.claim topic group) = .ok (Cursors.bound group (upsert.apply rows)) :=
      Database.bound_of_cursors (names.claim topic group)
        (Database.contents_put_held _ cursors)
    have bound := follows.bound
    rw [before] at bound
    rw [after, upsert.bound_apply]
    cases read : base.bound (names.claim topic group) with
    | error fault =>
        rw [read] at bound
        cases bound
    | ok value =>
        rw [read] at bound
        rw [Except.ok.inj bound]
        cases upsert.acknowledges group <;> rfl

theorem Follows.bound_later {later : Option Int} {other : Database} {bound : Int}
    (earlier : Follows names topic group base acknowledged view)
    (follows : Follows names topic group base later other)
    (kept : later = none → acknowledged = none)
    (bounded : view.bound (names.claim topic group) = .ok (.int bound)) :
    other.bound (names.claim topic group) = .ok (.int (later.getD bound)) := by
  have read := earlier.bound
  rw [bounded] at read
  rw [follows.bound]
  cases inside : base.bound (names.claim topic group) with
  | error fault =>
      rw [inside] at read
      cases read
  | ok value =>
      rw [inside] at read
      cases later with
      | some offset => rfl
      -- Without an acknowledgment up to now there was none before either.
      | none =>
          rw [kept rfl] at read
          exact read.symm

/-! The transaction between its steps. -/

/-- Before its first statement that found its tables, a transaction knows nothing; after it, it has a
snapshot and sees what follows from it. -/
inductive Reader.Stands (names : Names) (topic : String) (reader : Reader) : Prop where
  | idle (held : reader.storage.held? reader.handle = some .idle)
      (untaken : reader.snapshot = none) (silent : reader.acknowledged = none)
  | started {hold : Hold} {base view : Database}
      (held : reader.storage.held? reader.handle = some hold) (shows : hold.view? = some view)
      (taken : reader.snapshot = some base)
      (follows : Follows names topic reader.group base reader.acknowledged view)

structure Reader.Sound (names : Names) (topic : String) (reader : Reader) : Prop where
  fresh : reader.storage.Fresh
  arranged : reader.storage.Arranged
  given : reader.handle < reader.storage.fresh
  unprimed : reader.storage.Unprimed reader.handle
  stands : reader.Stands names topic

theorem Storage.view_of_shows {storage : Storage} {handle : Handle} {hold : Hold} {view : Database}
    (held : storage.held? handle = some hold) (shows : hold.view? = some view) :
    storage.view handle = view := by
  have own := hold_of_held held
  cases hold with
  | idle => cases shows
  | reading snapshot version =>
      rw [Storage.view, own]
      exact Option.some.inj shows
  | writing written changed =>
      rw [Storage.view, own]
      exact Option.some.inj shows

def Plan.seen (view : Database) (plan : Plan) : Database :=
  if plan.writes then (Storage.leaves view plan).after else view

theorem Storage.shows_afterRead (storage : Storage) (handle : Handle) :
    (storage.holdAfterRead handle).view? = some (storage.view handle) := by
  rw [holdAfterRead, view]
  cases storage.hold handle <;> rfl

/-- A statement that makes no table fails and leaves what its transaction holds, or its transaction
holds what the plan leaves to see. -/
theorem Storage.execute_seen {storage : Storage} {handle : Handle} {command : Command} {hold : Hold}
    (held : storage.held? handle = some hold) (unprimed : storage.Unprimed handle)
    (plain : command.makes = false) :
    (∃ fault, (storage.execute handle command).1 = .error fault ∧
      (storage.execute handle command).2.held? handle = some hold) ∨
    ∃ plan next, (storage.view handle).plan storage.clock command = .ok plan ∧
      (storage.execute handle command).1 = plan.outcome ∧
      (storage.execute handle command).2.held? handle = some next ∧
      next.view? = some (plan.seen (storage.view handle)) := by
  rcases execute_held held unprimed plain with
    failed | ⟨plan, planned, answer, ⟨reads, holds⟩ | ⟨writes, -, holds⟩⟩
  · exact .inl failed
  · refine .inr ⟨plan, _, planned, answer, holds, ?_⟩
    rw [Plan.seen, if_neg (by simp [reads])]
    exact shows_afterRead storage handle
  · obtain ⟨changed, writing, -⟩ :=
      holdAfterWrite_writing storage handle (leaves (storage.view handle) plan)
    refine .inr ⟨plan, _, planned, answer, holds, ?_⟩
    rw [Plan.seen, if_pos writes, writing]
    rfl

namespace Reader

variable {reader : Reader}

theorem Stands.follows (stands : reader.Stands names topic) :
    Follows names topic reader.group reader.base reader.acknowledged
      (reader.storage.view reader.handle) := by
  cases stands with
  | idle held untaken silent =>
      have sees : reader.storage.view reader.handle = reader.storage.committed := by
        rw [Storage.view, Storage.hold_of_held held]
      rw [sees, base, untaken, silent]
      exact follows_refl names topic reader.group reader.storage.committed
  | started held shows taken follows =>
      rw [Storage.view_of_shows held shows, base, taken]
      exact follows

theorem sound_opened {storage : Storage} (fresh : storage.Fresh) (arranged : storage.Arranged)
    (group : String) : (opened group storage).Sound names topic where
  fresh := Storage.fresh_begin fresh
  arranged := ⟨arranged.begin.committed, arranged.begin.held⟩
  given := Nat.lt_succ_self _
  unprimed := Storage.unprimed_begin storage
  stands := .idle (Storage.held_begin_self fresh) rfl rfl

theorem Sound.aside (sound : reader.Sound names topic) (aside : Aside) :
    (reader.step names topic (.aside aside)).Sound names topic := by
  obtain ⟨other, apart, elsewhere⟩ := aside.elsewhere sound.fresh sound.given
  have still := elsewhere.held reader.handle apart
  refine ⟨aside.fresh sound.fresh, aside.arranged sound.arranged,
    Nat.lt_of_lt_of_le sound.given elsewhere.fresh, ?_, ?_⟩
  · exact (congrArg Connection.creations (elsewhere.connection reader.handle apart)).trans
      sound.unprimed
  · cases sound.stands with
    | idle held untaken silent => exact .idle (still.trans held) untaken silent
    | started held shows taken follows => exact .started (still.trans held) shows taken follows

/-! Own statements. -/

section Fields

variable (reader) (statement : Statement) (offset : Option Int)

theorem after_snapshot : (reader.after (.ok statement) offset).snapshot =
    reader.snapshot.or
      (((reader.storage.execute reader.handle (.run statement.action)).2.hold
        reader.handle).view?.map fun _ => reader.storage.committed) := rfl

theorem after_acknowledged : (reader.after (.ok statement) offset).acknowledged =
    noted offset reader.acknowledged
      (reader.storage.execute reader.handle (.run statement.action)).1 := by
  simp only [after, ask]
  cases (reader.storage.execute reader.handle (.run statement.action)).1 <;> rfl

end Fields

theorem Stands.held (stands : reader.Stands names topic) :
    ∃ hold, reader.storage.held? reader.handle = some hold := by
  cases stands with
  | idle held => exact ⟨_, held⟩
  | started held => exact ⟨_, held⟩

theorem taken_after {statement : Statement} {offset : Option Int} {hold : Hold} {view : Database}
    (held : (reader.storage.execute reader.handle (.run statement.action)).2.held?
      reader.handle = some hold) (shows : hold.view? = some view) :
    (reader.after (.ok statement) offset).snapshot = some reader.base := by
  rw [after_snapshot]
  simp only [Storage.hold_of_held held, shows, Option.map_some, base]
  cases reader.snapshot <;> rfl

theorem Stands.after {statement : Statement} {offset : Option Int}
    (stands : reader.Stands names topic) (unprimed : reader.storage.Unprimed reader.handle)
    (plain : (Command.run statement.action).makes = false)
    (keeps : ∀ plan,
      (reader.storage.view reader.handle).plan reader.storage.clock (.run statement.action) =
        .ok plan →
      Follows names topic reader.group reader.base (noted offset reader.acknowledged plan.outcome)
        (plan.seen (reader.storage.view reader.handle))) :
    (reader.after (.ok statement) offset).Stands names topic := by
  obtain ⟨hold, held⟩ := stands.held
  rcases Storage.execute_seen held unprimed plain with
    ⟨fault, failed, still⟩ | ⟨plan, next, planned, answer, holds, shows⟩
  · have own := Storage.hold_of_held still
    have silently : (reader.after (.ok statement) offset).acknowledged = reader.acknowledged := by
      rw [after_acknowledged, failed]
      rfl
    -- A statement that failed acknowledged nothing and took no snapshot.
    cases stands with
    | idle idle untaken silent =>
        cases held.symm.trans idle
        refine .idle still ?_ (silently.trans silent)
        rw [after_snapshot, own, untaken]
        rfl
    | @started _ base view before shows taken follows =>
        cases held.symm.trans before
        have further : Follows names topic reader.group base
            (reader.after (.ok statement) offset).acknowledged view := silently.symm ▸ follows
        refine .started still shows ?_ further
        rw [after_snapshot, taken]
        rfl
  -- Any other one leaves a snapshot, be it its own or an earlier one.
  · refine .started holds shows (taken_after holds shows) ?_
    rw [after_acknowledged, answer]
    exact keeps plan planned

theorem Sound.after {statement : Statement} {offset : Option Int}
    (sound : reader.Sound names topic)
    (plain : (Command.run statement.action).makes = false)
    (keeps : ∀ plan,
      (reader.storage.view reader.handle).plan reader.storage.clock (.run statement.action) =
        .ok plan →
      Follows names topic reader.group reader.base (noted offset reader.acknowledged plan.outcome)
        (plan.seen (reader.storage.view reader.handle))) :
    (reader.after (.ok statement) offset).Sound names topic := by
  have stands := sound.stands.after sound.unprimed plain keeps
  have frame := reader.storage.execute_frame reader.handle (.run statement.action)
  exact ⟨Storage.fresh_execute sound.fresh,
    sound.arranged.execute fun _ planned =>
      Database.arranged_leaves (sound.arranged.view reader.handle) planned,
    Nat.lt_of_lt_of_eq sound.given frame.2.2.2.symm,
    Storage.unprimed_execute sound.unprimed plain, stands⟩

theorem Sound.read {statement : Statement} (sound : reader.Sound names topic)
    (plain : (Command.run statement.action).makes = false)
    (reads : ∀ plan,
      (reader.storage.view reader.handle).plan reader.storage.clock (.run statement.action) =
        .ok plan → plan.writes = false) :
    (reader.after (.ok statement) none).Sound names topic := by
  apply sound.after plain
  intro plan planned
  have silent : noted none reader.acknowledged plan.outcome = reader.acknowledged := by
    cases plan.outcome <;> rfl
  rw [silent, Plan.seen, if_neg (by simp [reads plan planned])]
  exact sound.stands.follows

theorem Sound.step (valid : isTopic topic = true) (sound : reader.Sound names topic)
    (event : ReaderEvent) : (reader.step names topic event).Sound names topic := by
  cases event with
  | claim group =>
      rw [Reader.step, names.claim_built group valid]
      exact sound.read rfl fun plan planned =>
        Database.claim_unwritten reader.storage.clock planned
  | select group batchSize codec =>
      rw [Reader.step, names.fetch_built group valid]
      exact sound.read rfl fun plan planned => Database.fetch_unwritten planned
  | write upsert =>
      rw [Reader.step, upsert.built names valid]
      have plain : (Command.run (upsert.action (names.cursorTable topic))).makes = false := by
        cases upsert <;> rfl
      apply sound.after plain
      intro plan planned
      obtain ⟨rows, cursors, rfl⟩ := upsert.planned planned
      exact sound.stands.follows.put cursors upsert
  | aside aside => exact sound.aside aside

end Reader

end TopicLog
