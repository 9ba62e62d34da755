import TopicLog.Proofs.Alone

/-!
A transaction that no other one disturbs. With no other transaction open, a script comes to what it says
of the committed database: neither handles and connections matter nor which locks were taken. What it
leaves is what it saw at its commit, told apart by look-ups only, since a transaction that wrote what
was there before is not put in the place of the committed database.
-/
namespace TopicLog

namespace Database

structure Same (first second : Database) : Prop where
  table : ∀ name, first.table? name = second.table? name
  index : ∀ name, first.index? name = second.index? name

namespace Same

variable {first second third : Database}

theorem refl (database : Database) : database.Same database := ⟨fun _ => rfl, fun _ => rfl⟩

theorem symm (same : first.Same second) : second.Same first :=
  ⟨fun name => (same.table name).symm, fun name => (same.index name).symm⟩

theorem trans (early : first.Same second) (late : second.Same third) : first.Same third :=
  ⟨fun name => (early.table name).trans (late.table name),
    fun name => (early.index name).trans (late.index name)⟩

end Same

variable {database : Database} {name other : String}

theorem table_put (contents : Contents) :
    (database.put name contents).table? other =
      (database.table? other).map fun table =>
        if sameName name other then { table with contents } else table := by
  have found : (database.put name contents).table? other =
      (database.table? other).map fun table =>
        if sameName table.name name then { table with contents } else table := by
    unfold put table?
    rw [List.find?_map]
    congr 2
    funext table
    by_cases same : sameName table.name name <;> simp [same]
  rw [found]
  cases inside : database.table? other with
  | none => rfl
  | some table =>
      have named := table_name inside
      have both : sameName table.name name = sameName name other := by
        rw [Bool.eq_iff_iff]
        constructor
        · intro hit
          exact sameName_trans (sameName_symm hit) named
        · intro same
          exact sameName_trans named (sameName_symm same)
      rw [Option.map_some, Option.map_some, both]

theorem table_addTable (table : Table) :
    (database.addTable table).table? other =
      (database.table? other).or (if sameName table.name other then some table else none) := by
  unfold table? addTable
  rw [List.find?_append]
  by_cases same : sameName table.name other <;> simp [same]

theorem put_same {table : Table} (found : database.table? name = some table) :
    (database.put name table.contents).Same database where
  table other := by
    rw [table_put]
    cases inside : database.table? other with
    | none => rfl
    | some there =>
        by_cases same : sameName name other = true
        · have one : database.table? other = database.table? name :=
            (database.table_of_sameName same).symm
          have equal : there = table := Option.some.inj (inside.symm.trans (one.trans found))
          rw [equal, Option.map_some, if_pos same]
        · rw [Option.map_some, if_neg same]
  index _ := rfl

def answer (database : Database) (now : Timestamp) (command : Command) :
    Except Fault Effect × Database :=
  match database.plan now command with
  | .error fault => (.error fault, database)
  | .ok plan => (plan.outcome, (Storage.leaves database plan).after)

end Database

/-- A plan tells truly that it writes nothing, or nothing new. -/
structure Plan.Honest (view : Database) (plan : Plan) : Prop where
  reads : plan.writes = false → (Storage.leaves view plan).after = view
  silent : plan.writes = false → (Storage.leaves view plan).changed = false
  unchanged : (Storage.leaves view plan).changed = false →
    (Storage.leaves view plan).after.Same view

namespace Database

variable {database : Database} {name : String} {plan : Plan}

theorem honest_read (rows : List (List Value)) : (Plan.read database rows).Honest database :=
  ⟨fun _ => rfl, fun _ => rfl, fun _ => .refl database⟩

theorem honest_failed (writes : Bool) (fault : Fault) :
    (⟨writes, .error fault⟩ : Plan).Honest database :=
  ⟨fun _ => rfl, fun _ => rfl, fun _ => .refl database⟩

theorem honest_change (after : Database) (affected : Nat) :
    (Plan.write after affected true).Honest database := ⟨nofun, nofun, nofun⟩

theorem honest_create {contents : Contents} (planned : database.create name contents = .ok plan) :
    plan.Honest database := by
  unfold create at planned
  repeat' split at planned
  all_goals cases planned
  · exact honest_read []
  · exact honest_change _ 0

theorem honest_fetch {claim : Claim} {limit : Nat}
    (planned : database.fetch name claim limit = .ok plan) : plan.Honest database := by
  simp only [fetch, bind, Except.bind, pure, Except.pure] at planned
  repeat' split at planned
  all_goals cases planned
  · exact honest_failed false .mismatch
  · exact honest_read _

theorem honest_append {now : Timestamp} {records : List Record}
    (planned : database.append now name records = .ok plan) : plan.Honest database := by
  simp only [append, onLog, bind, Except.bind, pure, Except.pure] at planned
  repeat' split at planned
  all_goals cases planned
  · exact honest_change _ records.length
  · exact honest_failed true _

theorem onCursors_leaves {column : String} {change : List CursorRow → List CursorRow}
    (planned : database.onCursors name column change = .ok plan) :
    ∃ rows, (Storage.leaves database plan).after = database.put name (.cursors rows) := by
  simp only [onCursors, bind, Except.bind, pure, Except.pure] at planned
  repeat' split at planned
  all_goals cases planned
  exact ⟨_, rfl⟩

theorem honest_onCursors {column : String} {change : List CursorRow → List CursorRow}
    (planned : database.onCursors name column change = .ok plan) : plan.Honest database := by
  simp only [onCursors, find, bind, Except.bind, pure, Except.pure] at planned
  cases found : database.table? name with
  | none => simp [found] at planned
  | some table =>
      simp only [found] at planned
      cases held : table.contents with
      | log log => simp [held] at planned
      | cursors rows =>
          simp only [held] at planned
          cases planned
          refine ⟨by simp [Plan.write], by simp [Plan.write], fun unchanged => ?_⟩
          have kept : change rows = rows := by simpa [Storage.leaves, Plan.write] using unchanged
          change (database.put name (.cursors (change rows))).Same database
          rw [kept, ← held]
          exact put_same found

theorem honest_claim (now : Timestamp) {claim : Claim}
    (planned : database.planAction now (.claim claim) = .ok plan) : plan.Honest database := by
  simp only [planAction] at planned
  cases bounded : database.bound claim with
  | error fault =>
      rw [bounded] at planned
      cases planned
  | ok bound =>
      rw [bounded] at planned
      cases planned
      exact honest_read [[bound]]

theorem honest_createIndex {table : String} (planned : database.createIndex name table = .ok plan) :
    plan.Honest database := by
  unfold createIndex at planned
  repeat' split at planned
  all_goals cases planned
  · exact honest_read []
  · exact honest_change _ 0

theorem honest_clear (planned : database.clear name = .ok plan) : plan.Honest database := by
  simp only [clear, bind, Except.bind, pure, Except.pure] at planned
  repeat' split at planned
  all_goals cases planned
  all_goals exact honest_change _ _

theorem honest_run {now : Timestamp} {action : Action}
    (planned : database.plan now (.run action) = .ok plan) : plan.Honest database := by
  cases action with
  | createLog table => exact honest_create planned
  | createCursors table => exact honest_create planned
  | createIndex index table => exact honest_createIndex planned
  | append table records => exact honest_append planned
  | fetch table claim limit => exact honest_fetch planned
  | claim claim => exact honest_claim now planned
  | markConsumed table group offset => exact honest_onCursors planned
  | acknowledge table group offset => exact honest_onCursors planned
  | startAt table group offset => exact honest_onCursors planned
  | clear table => exact honest_clear planned

end Database

/-! One transaction. -/

/-- What a transaction holds by which it sees a database. -/
def Hold.Sees (committed : Database) (version : Nat) (view : Database) : Hold → Prop
  | .idle => view = committed
  | .reading seen taken => seen = view ∧ view = committed ∧ taken = version
  | .writing seen changed => seen = view ∧ (changed = false → view.Same committed)

/-- A storage with one open transaction, which sees a database. -/
def Storage.Solo (storage : Storage) (handle : Handle) (view : Database) : Prop :=
  ∃ hold : Hold, storage.holds = [(handle, hold)] ∧
    hold.Sees storage.committed storage.version view

namespace Storage

variable {storage : Storage} {handle : Handle} {view : Database}

theorem hold_of_one {hold : Hold} (one : storage.holds = [(handle, hold)]) :
    storage.hold handle = hold := by
  rw [Storage.hold, one]
  simp

theorem Solo.sees (solo : storage.Solo handle view) : storage.view handle = view := by
  obtain ⟨hold, one, sees⟩ := solo
  rw [Storage.view, hold_of_one one]
  cases hold with
  | idle => exact sees.symm
  | reading seen taken => exact sees.1
  | writing seen changed => exact sees.1

theorem Solo.free (solo : storage.Solo handle view) : storage.lockedFor handle = false := by
  obtain ⟨hold, one, -⟩ := solo
  simp [lockedFor, one]

theorem Solo.current (solo : storage.Solo handle view) : storage.isOutdated handle = false := by
  obtain ⟨hold, one, sees⟩ := solo
  rw [isOutdated, hold_of_one one]
  cases hold with
  | idle => rfl
  | reading seen taken => simpa using sees.2.2
  | writing seen changed => rfl

theorem Solo.begin (closed : storage.holds = []) :
    storage.begin.2.Solo storage.fresh storage.committed :=
  ⟨.idle, by simp [Storage.begin, closed], rfl⟩

theorem Solo.executed (solo : storage.Solo handle view) {command : Command} {plan : Plan}
    (planned : view.plan storage.clock command = .ok plan) :
    (storage.execute handle command).1 = plan.outcome ∧
      (storage.execute handle command).2.holds = [(handle,
        if storage.takesLock handle command plan then storage.holdAfterWrite handle (leaves view plan)
        else storage.holdAfterRead handle)] := by
  have sees := solo.sees
  have free := solo.free
  have current := solo.current
  obtain ⟨hold, one, -⟩ := solo
  cases lock : storage.takesLock handle command plan with
  | false =>
      have unlocked := lock
      simp only [takesLock] at unlocked
      simp [Storage.execute, sees, planned, unlocked, onConnection, setHold, one]
  | true =>
      have locked := lock
      simp only [takesLock] at locked
      simp [Storage.execute, sees, planned, locked, free, current, onConnection, setHold, one]
      rfl

theorem Solo.sees_after (solo : storage.Solo handle view) {command : Command} {plan : Plan}
    (honest : plan.Honest view) :
    (if storage.takesLock handle command plan then storage.holdAfterWrite handle (leaves view plan)
      else storage.holdAfterRead handle).Sees storage.committed storage.version
        (leaves view plan).after := by
  obtain ⟨hold, one, seen⟩ := solo
  have own := hold_of_one one
  cases lock : storage.takesLock handle command plan with
  | false =>
      have reads : plan.writes = false := by
        simp only [takesLock, Bool.or_eq_false_iff] at lock
        exact lock.1
      rw [if_neg Bool.false_ne_true, holdAfterRead, own, honest.reads reads]
      cases hold with
      | idle => exact ⟨seen.symm, seen, rfl⟩
      | reading view taken => exact seen
      | writing view changed => exact seen
  | true =>
      have unchanged := honest.unchanged
      rw [if_pos rfl, holdAfterWrite, own]
      cases hold with
      | idle => exact ⟨rfl, fun kept => seen ▸ unchanged kept⟩
      | reading view taken => exact ⟨rfl, fun kept => seen.2.1 ▸ unchanged kept⟩
      | writing view changed =>
          refine ⟨rfl, fun kept => ?_⟩
          obtain ⟨before, now⟩ := Bool.or_eq_false_iff.mp kept
          exact (unchanged now).trans (seen.2 before)

/-- A statement answers as in the database that its transaction sees. -/
theorem Solo.execute (solo : storage.Solo handle view) (action : Action) :
    (storage.execute handle (.run action)).1 = (view.answer storage.clock (.run action)).1 ∧
      (storage.execute handle (.run action)).2.Solo handle
        (view.answer storage.clock (.run action)).2 := by
  have frame := storage.execute_frame handle (.run action)
  unfold Database.answer
  cases planned : view.plan storage.clock (.run action) with
  | error fault =>
      obtain ⟨hold, one, seen⟩ := solo
      have same : storage.execute handle (.run action) =
          (.error fault, storage.onConnection handle (·.see view)) := by
        simp only [Storage.execute, Solo.sees ⟨hold, one, seen⟩, planned]
      rw [same]
      exact ⟨rfl, hold, one, seen⟩
  | ok plan =>
      obtain ⟨answered, holds⟩ := solo.executed planned
      refine ⟨answered, _, holds, ?_⟩
      rw [frame.1, frame.2.1]
      exact solo.sees_after (Database.honest_run planned)

theorem Solo.commit (solo : storage.Solo handle view) :
    (storage.commit handle).committed.Same view ∧ (storage.commit handle).holds = [] := by
  obtain ⟨hold, one, seen⟩ := solo
  have own := hold_of_one one
  have closed : (storage.commit handle).holds = [] := by
    rw [(storage.commit_frame handle).2.2, one]
    simp
  refine ⟨?_, closed⟩
  unfold Storage.commit
  rw [own]
  cases hold with
  | idle => exact seen ▸ .refl _
  | reading view taken => exact seen.2.1 ▸ .refl _
  | writing view changed =>
      cases changed with
      | true => exact seen.1 ▸ .refl _
      | false => exact (seen.2 rfl).symm

theorem Solo.rollback (solo : storage.Solo handle view) : (storage.rollback handle).holds = [] := by
  obtain ⟨hold, one, -⟩ := solo
  rw [(storage.rollback_frame handle).2.2.2.2, one]
  simp

end Storage

/-! Whole scripts. -/

structure Outcome (α σ : Type) where
  /-- Nothing if a handler did not return. -/
  result : Option α
  state : σ
  handed : List (Delivery × Option Verdict)
  database : Database

namespace Script

variable {α σ : Type}

/-- A script whose transaction sees a database, while another is committed. -/
def alone (handler : Handler σ) (now : Timestamp) :
    Script α → σ → (committed view : Database) → Outcome α σ
  | .done result, state, committed, _ => ⟨some result, state, [], committed⟩
  | .execute command next, state, committed, view =>
      let (answer, view) := view.answer now command
      alone handler now (next answer) state committed view
  | .hand delivery next, state, committed, view =>
      match handler delivery state with
      | (some verdict, state) =>
          let outcome := alone handler now (next verdict) state committed view
          { outcome with handed := (delivery, some verdict) :: outcome.handed }
      | (none, state) => ⟨none, state, [(delivery, none)], committed⟩
  | .commit next, state, _, view => alone handler now next state view view
  | .rollback next, state, committed, _ => alone handler now next state committed committed

abbrev IsStated (script : Script α) : Prop := script.Runs fun command => ∃ action, command = .run action

/-- What a run in a storage has in common with an outcome. -/
structure Reaches (outcome : Outcome α σ) (ran : Option α × σ × Storage) (journal : Journal) :
    Prop where
  result : ran.1 = outcome.result
  state : ran.2.1 = outcome.state
  handed : journal.handed = outcome.handed
  database : ran.2.2.committed.Same outcome.database
  closed : ran.2.2.holds = []

theorem run_alone (handler : Handler σ) {handle : Handle} (script : Script α) (ends : script.Ends)
    (stated : script.IsStated) (state : σ) {storage : Storage} {view : Database}
    (solo : storage.Solo handle view) :
    Reaches (script.alone handler storage.clock state storage.committed view)
      (script.run handler handle state storage) (script.journal handler handle state storage) := by
  -- The transaction is the only one at every step, so the locks never come into it.
  induction script generalizing state storage view with
  | done result => cases ends
  | execute command next ih =>
      obtain ⟨⟨action, rfl⟩, later⟩ := stated
      obtain ⟨answered, left⟩ := solo.execute action
      obtain ⟨committed, -, clock, -⟩ := storage.execute_frame handle (.run action)
      have rest := ih (view.answer storage.clock (.run action)).1 (ends _) (later _) state left
      rw [committed, clock] at rest
      simp only [alone, run, journal, answered]
      exact ⟨rest.result, rest.state, rest.handed, rest.database, rest.closed⟩
  | hand delivery next ih =>
      cases judged : handler delivery state with
      | mk verdict after =>
          cases verdict with
          | none =>
              simp only [alone, run, journal, judged]
              refine ⟨rfl, rfl, rfl, ?_, solo.rollback⟩
              rw [(storage.rollback_frame handle).1]
              exact .refl _
          | some verdict =>
              have rest := ih verdict (ends verdict) (stated verdict) after solo
              simp only [alone, run, journal, judged]
              refine ⟨rest.result, rest.state, ?_, rest.database, rest.closed⟩
              exact congrArg ((delivery, some verdict) :: ·) rest.handed
  | commit next ih =>
      cases next with
      | done result =>
          obtain ⟨left, closed⟩ := solo.commit
          exact ⟨rfl, rfl, rfl, left, closed⟩
      | _ => cases ends
  | rollback next ih =>
      cases next with
      | done result =>
          refine ⟨rfl, rfl, rfl, ?_, solo.rollback⟩
          change (storage.rollback handle).committed.Same storage.committed
          rw [(storage.rollback_frame handle).1]
          exact .refl _
      | _ => cases ends

end Script

/-! Operations. -/

section Operation

variable {α σ : Type} {storage : Storage}

theorem Storage.perform_alone {script : Script α} (ends : script.Ends) (stated : script.IsStated)
    (closed : storage.holds = []) :
    let outcome := script.alone (fun _ _ => (none, ())) storage.clock () storage.committed
      storage.committed
    let performed := storage.perform script
    performed.1 = outcome.result ∧ performed.2.committed.Same outcome.database ∧
      performed.2.holds = [] ∧ performed.2.clock = storage.clock := by
  intro outcome performed
  have reached := script.run_alone (fun _ _ => (none, ())) ends stated () (Storage.Solo.begin closed)
  have frame := Script.run_frame (fun _ _ => (none, ())) storage.fresh script () storage.begin.2
  exact ⟨reached.result, reached.database, reached.closed, frame.1⟩

/-- What an effect tells whoever looks at no database. -/
def Effect.told (effect : Effect) : List (List Value) × Nat := (effect.rows, effect.affected)

def Script.single (command : Command) : Script (Except Fault (List (List Value) × Nat)) :=
  .execute command fun
    | .ok effect => .commit (.done (.ok effect.told))
    | .error fault => .rollback (.done (.error fault))

theorem Script.single_ends (command : Command) : (Script.single command).Ends := by
  intro answer
  cases answer <;> trivial

theorem Script.single_runs {allowed : Command → Prop} {command : Command} (own : allowed command) :
    (Script.single command).Runs allowed := by
  refine ⟨own, fun answer => ?_⟩
  cases answer <;> trivial

theorem Storage.perform_single (storage : Storage) (command : Command) :
    storage.perform (Script.single command) =
      (some ((storage.autocommit command).1.map Effect.told), (storage.autocommit command).2) := by
  simp only [perform, autocommit, Script.single, Script.run]
  rcases executed : storage.begin.2.execute storage.begin.1 command with ⟨answer, left⟩
  cases answer <;> rfl

theorem Script.all_ends (statements : List Statement) : (Script.all statements).Ends := by
  induction statements with
  | nil => trivial
  | cons first rest ih =>
      intro answer
      cases answer with
      | error fault => trivial
      | ok effect => exact ih

/-- What a set-up says of the transaction that it ran. -/
def Storage.readiness (topic : String) : Option (Except Failure Unit) → Except Failure Unit
  | some (.error failure) => .error (.schema topic failure)
  | _ => .ok ()

theorem Storage.setUp_performed (storage : Storage) (topic : String) (statements : List Statement) :
    storage.setUp topic (.ok statements) =
      (Storage.readiness topic (storage.perform (Script.all statements)).1,
        (storage.perform (Script.all statements)).2) := by
  simp only [Storage.setUp]
  rcases storage.perform (Script.all statements) with ⟨_ | (failure | done), after⟩ <;> rfl

theorem Subscriber.poll_alone {subscriber : Subscriber} {topic : String}
    {script : Script (Except Failure Nat)} (built : subscriber.pollScript? topic = .ok script)
    (stated : script.IsStated) (handler : Handler σ) (state : σ) (closed : storage.holds = []) :
    Script.Reaches (script.alone handler storage.clock state storage.committed storage.committed)
      (subscriber.poll topic handler state storage)
      (subscriber.journal topic handler state storage) := by
  have solo : storage.beginIsolated.2.Solo storage.fresh storage.committed := Storage.Solo.begin closed
  have reached := script.run_alone handler (poll_ends built) stated state solo
  simp only [Subscriber.poll, Subscriber.journal, built]
  exact reached

theorem Subscriber.poll_clock (subscriber : Subscriber) (topic : String) (handler : Handler σ)
    (state : σ) (storage : Storage) :
    (subscriber.poll topic handler state storage).2.2.clock = storage.clock := by
  unfold Subscriber.poll
  cases subscriber.pollScript? topic with
  | error failure => rfl
  | ok script => exact (Script.run_frame handler _ script state storage.beginIsolated.2).1

end Operation

end TopicLog
