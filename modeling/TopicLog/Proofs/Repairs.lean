import TopicLog.Proofs.Undisturbed

/-!
What may be done to a database between two polls. The end of another transaction and a set-up depend on
no handle and no connection: a connection may ask for the write lock to make a table that is there, but
that decides on nothing that a set-up leaves, since whoever is refused the lock would write nothing
else either.
-/
namespace TopicLog

namespace Storage

theorem outward_rollback (handle : Handle) : Outward fun storage => storage.rollback handle where
  fresh _ fresh := fresh_rollback fresh
  alike before after _ _ alike := by
    have first := before.rollback_frame handle
    have second := after.rollback_frame handle
    constructor
    · rw [first.1, second.1, alike.committed]
    · rw [first.2.1, second.2.1, alike.version]
    · rw [first.2.2.1, second.2.2.1, alike.clock]
    · rw [first.2.2.2.2, second.2.2.2.2, alike.holds]

theorem outward_commit (handle : Handle) : Outward fun storage => storage.commit handle where
  fresh _ fresh := fresh_commit fresh
  alike before after _ _ alike := by
    have first := before.commit_frame handle
    have second := after.commit_frame handle
    have held : after.held? handle = before.held? handle := by rw [held?, held?, alike.holds]
    constructor
    · by_cases written : ∃ view, before.held? handle = some (.writing view true)
      · obtain ⟨view, writes⟩ := written
        rw [(commit_written writes).1, (commit_written (held.trans writes)).1]
      · rw [(commit_unwritten fun view found => written ⟨view, found⟩).1,
          (commit_unwritten fun view found => written ⟨view, held ▸ found⟩).1, alike.committed]
    · by_cases written : ∃ view, before.held? handle = some (.writing view true)
      · obtain ⟨view, writes⟩ := written
        rw [(commit_written writes).2, (commit_written (held.trans writes)).2, alike.version]
      · rw [(commit_unwritten fun view found => written ⟨view, found⟩).2,
          (commit_unwritten fun view found => written ⟨view, held ▸ found⟩).2, alike.version]
    · rw [first.1, second.1, alike.clock]
    · rw [first.2.2, second.2.2, alike.holds]

end Storage

/-- Whether a command writes something new. -/
def Database.alters (database : Database) (now : Timestamp) (command : Command) : Bool :=
  match database.plan now command with
  | .error _ => false
  | .ok plan => (Storage.leaves database plan).changed

namespace Storage

variable {storage : Storage} {handle : Handle} {view : Database} {wrote : Bool}

/-! A transaction that nobody keeps from the lock. -/

/-- What a transaction sees and whether it wrote anything new. How it came by its snapshot and whether
it asked for the lock makes no difference to its end. -/
inductive Stands (storage : Storage) (handle : Handle) : Database → Bool → Prop where
  | idle (held : storage.held? handle = some .idle) : Stands storage handle storage.committed false
  | reading {view : Database} (held : storage.held? handle = some (.reading view storage.version)) :
      Stands storage handle view false
  | writing {view : Database} {changed : Bool}
      (held : storage.held? handle = some (.writing view changed)) :
      Stands storage handle view changed

theorem Stands.sees (stands : storage.Stands handle view wrote) : storage.view handle = view := by
  cases stands with
  | idle held => rw [Storage.view, hold_of_held held]
  | reading held => rw [Storage.view, hold_of_held held]
  | writing held => rw [Storage.view, hold_of_held held]

theorem Stands.current (stands : storage.Stands handle view wrote) :
    storage.isOutdated handle = false := by
  cases stands with
  | idle held => rw [isOutdated, hold_of_held held]
  | reading held => simp [isOutdated, hold_of_held held]
  | writing held => rw [isOutdated, hold_of_held held]

theorem Stands.of_same {after : Storage} (stands : storage.Stands handle view wrote)
    (holds : after.holds = storage.holds) (committed : after.committed = storage.committed)
    (version : after.version = storage.version) : after.Stands handle view wrote := by
  have same : after.held? handle = storage.held? handle := congrArg (List.lookup handle) holds
  cases stands with
  | idle held => exact committed ▸ .idle (same.trans held)
  | reading held => exact .reading (version ▸ same.trans held)
  | writing held => exact .writing (same.trans held)

theorem Stands.read (stands : storage.Stands handle view wrote) :
    (storage.setHold handle (storage.holdAfterRead handle)).Stands handle view wrote := by
  cases stands with
  | idle held =>
      apply Stands.reading
      rw [held_setHold, if_pos rfl, held, holdAfterRead, hold_of_held held]
      rfl
  | reading held =>
      apply Stands.reading
      rw [held_setHold, if_pos rfl, held, holdAfterRead, hold_of_held held]
      rfl
  | writing held =>
      apply Stands.writing
      rw [held_setHold, if_pos rfl, held, holdAfterRead, hold_of_held held]
      rfl

theorem Stands.write (stands : storage.Stands handle view wrote) (effect : Effect) :
    (storage.setHold handle (storage.holdAfterWrite handle effect)).Stands handle effect.after
      (wrote || effect.changed) := by
  apply Stands.writing
  cases stands with
  | idle held =>
      rw [held_setHold, if_pos rfl, held, holdAfterWrite, hold_of_held held]
      rfl
  | reading held =>
      rw [held_setHold, if_pos rfl, held, holdAfterWrite, hold_of_held held]
      rfl
  | writing held =>
      rw [held_setHold, if_pos rfl, held, holdAfterWrite, hold_of_held held]
      rfl

theorem Stands.execute (stands : storage.Stands handle view wrote)
    (free : storage.lockedFor handle = false) (action : Action) :
    (storage.execute handle (.run action)).1 = (view.answer storage.clock (.run action)).1 ∧
      (storage.execute handle (.run action)).2.Stands handle
        (view.answer storage.clock (.run action)).2
        (wrote || view.alters storage.clock (.run action)) := by
  have sees := stands.sees
  have current := stands.current
  unfold Database.answer Database.alters
  cases planned : view.plan storage.clock (.run action) with
  | error fault =>
      simp only [Storage.execute, sees, planned, Bool.or_false]
      exact ⟨trivial, stands.of_same rfl rfl rfl⟩
  | ok plan =>
      have honest := Database.honest_run planned
      cases lock : plan.writes || (storage.pool.connection handle).asksForLock (.run action) with
      | false =>
          obtain ⟨reads, -⟩ := Bool.or_eq_false_iff.mp lock
          simp only [Storage.execute, sees, planned, lock, Bool.false_and, Bool.false_eq_true,
            ↓reduceIte, honest.reads reads, honest.silent reads, Bool.or_false]
          exact ⟨trivial, stands.read.of_same rfl rfl rfl⟩
      | true =>
          simp only [Storage.execute, sees, planned, lock, free, current, Bool.and_false,
            Bool.false_eq_true, ↓reduceIte]
          exact ⟨trivial, (stands.write (leaves view plan)).of_same rfl rfl rfl⟩

theorem Stands.commit (stands : storage.Stands handle view wrote) :
    (storage.commit handle).committed = (if wrote then view else storage.committed) ∧
      (storage.commit handle).version = storage.version + if wrote then 1 else 0 := by
  cases stands with
  | idle held => exact commit_unwritten fun view other => by cases held.symm.trans other
  | reading held => exact commit_unwritten fun view other => by cases held.symm.trans other
  | writing held =>
      cases wrote with
      | true => exact commit_written held
      | false => exact commit_unwritten fun view other => by cases held.symm.trans other

/-! Set-ups. -/

theorem lockedFor_others :
    storage.lockedFor handle =
      (storage.holds.filter fun entry => entry.1 ≠ handle).any fun entry => isWriting entry.2 := by
  rw [List.any_filter]
  rfl

/-- Two storages with a transaction in each, in which all else is the same. -/
structure Beside (first : Storage) (one : Handle) (second : Storage) (other : Handle) : Prop where
  committed : second.committed = first.committed
  version : second.version = first.version
  clock : second.clock = first.clock
  others : second.holds.filter (fun entry => entry.1 ≠ other) =
    first.holds.filter fun entry => entry.1 ≠ one

section Beside

variable {first second : Storage} {one other : Handle}

theorem Beside.locked (beside : Beside first one second other) :
    second.lockedFor other = first.lockedFor one := by
  rw [lockedFor_others, beside.others, lockedFor_others]

theorem Beside.execute (beside : Beside first one second other) (command : Command) :
    Beside (first.execute one command).2 one (second.execute other command).2 other := by
  have frame := first.execute_frame one command
  have frameToo := second.execute_frame other command
  constructor
  · rw [frameToo.1, beside.committed, frame.1]
  · rw [frameToo.2.1, beside.version, frame.2.1]
  · rw [frameToo.2.2.1, beside.clock, frame.2.2.1]
  · rw [execute_others, beside.others, execute_others]

theorem Beside.rollback (beside : Beside first one second other) :
    (first.rollback one).Alike (second.rollback other) := by
  have ended := first.rollback_frame one
  have endedToo := second.rollback_frame other
  constructor
  · rw [endedToo.1, beside.committed, ended.1]
  · rw [endedToo.2.1, beside.version, ended.2.1]
  · rw [endedToo.2.2.1, beside.clock, ended.2.2.1]
  · rw [endedToo.2.2.2.2, beside.others, ended.2.2.2.2]

theorem Beside.commit (beside : Beside first one second other)
    (stands : first.Stands one view wrote) (standsToo : second.Stands other view wrote) :
    (first.commit one).Alike (second.commit other) := by
  have ended := first.commit_frame one
  have endedToo := second.commit_frame other
  constructor
  · rw [standsToo.commit.1, beside.committed, stands.commit.1]
  · rw [standsToo.commit.2, beside.version, stands.commit.2]
  · rw [endedToo.1, beside.clock, ended.1]
  · rw [endedToo.2.2, beside.others, ended.2.2]

theorem Beside.all {σ : Type} (beside : Beside first one second other)
    (free : first.lockedFor one = false) (stands : first.Stands one view wrote)
    (standsToo : second.Stands other view wrote) (handler : Handler σ) (state : σ)
    (statements : List Statement) :
    ((Script.all statements).run handler one state first).2.2.Alike
      ((Script.all statements).run handler other state second).2.2 := by
  induction statements generalizing first second view wrote with
  | nil => exact beside.commit stands standsToo
  | cons statement rest ih =>
      obtain ⟨answered, next⟩ := stands.execute free statement.action
      obtain ⟨answeredToo, nextToo⟩ := standsToo.execute (beside.locked.trans free) statement.action
      rw [beside.clock] at answeredToo nextToo
      have later := beside.execute (.run statement.action)
      simp only [Script.all, Script.statement, Script.run, answered, answeredToo]
      cases (view.answer first.clock (.run statement.action)).1 with
      | error fault => exact later.rollback
      | ok effect =>
          apply ih later _ next nextToo
          rw [lockedFor_others, execute_others, ← lockedFor_others, free]

end Beside

theorem all_locked {σ : Type} (locked : storage.lockedFor handle = true)
    (unwritten : ∀ view, storage.held? handle ≠ some (.writing view true)) (handler : Handler σ)
    (state : σ) (statements : List Statement) :
    let left := ((Script.all statements).run handler handle state storage).2.2
    left.committed = storage.committed ∧ left.version = storage.version := by
  induction statements generalizing storage with
  | nil => exact commit_unwritten unwritten
  | cons statement rest ih =>
      have frame := storage.execute_frame handle (.run statement.action)
      simp only [Script.all, Script.statement, Script.run]
      cases (storage.execute handle (.run statement.action)).1 with
      | error fault =>
          have ended := (storage.execute handle (.run statement.action)).2.rollback_frame handle
          exact ⟨ended.1.trans frame.1, ended.2.1.trans frame.2.1⟩
      | ok effect =>
          have still : ∀ view, (storage.execute handle (.run statement.action)).2.held? handle ≠
              some (.writing view true) := by
            rcases storage.execute_cases handle (.run statement.action) with
              ⟨fault, -, holds⟩ | ⟨plan, -, -, ⟨-, holds⟩ | ⟨-, free, -⟩⟩
            · rw [held?, holds]
              exact unwritten
            · intro view held
              rw [held?, holds] at held
              have before := (held_setHold _).symm.trans held
              rw [if_pos rfl, holdAfterRead, hold_eq] at before
              cases found : storage.held? handle with
              | none => simp [found] at before
              | some hold =>
                  cases hold with
                  | writing seen changed =>
                      simp only [found, Option.getD_some, Option.map_some, Option.some.injEq] at before
                      exact unwritten view (before ▸ found)
                  | _ => simp [found] at before
            · cases locked.symm.trans free
          have more := ih (by rw [lockedFor_others, execute_others, ← lockedFor_others, locked]) still
          exact ⟨more.1.trans frame.1, more.2.trans frame.2.1⟩

theorem all_performed (fresh : storage.Fresh) (statements : List Statement) :
    let left := (storage.perform (Script.all statements)).2
    left.holds = storage.holds ∧ left.clock = storage.clock ∧ left.Fresh := by
  intro left
  let handler : Handler Unit := fun _ _ => (none, ())
  have closed : left.holds = storage.begin.2.holds.filter fun entry => entry.1 ≠ storage.fresh :=
    Script.run_holds (Script.all statements) (Script.all_ends statements) () storage.begin.2
  have holds : left.holds = storage.holds := closed.trans (begin_others fresh)
  have frame := Script.run_frame handler storage.fresh (Script.all statements) () storage.begin.2
  have given : left.fresh = storage.fresh + 1 := frame.2
  refine ⟨holds, frame.1, fun entry member => ?_⟩
  rw [holds] at member
  rw [given]
  exact Nat.lt_succ_of_lt (fresh entry member)

theorem perform_alike {before after : Storage} (fresh : before.Fresh) (freshToo : after.Fresh)
    (alike : before.Alike after) (statements : List Statement) :
    (before.perform (Script.all statements)).2.Alike (after.perform (Script.all statements)).2 := by
  have beside : Beside before.begin.2 before.fresh after.begin.2 after.fresh :=
    ⟨alike.committed, alike.version, alike.clock,
      (begin_others freshToo).trans (alike.holds.trans (begin_others fresh).symm)⟩
  have idle := held_begin_self fresh
  have idleToo := held_begin_self freshToo
  cases lock : before.begin.2.lockedFor before.fresh with
  | false =>
      have stands : before.begin.2.Stands before.fresh before.committed false := .idle idle
      have standsToo : after.begin.2.Stands after.fresh before.committed false :=
        alike.committed ▸ .idle idleToo
      exact beside.all lock stands standsToo (fun _ _ => (none, ())) () statements
  | true =>
      have kept := all_locked lock (by simp [idle]) (fun _ _ => (none, ())) () statements
      have keptToo := all_locked (beside.locked.trans lock) (by simp [idleToo])
        (fun _ _ => (none, ())) () statements
      obtain ⟨holds, clock, -⟩ := all_performed fresh statements
      obtain ⟨holdsToo, clockToo, -⟩ := all_performed freshToo statements
      constructor
      · exact keptToo.1.trans (alike.committed.trans kept.1.symm)
      · exact keptToo.2.trans (alike.version.trans kept.2.symm)
      · exact clockToo.trans (alike.clock.trans clock.symm)
      · exact holdsToo.trans (alike.holds.trans holds.symm)

theorem outward_setUp (topic : String) (statements : Except Failure (List Statement)) :
    Outward fun storage => (storage.setUp topic statements).2 := by
  cases statements with
  | error failure => exact ⟨fun _ fresh => fresh, fun _ _ _ _ alike => alike⟩
  | ok statements =>
      constructor
      · intro storage fresh
        rw [setUp_performed]
        exact (all_performed fresh statements).2.2
      · intro before after fresh freshToo alike
        rw [setUp_performed, setUp_performed]
        exact perform_alike fresh freshToo alike statements

end Storage

end TopicLog
