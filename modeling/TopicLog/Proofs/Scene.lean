import TopicLog.Proofs.Transactions

/-!
A storage as one transaction meets it: the committed database, whether the write lock is taken, and
what the transaction holds itself. The steps of a transaction that makes no tables depend on nothing
else, in particular not on handles or on what connections remember.
-/
namespace TopicLog

structure Scene where
  committed : Database
  version : Nat
  clock : Timestamp
  locked : Bool
  hold : Option Hold

namespace Scene

def view (scene : Scene) : Database :=
  match scene.hold.getD .idle with
  | .idle => scene.committed
  | .reading view _ => view
  | .writing view _ => view

def isOutdated (scene : Scene) : Bool :=
  match scene.hold.getD .idle with
  | .reading _ version => version ≠ scene.version
  | _ => false

def afterRead (scene : Scene) : Hold :=
  match scene.hold.getD .idle with
  | .idle => .reading scene.committed scene.version
  | hold => hold

def afterWrite (scene : Scene) (effect : Effect) : Hold :=
  match scene.hold.getD .idle with
  | .writing _ changed => .writing effect.after (changed || effect.changed)
  | _ => .writing effect.after effect.changed

def setHold (scene : Scene) (hold : Hold) : Scene :=
  { scene with hold := scene.hold.map fun _ => hold }

def execute (scene : Scene) (command : Command) : Except Fault Effect × Scene :=
  match scene.view.plan scene.clock command with
  | .error fault => (.error fault, scene)
  | .ok plan =>
      if plan.writes && scene.locked then (.error .locked, scene)
      else if plan.writes && scene.isOutdated then (.error .outdated, scene)
      else (plan.outcome, scene.setHold <|
        if plan.writes then scene.afterWrite (Storage.leaves scene.view plan) else scene.afterRead)

theorem execute_read {scene : Scene} {command : Command} {database : Database}
    {rows : List (List Value)}
    (planned : scene.view.plan scene.clock command = .ok (.read database rows)) :
    scene.execute command = (.ok { after := database, rows }, scene.setHold scene.afterRead) := by
  simp [execute, planned, Plan.read]

theorem execute_write {scene : Scene} {command : Command} {database : Database} {affected : Nat}
    {changed : Bool} (free : scene.locked = false) (current : scene.isOutdated = false)
    (planned : scene.view.plan scene.clock command = .ok (.write database affected changed)) :
    scene.execute command = (.ok { after := database, affected, changed },
      scene.setHold (scene.afterWrite { after := database, affected, changed })) := by
  simp [execute, planned, Plan.write, free, current, Storage.leaves]

def rollback (scene : Scene) : Scene := { scene with hold := none }

def commit (scene : Scene) : Scene :=
  match scene.hold.getD .idle with
  | .writing view true =>
      { scene with committed := view, version := scene.version + 1, hold := none }
  | _ => scene.rollback

end Scene

/-- Commands that may make a table or an index. -/
def Command.makes : Command → Bool
  | .run (.createLog _) | .run (.createCursors _) | .run (.createIndex _ _) => true
  | _ => false

namespace Connection

variable {connection : Connection} {command : Command}

theorem asksForLock_plain (blank : connection.creations = []) (plain : command.makes = false) :
    connection.asksForLock command = false := by
  cases command with
  | run action => cases action <;> simp_all [asksForLock, lacks, Command.makes]
  | _ => rfl

theorem note_plain (blank : connection.creations = []) (plain : command.makes = false)
    (wrote : Bool) : (connection.note command wrote).creations = [] := by
  cases command with
  | run action => cases action <;> simp_all [note, remember, Command.makes]
  | _ => exact blank

theorem lookUp_creations (now : Timestamp) (database : Database) :
    (connection.lookUp now command database).creations = connection.creations := by
  unfold lookUp
  split <;> rfl

end Connection

namespace Pool

variable {pool : Pool} {handle other : Handle}

theorem connection_take (committed : Database) (apart : other ≠ handle) :
    (pool.take handle committed).connection other = pool.connection other := by
  unfold take connection
  congr 1
  grind

theorem connection_update (change : Connection → Connection) :
    (pool.update handle change).connection other =
      if other = handle then ((pool.taken.lookup handle).map change).getD {}
      else pool.connection other := by
  unfold connection update
  rw [lookup_update]
  split <;> rfl

theorem connection_leave :
    (pool.leave handle).connection other =
      if other = handle then {} else pool.connection other := by
  unfold connection leave
  rw [lookup_remove]
  split <;> rfl

end Pool

namespace Storage

variable {storage : Storage} {handle other : Handle} {command : Command}

def scene (storage : Storage) (handle : Handle) : Scene where
  committed := storage.committed
  version := storage.version
  clock := storage.clock
  locked := storage.lockedFor handle
  hold := storage.held? handle

/-- The connection of a transaction remembers no creation. -/
def Unprimed (storage : Storage) (handle : Handle) : Prop :=
  (storage.pool.connection handle).creations = []

theorem unprimed_update {change : Connection → Connection} (unprimed : storage.Unprimed handle)
    (keeps : ∀ connection, connection.creations = [] → (change connection).creations = []) :
    ((storage.onConnection handle change).pool.connection handle).creations = [] := by
  rw [onConnection, Pool.connection_update, if_pos rfl]
  unfold Unprimed Pool.connection at unprimed
  cases taken : storage.pool.taken.lookup handle with
  | none => rfl
  | some connection =>
      rw [taken] at unprimed
      exact keeps connection unprimed

theorem execute_connection_other (apart : other ≠ handle) :
    (storage.execute handle command).2.pool.connection other =
      storage.pool.connection other := by
  unfold execute
  split
  · exact (Pool.connection_update _).trans (if_neg apart)
  · dsimp only
    repeat' split
    all_goals exact (Pool.connection_update _).trans (if_neg apart)

theorem unprimed_execute (unprimed : storage.Unprimed handle) (plain : command.makes = false) :
    (storage.execute handle command).2.Unprimed handle := by
  have look : ∀ connection : Connection, connection.creations = [] →
      (connection.lookUp storage.clock command (storage.view handle)).creations = [] := by
    intro connection blank
    rw [Connection.lookUp_creations, blank]
  unfold execute Unprimed
  split
  · exact unprimed_update unprimed fun _ blank => blank
  · dsimp only
    repeat' split
    · exact unprimed_update unprimed look
    · exact unprimed_update unprimed look
    all_goals
      apply unprimed_update (unprimed : (storage.setHold handle _).Unprimed handle)
      intro connection blank
      exact Connection.note_plain blank plain _

theorem rollback_connection :
    (storage.rollback handle).pool.connection other =
      if other = handle then {} else storage.pool.connection other := by
  unfold rollback
  split
  · apply Pool.connection_leave.trans
    by_cases mine : other = handle
    · simp [mine]
    · simp [mine, onConnection, Pool.connection_update]
  · exact Pool.connection_leave

theorem commit_connection :
    (storage.commit handle).pool.connection other =
      if other = handle then {} else storage.pool.connection other := by
  unfold commit
  split <;> exact Pool.connection_leave

theorem unprimed_rollback (storage : Storage) (handle : Handle) :
    (storage.rollback handle).Unprimed handle := by
  rw [Unprimed, rollback_connection, if_pos rfl]

theorem unprimed_commit (storage : Storage) (handle : Handle) :
    (storage.commit handle).Unprimed handle := by
  rw [Unprimed, commit_connection, if_pos rfl]

theorem unprimed_begin (storage : Storage) :
    storage.beginIsolated.2.Unprimed storage.beginIsolated.1 := by
  simp [Unprimed, beginIsolated, begin, onConnection, Pool.connection_update, Pool.take,
    Connection.forget]

theorem lockedFor_setHold (hold : Hold) :
    (storage.setHold handle hold).lockedFor handle = storage.lockedFor handle := by
  unfold lockedFor setHold
  rw [List.any_map]
  congr 1
  funext entry
  by_cases mine : entry.1 = handle <;> simp [mine]

theorem lockedFor_filter {after : Storage}
    (holds : after.holds = storage.holds.filter fun entry => entry.1 ≠ handle) :
    after.lockedFor handle = storage.lockedFor handle := by
  unfold lockedFor
  rw [holds, List.any_filter]
  congr 1
  funext entry
  by_cases mine : entry.1 = handle <;> simp [mine]

theorem execute_held {hold : Hold} (held : storage.held? handle = some hold)
    (unprimed : storage.Unprimed handle) (plain : command.makes = false) :
    (∃ fault, (storage.execute handle command).1 = .error fault ∧
      (storage.execute handle command).2.held? handle = some hold) ∨
    ∃ plan, (storage.view handle).plan storage.clock command = .ok plan ∧
      (storage.execute handle command).1 = plan.outcome ∧
      (plan.writes = false ∧
        (storage.execute handle command).2.held? handle = some (storage.holdAfterRead handle) ∨
      plan.writes = true ∧ storage.isOutdated handle = false ∧
        (storage.execute handle command).2.held? handle =
          some (storage.holdAfterWrite handle (leaves (storage.view handle) plan))) := by
  have quiet := Connection.asksForLock_plain unprimed plain
  have holding {after : Storage} {next : Hold}
      (holds : after.holds = (storage.setHold handle next).holds) :
      after.held? handle = some next := by
    have changed : (storage.setHold handle next).held? handle = some next := by
      rw [held_setHold, if_pos rfl, held]
      rfl
    rw [held?, holds]
    exact changed
  rcases storage.execute_cases handle command with
    ⟨fault, failed, holds⟩ | ⟨plan, planned, answer, ⟨lock, holds⟩ | ⟨lock, -, current, holds⟩⟩
  · refine .inl ⟨fault, failed, ?_⟩
    rw [held?, holds]
    exact held
  · refine .inr ⟨plan, planned, answer, .inl ⟨?_, holding holds⟩⟩
    simpa [takesLock, quiet] using lock
  · refine .inr ⟨plan, planned, answer, .inr ⟨?_, current, holding holds⟩⟩
    simpa [takesLock, quiet] using lock

theorem scene_setHold {after : Storage} {hold : Hold}
    (frame : after.committed = storage.committed ∧ after.version = storage.version ∧
      after.clock = storage.clock ∧ after.fresh = storage.fresh)
    (holds : after.holds = (storage.setHold handle hold).holds) :
    after.scene handle = (storage.scene handle).setHold hold := by
  have lock : after.lockedFor handle = storage.lockedFor handle := by
    have kept : (storage.setHold handle hold).lockedFor handle = _ := lockedFor_setHold hold
    rw [← kept, lockedFor, holds]
    rfl
  have held : after.held? handle = (storage.held? handle).map fun _ => hold := by
    rw [held?, holds]
    exact (held_setHold hold).trans (if_pos rfl)
  simp [scene, Scene.setHold, frame, lock, held]

/-- A statement goes in a storage as it goes in the scene of its transaction. -/
theorem execute_scene (unprimed : storage.Unprimed handle) (plain : command.makes = false) :
    (storage.execute handle command).1 = ((storage.scene handle).execute command).1 ∧
      (storage.execute handle command).2.scene handle =
        ((storage.scene handle).execute command).2 := by
  have quiet := Connection.asksForLock_plain unprimed plain
  have frame := storage.execute_frame handle command
  cases planned : (storage.view handle).plan storage.clock command with
  | error fault =>
      have inScene : (storage.scene handle).view.plan (storage.scene handle).clock command =
          .error fault := planned
      simp only [execute, planned, Scene.execute, inScene]
      exact ⟨trivial, rfl⟩
  | ok plan =>
      have inScene : (storage.scene handle).view.plan (storage.scene handle).clock command =
          .ok plan := planned
      have stays (hold : Hold)
          (holds : (storage.execute handle command).2.holds =
            (storage.setHold handle hold).holds) := scene_setHold frame holds
      cases writes : plan.writes with
      | false =>
          constructor
          · simp [execute, planned, Scene.execute, inScene, writes, quiet]
          · rw [stays (storage.holdAfterRead handle)
              (by simp [execute, planned, writes, quiet, onConnection])]
            simp only [Scene.execute, inScene, writes]
            rfl
      | true =>
          cases busy : storage.lockedFor handle with
          | true =>
              have locked : (storage.scene handle).locked = true := busy
              simp only [execute, planned, Scene.execute, inScene, writes, busy, locked]
              exact ⟨rfl, rfl⟩
          | false =>
              have free : (storage.scene handle).locked = false := busy
              cases old : storage.isOutdated handle with
              | true =>
                  have aged : (storage.scene handle).isOutdated = true := old
                  simp only [execute, planned, Scene.execute, inScene, writes, busy, free, old, aged]
                  exact ⟨rfl, rfl⟩
              | false =>
                  have current : (storage.scene handle).isOutdated = false := old
                  constructor
                  · simp [execute, planned, Scene.execute, inScene, writes, busy, free, old, current]
                  · rw [stays (storage.holdAfterWrite handle (leaves (storage.view handle) plan))
                      (by simp only [execute, planned, writes, busy, old]; rfl)]
                    simp only [Scene.execute, inScene, writes, free, current]
                    rfl

theorem rollback_scene :
    (storage.rollback handle).scene handle = (storage.scene handle).rollback := by
  have frame := storage.rollback_frame handle
  have lock := lockedFor_filter frame.2.2.2.2
  have held : (storage.rollback handle).held? handle = none :=
    storage.held_rollback_self handle
  simp [scene, Scene.rollback, frame, lock, held]

theorem commit_scene :
    (storage.commit handle).scene handle = (storage.scene handle).commit := by
  have frame := storage.commit_frame handle
  have lock := lockedFor_filter frame.2.2
  have held : (storage.commit handle).held? handle = none :=
    storage.held_commit_self handle
  by_cases written : ∃ view, storage.held? handle = some (.writing view true)
  · obtain ⟨view, writes⟩ := written
    have newest := commit_written writes
    simp [scene, Scene.commit, frame, lock, held, writes, newest]
  · have same := commit_unwritten fun view found => written ⟨view, found⟩
    have ends : (storage.scene handle).commit = (storage.scene handle).rollback := by
      unfold Scene.commit
      split
      · rename_i view inside
        exact absurd ⟨view, held_of_hold inside (by simp)⟩ written
      · rfl
    rw [ends]
    simp [scene, Scene.rollback, frame, lock, held, same]

/-! What a step of one transaction leaves to the others. -/

/-- Other transactions hold what they held, on the connections they had. -/
structure Elsewhere (handle : Handle) (before after : Storage) : Prop where
  held : ∀ other, other ≠ handle → after.held? other = before.held? other
  connection : ∀ other, other ≠ handle →
    after.pool.connection other = before.pool.connection other
  fresh : before.fresh ≤ after.fresh
  version : before.version ≤ after.version

theorem elsewhere_refl (handle : Handle) (storage : Storage) : Elsewhere handle storage storage :=
  ⟨fun _ _ => rfl, fun _ _ => rfl, Nat.le_refl _, Nat.le_refl _⟩

theorem elsewhere_begin (fresh : storage.Fresh) :
    Elsewhere storage.fresh storage storage.begin.2 where
  held _ apart := (held_begin fresh).trans (if_neg apart)
  connection _ apart := Pool.connection_take _ apart
  fresh := Nat.le_succ _
  version := Nat.le_refl _

theorem elsewhere_beginIsolated (fresh : storage.Fresh) :
    Elsewhere storage.fresh storage storage.beginIsolated.2 where
  held := (elsewhere_begin fresh).held
  connection other apart := by
    rw [← (elsewhere_begin fresh).connection other apart]
    exact (Pool.connection_update _).trans (if_neg apart)
  fresh := Nat.le_succ _
  version := Nat.le_refl _

theorem elsewhere_execute (handle : Handle) (command : Command) (storage : Storage) :
    Elsewhere handle storage (storage.execute handle command).2 := by
  obtain ⟨-, version, -, fresh⟩ := storage.execute_frame handle command
  exact ⟨fun _ apart => held_execute_other apart, fun _ apart => execute_connection_other apart,
    Nat.le_of_eq fresh.symm, Nat.le_of_eq version.symm⟩

theorem elsewhere_rollback (handle : Handle) (storage : Storage) :
    Elsewhere handle storage (storage.rollback handle) := by
  obtain ⟨-, version, -, fresh, -⟩ := storage.rollback_frame handle
  exact ⟨fun _ apart => held_rollback.trans (if_neg apart),
    fun _ apart => rollback_connection.trans (if_neg apart), Nat.le_of_eq fresh.symm,
    Nat.le_of_eq version.symm⟩

theorem elsewhere_commit (handle : Handle) (storage : Storage) :
    Elsewhere handle storage (storage.commit handle) where
  held _ apart := held_commit.trans (if_neg apart)
  connection _ apart := commit_connection.trans (if_neg apart)
  fresh := Nat.le_of_eq (storage.commit_frame handle).2.1.symm
  version := by
    by_cases written : ∃ view, storage.held? handle = some (.writing view true)
    · obtain ⟨view, held⟩ := written
      have next := (commit_written held).2
      omega
    · have same := (commit_unwritten fun view held => written ⟨view, held⟩).2
      omega

/-! Transactions that somebody works on, and all others. -/

/-- Whatever is worked on is a transaction that stands as its work says, given what is committed and what
it holds. What the others wrote is related to what is committed. -/
structure Occupied {α : Type} (stands : Database → Option Hold → α → Prop)
    (related : Database → Database → Prop) (work : Handle → Option α) (storage : Storage) : Prop where
  consistent : storage.Consistent
  working : ∀ handle item, work handle = some item →
    handle < storage.fresh ∧ storage.Unprimed handle ∧
      stands storage.committed (storage.held? handle) item
  others : ∀ handle view changed, work handle = none →
    storage.held? handle = some (.writing view changed) → related storage.committed view

namespace Occupied

variable {α : Type} {stands : Database → Option Hold → α → Prop}
  {related : Database → Database → Prop} {work next : Handle → Option α} {before after : Storage}

theorem unused (occupied : Occupied stands related work before) : work before.fresh = none := by
  cases found : work before.fresh with
  | none => rfl
  | some item => exact absurd (occupied.working _ item found).1 (Nat.lt_irrefl _)

/-- A step of one transaction that leaves the committed database alone. -/
theorem stay (occupied : Occupied stands related work before) (consistent : after.Consistent)
    (elsewhere : Elsewhere handle before after) (committed : after.committed = before.committed)
    (rest : ∀ other, other ≠ handle → next other = work other)
    (own : ∀ item, next handle = some item →
      handle < after.fresh ∧ after.Unprimed handle ∧
        stands before.committed (after.held? handle) item)
    (side : next handle = none → ∀ view changed,
      after.held? handle = some (.writing view changed) → related before.committed view) :
    Occupied stands related next after where
  consistent := consistent
  working other item found := by
    rw [committed]
    by_cases mine : other = handle
    · subst mine
      exact own item found
    · rw [rest other mine] at found
      obtain ⟨given, unprimed, standing⟩ := occupied.working other item found
      refine ⟨Nat.lt_of_lt_of_le given elsewhere.fresh, ?_, ?_⟩
      · rw [Unprimed, elsewhere.connection other mine]
        exact unprimed
      · rw [elsewhere.held other mine]
        exact standing
  others other view changed found held := by
    rw [committed]
    by_cases mine : other = handle
    · subst mine
      exact side found view changed held
    · rw [rest other mine] at found
      rw [elsewhere.held other mine] at held
      exact occupied.others other view changed found held

/-- The commit of a transaction that wrote something. Nobody else holds the write lock then, so nobody
else stands by what was committed before. -/
theorem renew {view : Database} (occupied : Occupied stands related work before)
    (held : before.held? handle = some (.writing view true))
    (rest : ∀ other, other ≠ handle → next other = work other)
    (own : ∀ item, next handle = some item → handle < before.fresh ∧ stands view none item)
    (regardless : ∀ {hold : Option Hold} {item : α},
      (∀ seen changed, hold ≠ some (.writing seen changed)) →
        stands before.committed hold item → stands view hold item) :
    Occupied stands related next (before.commit handle) := by
  have newest : (before.commit handle).committed = view := (commit_written held).1
  have elsewhere := elsewhere_commit handle before
  have free {other : Handle} (apart : other ≠ handle) (seen : Database) (changed : Bool) :
      before.held? other ≠ some (.writing seen changed) := by
    intro writes
    exact apart (occupied.consistent.single other handle _ _ writes held rfl rfl)
  refine ⟨consistent_commit occupied.consistent, ?_, ?_⟩
  · intro other item found
    rw [newest]
    by_cases mine : other = handle
    · subst mine
      obtain ⟨given, standing⟩ := own item found
      refine ⟨Nat.lt_of_lt_of_le given elsewhere.fresh, unprimed_commit _ _, ?_⟩
      rw [held_commit_self]
      exact standing
    · rw [rest other mine] at found
      obtain ⟨given, unprimed, standing⟩ := occupied.working other item found
      refine ⟨Nat.lt_of_lt_of_le given elsewhere.fresh, ?_, ?_⟩
      · rw [Unprimed, elsewhere.connection other mine]
        exact unprimed
      · rw [elsewhere.held other mine]
        exact regardless (free mine) standing
  · intro other seen changed found writes
    by_cases mine : other = handle
    · subst mine
      rw [held_commit_self] at writes
      cases writes
    · rw [elsewhere.held other mine] at writes
      exact absurd writes (free mine seen changed)

end Occupied

end Storage
end TopicLog
