import TopicLog.Proofs.Claimants
import TopicLog.Proofs.Layouts
import TopicLog.Proofs.TopicState

/-!
What an open transaction that claimed knows of the committed cursors. Before it writes, it has a snapshot
in which its claim was read. With its first write it takes the lock, which it only gets if its snapshot
is the committed database; from then on nobody else can commit, and what it sees is the committed
database with its own writes in it.
-/
namespace TopicLog

/-- Where a transaction stands, by what it holds. -/
inductive Standing (namings : Namings) (topic : String) (committed : Database) :
    Option Hold → Claimant → Prop where
  | idle {claimant : Claimant} (unclaimed : claimant.claimed = none)
      (unwritten : claimant.upserts = []) : Standing namings topic committed (some .idle) claimant
  | reading {claimant : Claimant} {view : Database} {version : Nat} {rows : List CursorRow}
      (cursors : view.contents? (namings.cursorTable topic) = some (.cursors rows))
      (claimed : claimant.claimed = some (Cursors.bound claimant.group rows))
      (unwritten : claimant.upserts = []) :
      Standing namings topic committed (some (.reading view version)) claimant
  | writing {claimant : Claimant} {rows : List CursorRow}
      (cursors : committed.contents? (namings.cursorTable topic) = some (.cursors rows))
      (claimed : claimant.claimed = some (Cursors.bound claimant.group rows)) :
      Standing namings topic committed
        (some (.writing
          (committed.put (namings.cursorTable topic)
            (.cursors (Upsert.applyAll claimant.upserts rows)))
          (Upsert.alter claimant.upserts rows))) claimant

structure Guarded (namings : Namings) (topic : String) (claimants : Claimants) : Prop where
  consistent : claimants.storage.Consistent
  kept : namings.Kept topic claimants.storage.committed
  active : ∀ handle claimant, claimants.active handle = some claimant →
    handle < claimants.storage.fresh ∧ claimants.storage.Unprimed handle ∧
      Standing namings topic claimants.storage.committed (claimants.storage.held? handle) claimant
  others : ∀ handle view changed, claimants.active handle = none →
    claimants.storage.held? handle = some (.writing view changed) →
    namings.Keeps topic claimants.storage.committed view

variable {namings : Namings} {topic : String}

/-! One step of the transaction of a handle. -/

section Steps

variable {claimants after : Claimants} {handle : Handle} {claimant : Claimant}

theorem Guarded.occupied (guarded : Guarded namings topic claimants) :
    Storage.Occupied (Standing namings topic) (namings.Keeps topic) claimants.active
      claimants.storage :=
  ⟨guarded.consistent, guarded.active, guarded.others⟩

theorem Guarded.stay (guarded : Guarded namings topic claimants)
    (consistent : after.storage.Consistent)
    (elsewhere : Storage.Elsewhere handle claimants.storage after.storage)
    (committed : after.storage.committed = claimants.storage.committed)
    (rest : ∀ other, other ≠ handle → after.active other = claimants.active other)
    (own : ∀ claimant, after.active handle = some claimant →
      handle < after.storage.fresh ∧ after.storage.Unprimed handle ∧
        Standing namings topic claimants.storage.committed (after.storage.held? handle) claimant)
    (side : after.active handle = none → ∀ view changed,
      after.storage.held? handle = some (.writing view changed) →
      namings.Keeps topic claimants.storage.committed view) :
    Guarded namings topic after := by
  have occupied := guarded.occupied.stay consistent elsewhere committed rest own side
  exact ⟨consistent, committed ▸ guarded.kept, occupied.working, occupied.others⟩

/-- A snapshot stays what it was, whatever is committed after it was taken. -/
theorem Standing.regardless {committed other : Database} {hold : Option Hold}
    (unlocked : ∀ view changed, hold ≠ some (.writing view changed))
    (standing : Standing namings topic committed hold claimant) :
    Standing namings topic other hold claimant := by
  cases standing with
  | idle unclaimed unwritten => exact .idle unclaimed unwritten
  | reading cursors claimed unwritten => exact .reading cursors claimed unwritten
  | writing => exact absurd rfl (unlocked _ _)

theorem Guarded.renew {view : Database} (guarded : Guarded namings topic claimants)
    (held : claimants.storage.held? handle = some (.writing view true))
    (storage : after.storage = claimants.storage.commit handle)
    (rest : ∀ other, other ≠ handle → after.active other = claimants.active other)
    (ended : after.active handle = none) (kept : namings.Kept topic view) :
    Guarded namings topic after := by
  have newest : after.storage.committed = view := storage ▸ (Storage.commit_written held).1
  have occupied := guarded.occupied.renew held rest
    (fun claimant found => by cases ended.symm.trans found) Standing.regardless
  rw [← storage] at occupied
  exact ⟨occupied.consistent, newest ▸ kept, occupied.working, occupied.others⟩

/-! Transactions from outside. -/

theorem Guarded.unused (guarded : Guarded namings topic claimants) :
    claimants.active claimants.storage.fresh = none := guarded.occupied.unused

theorem Guarded.begin (guarded : Guarded namings topic claimants) :
    Guarded namings topic (claimants.withStorage claimants.storage.begin.2) := by
  have fresh := guarded.consistent.fresh
  refine guarded.stay (Storage.consistent_begin guarded.consistent) (Storage.elsewhere_begin fresh)
    rfl (fun _ _ => rfl) ?_ ?_
  · intro claimant found
    cases guarded.unused.symm.trans found
  · intro _ view changed held
    cases (Storage.held_begin_self fresh).symm.trans held

theorem Guarded.execute (valid : isTopic topic = true) {action : Action}
    (guarded : Guarded namings topic claimants) (side : claimants.active handle = none)
    (allowed : namings.publishes topic action = true) :
    Guarded namings topic
      (claimants.withStorage (claimants.storage.execute handle (.run action)).2) := by
  refine guarded.stay (Storage.consistent_execute guarded.consistent)
    (Storage.elsewhere_execute handle (.run action) claimants.storage)
    (claimants.storage.execute_frame handle (.run action)).1 (fun _ _ => rfl) ?_ ?_
  · intro claimant found
    cases side.symm.trans found
  · intro _ view changed held
    refine Storage.execute_written guarded.consistent guarded.kept.keeps
      (fun before wrote => guarded.others handle before wrote side) ?_ held
    intro plan planned seen
    exact seen.trans ((Namings.plan_publishing valid allowed planned).keeps seen.kept)

theorem Guarded.close (guarded : Guarded namings topic claimants)
    (consistent : after.storage.Consistent)
    (elsewhere : Storage.Elsewhere handle claimants.storage after.storage)
    (committed : after.storage.committed = claimants.storage.committed)
    (rest : ∀ other, other ≠ handle → after.active other = claimants.active other)
    (ended : after.active handle = none) (closed : after.storage.held? handle = none) :
    Guarded namings topic after := by
  refine guarded.stay consistent elsewhere committed rest ?_ ?_
  · intro claimant found
    cases ended.symm.trans found
  · intro _ view changed held
    cases closed.symm.trans held

theorem Guarded.rollback (guarded : Guarded namings topic claimants)
    (storage : after.storage = claimants.storage.rollback handle)
    (rest : ∀ other, other ≠ handle → after.active other = claimants.active other)
    (ended : after.active handle = none) : Guarded namings topic after :=
  guarded.close (storage ▸ Storage.consistent_rollback guarded.consistent)
    (storage ▸ Storage.elsewhere_rollback handle claimants.storage)
    (storage ▸ (claimants.storage.rollback_frame handle).1) rest ended
    (storage ▸ claimants.storage.held_rollback_self handle)

theorem Guarded.commit (guarded : Guarded namings topic claimants)
    (storage : after.storage = claimants.storage.commit handle)
    (rest : ∀ other, other ≠ handle → after.active other = claimants.active other)
    (ended : after.active handle = none)
    (kept : ∀ view, claimants.storage.held? handle = some (.writing view true) →
      namings.Kept topic view) : Guarded namings topic after := by
  by_cases written : ∃ view, claimants.storage.held? handle = some (.writing view true)
  · obtain ⟨view, held⟩ := written
    exact guarded.renew held storage rest ended (kept view held)
  · have unwritten := Storage.commit_unwritten fun view held => written ⟨view, held⟩
    exact guarded.close (storage ▸ Storage.consistent_commit guarded.consistent)
      (storage ▸ Storage.elsewhere_commit handle claimants.storage) (storage ▸ unwritten.1) rest ended
      (storage ▸ claimants.storage.held_commit_self handle)

theorem Guarded.survives (valid : isTopic topic = true) (claimants : Claimants) :
    namings.Survives topic (fun handle => claimants.isOutside handle = true)
      fun storage => Guarded namings topic (claimants.withStorage storage) where
  begin storage guarded := by
    constructor
    · exact Option.isNone_iff_eq_none.mpr guarded.unused
    · exact guarded.begin
  execute storage handle action guarded outside allowed :=
    guarded.execute valid (Option.isNone_iff_eq_none.mp outside) allowed
  commit storage handle guarded outside := by
    have side : (claimants.withStorage storage).active handle = none :=
      Option.isNone_iff_eq_none.mp outside
    exact guarded.commit rfl (fun _ _ => rfl) side fun view held =>
      (guarded.others handle view true side held).kept
  rollback storage handle guarded outside :=
    guarded.rollback rfl (fun _ _ => rfl) (Option.isNone_iff_eq_none.mp outside)

/-! The statements of a claimant. -/

theorem Upsert.plan_of_cursors {view : Database} {rows : List CursorRow} {table : String}
    (upsert : Upsert) (cursors : view.contents? table = some (.cursors rows)) (now : Timestamp) :
    view.plan now (.run (upsert.action table)) =
      .ok (.write (view.put table (.cursors (upsert.apply rows))) 1 (upsert.apply rows ≠ rows)) := by
  cases upsert with
  | mark delivery group => exact Database.onCursors_of_cursors cursors
  | acknowledge delivery group => exact Database.onCursors_of_cursors cursors

theorem Upsert.plan_cursors {view : Database} {rows : List CursorRow} {now : Timestamp}
    {upsert : Upsert} {statement : Statement}
    (built : upsert.statement namings.cursorLayout topic = .ok statement)
    (cursors : view.contents? (namings.cursorTable topic) = some (.cursors rows)) :
    view.plan now (.run statement.action) =
      .ok (.write (view.put (namings.cursorTable topic) (.cursors (upsert.apply rows))) 1
        (upsert.apply rows ≠ rows)) := by
  rw [← ofTopic_built (upsert.statement_usual namings.names topic) built]
  exact upsert.plan_of_cursors cursors now

theorem Upsert.statement_plain {upsert : Upsert} {statement : Statement}
    (built : upsert.statement namings.cursorLayout topic = .ok statement) :
    (Command.run statement.action).makes = false := by
  rw [← ofTopic_built (upsert.statement_usual namings.names topic) built]
  cases upsert <;> rfl

def Claimant.noting (claimant : Claimant) (note : Effect → Claimant) :
    Except Fault Effect → Claimant
  | .ok effect => note effect
  | .error _ => claimant

theorem Claimant.noting_same (claimant : Claimant) (answer : Except Fault Effect) :
    claimant.noting (fun _ => claimant) answer = claimant := by cases answer <;> rfl

theorem Guarded.attempt {statement : Statement} {note : Effect → Claimant}
    (guarded : Guarded namings topic claimants) (found : claimants.active handle = some claimant)
    (plain : (Command.run statement.action).makes = false)
    (next : Standing namings topic claimants.storage.committed
      ((claimants.storage.execute handle (.run statement.action)).2.held? handle)
      (claimant.noting note (claimants.storage.execute handle (.run statement.action)).1)) :
    Guarded namings topic (claimants.attempt handle claimant (.ok statement) note) := by
  obtain ⟨given, unprimed, -⟩ := guarded.active handle claimant found
  have elsewhere := Storage.elsewhere_execute handle (.run statement.action) claimants.storage
  have own : (claimants.attempt handle claimant (.ok statement) note).active handle =
      some (claimant.noting note (claimants.storage.execute handle (.run statement.action)).1) := by
    simp only [Claimants.attempt, Claimants.set, if_pos]
    cases (claimants.storage.execute handle (.run statement.action)).1 <;> rfl
  refine guarded.stay (Storage.consistent_execute guarded.consistent) elsewhere
    (claimants.storage.execute_frame handle (.run statement.action)).1
    (fun other apart => if_neg apart) ?_ ?_
  · intro after same
    cases own.symm.trans same
    exact ⟨Nat.lt_of_lt_of_le given elsewhere.fresh, Storage.unprimed_execute unprimed plain, next⟩
  · intro missing
    cases own.symm.trans missing

end Steps

/-! What a statement makes of where a claimant stands. -/

section Standings

variable {storage : Storage} {handle : Handle} {claimant : Claimant} {hold : Hold}

theorem standing_claim (kept : namings.Kept topic storage.committed)
    (held : storage.held? handle = some .idle) (unprimed : storage.Unprimed handle)
    (unwritten : claimant.upserts = []) (unclaimed : claimant.claimed = none) :
    Standing namings topic storage.committed
      ((storage.execute handle (.run (.claim (namings.claim topic claimant.group)))).2.held? handle)
      (claimant.noting
        (fun effect => { claimant with claimed := (effect.rows.headD []).head? })
        (storage.execute handle (.run (.claim (namings.claim topic claimant.group)))).1) := by
  have own := Storage.hold_of_held held
  have sees : storage.view handle = storage.committed := by rw [Storage.view, own]
  have plain : (Command.run (.claim (namings.claim topic claimant.group))).makes = false := rfl
  rcases Storage.execute_held held unprimed plain with
    ⟨fault, failed, still⟩ | ⟨plan, planned, answer, ends⟩
  · rw [failed, still]
    exact .idle unclaimed unwritten
  · rw [sees, Database.plan, Database.planAction] at planned
    cases found : storage.committed.contents? (namings.cursorTable topic) with
    | none =>
        rw [Database.bound_of_missing (namings.claim topic claimant.group) found] at planned
        cases planned
    | some contents =>
        obtain ⟨rows, rfl⟩ := kept contents found
        rw [Database.bound_of_cursors (namings.claim topic claimant.group) found] at planned
        cases planned
        rcases ends with ⟨-, reads⟩ | ⟨writes, -⟩
        · rw [answer, reads, Storage.holdAfterRead, own]
          exact .reading found rfl unwritten
        · cases writes

theorem standing_select {table : String} {claim : Claim} {limit : Nat}
    (held : storage.held? handle = some hold) (unprimed : storage.Unprimed handle)
    (standing : Standing namings topic storage.committed (some hold) claimant)
    (claimed : claimant.claimed ≠ none) :
    Standing namings topic storage.committed
      ((storage.execute handle (.run (.fetch table claim limit))).2.held? handle) claimant := by
  have own := Storage.hold_of_held held
  have plain : (Command.run (.fetch table claim limit)).makes = false := rfl
  rcases Storage.execute_held held unprimed plain with
    ⟨fault, -, still⟩ | ⟨plan, planned, -, ends⟩
  · rw [still]
    exact standing
  · have reads : plan.writes = false := Database.fetch_unwritten planned
    rcases ends with ⟨-, after⟩ | ⟨writes, -⟩
    · rw [after, Storage.holdAfterRead, own]
      cases standing with
      | idle unclaimed => exact absurd unclaimed claimed
      | reading cursors claimed unwritten => exact .reading cursors claimed unwritten
      | writing cursors claimed => exact .writing cursors claimed
    · cases reads.symm.trans writes

theorem standing_write {upsert : Upsert} {statement : Statement} (consistent : storage.Consistent)
    (held : storage.held? handle = some hold)
    (unprimed : storage.Unprimed handle)
    (standing : Standing namings topic storage.committed (some hold) claimant)
    (claimed : claimant.claimed ≠ none)
    (built : upsert.statement namings.cursorLayout topic = .ok statement) :
    Standing namings topic storage.committed
      ((storage.execute handle (.run statement.action)).2.held? handle)
      (claimant.noting (fun _ => { claimant with upserts := claimant.upserts ++ [upsert] })
        (storage.execute handle (.run statement.action)).1) := by
  have own := Storage.hold_of_held held
  have plain := Upsert.statement_plain built
  rcases Storage.execute_held held unprimed plain with
    ⟨fault, failed, still⟩ | ⟨plan, planned, answer, ends⟩
  · rw [failed, still]
    exact standing
  · cases standing with
    | idle unclaimed => exact absurd unclaimed claimed
    | @reading _ view version rows cursors told unwritten =>
        rw [Storage.view, own, Upsert.plan_cursors built cursors] at planned
        cases planned
        rcases ends with ⟨reads, -⟩ | ⟨-, current, after⟩
        · cases reads
        -- The lock is given to no snapshot but that of the committed database.
        · cases Storage.view_current consistent held current
          rw [answer, after, Storage.holdAfterWrite, own]
          have first : Standing namings topic storage.committed _
              { claimant with upserts := claimant.upserts ++ [upsert] } := .writing cursors told
          simpa [unwritten, Upsert.applyAll, Upsert.alter, Storage.leaves, Plan.write, Storage.view,
            own, Claimant.noting] using first
    | @writing _ rows cursors told =>
        have written : (storage.committed.put (namings.cursorTable topic)
            (.cursors (Upsert.applyAll claimant.upserts rows))).contents?
              (namings.cursorTable topic) =
            some (.cursors (Upsert.applyAll claimant.upserts rows)) :=
          Database.contents_put_held _ cursors
        rw [Storage.view, own, Upsert.plan_cursors built written] at planned
        cases planned
        rcases ends with ⟨reads, -⟩ | ⟨-, -, after⟩
        · cases reads
        · rw [answer, after, Storage.holdAfterWrite, own]
          have more : Standing namings topic storage.committed _
              { claimant with upserts := claimant.upserts ++ [upsert] } := .writing cursors told
          simpa [Upsert.applyAll_snoc, Upsert.alter_snoc, Storage.leaves, Plan.write, Storage.view,
            own, Database.put_put, Claimant.noting] using more

end Standings

end TopicLog
