import TopicLog.Storage

/-!
What the steps of one transaction do to it, to the others and to the committed database. A statement
touches nothing but what its own transaction holds; only a commit changes the committed database.
-/
namespace TopicLog

section Entries

variable {β : Type} (entries : List (Handle × β)) (handle other : Handle)

theorem lookup_update (change : β → β) :
    (entries.map fun entry =>
      if entry.1 = handle then (handle, change entry.2) else entry).lookup other =
      if other = handle then (entries.lookup handle).map change else entries.lookup other := by
  induction entries with
  | nil => simp
  | cons entry rest ih =>
      by_cases mine : entry.1 = handle <;> by_cases asked : other = handle <;>
        grind

theorem lookup_remove :
    (entries.filter fun entry => entry.1 ≠ handle).lookup other =
      if other = handle then none else entries.lookup other := by
  induction entries with
  | nil => simp
  | cons entry rest ih =>
      by_cases mine : entry.1 = handle <;> by_cases asked : other = handle <;>
        grind

theorem lookup_snoc (value : β) (fresh : ∀ entry ∈ entries, entry.1 ≠ handle) :
    (entries ++ [(handle, value)]).lookup other =
      if other = handle then some value else entries.lookup other := by
  induction entries with
  | nil => by_cases asked : other = handle <;> grind
  | cons entry rest ih =>
      have first := fresh entry List.mem_cons_self
      have later := ih fun old member => fresh old (List.mem_cons_of_mem entry member)
      by_cases mine : other = entry.1 <;> by_cases asked : other = handle <;> grind

end Entries

namespace Storage

variable {storage : Storage} {handle other : Handle} {command : Command}

/-- What an open transaction holds; nothing is known of one that has ended. -/
def held? (storage : Storage) (handle : Handle) : Option Hold := storage.holds.lookup handle

theorem hold_eq : storage.hold handle = (storage.held? handle).getD .idle := rfl

theorem hold_of_held {hold : Hold} (held : storage.held? handle = some hold) :
    storage.hold handle = hold := by
  rw [hold_eq, held]
  rfl

theorem held_of_hold {hold : Hold} (same : storage.hold handle = hold) (started : hold ≠ .idle) :
    storage.held? handle = some hold := by
  rw [hold_eq] at same
  cases found : storage.held? handle with
  | none => exact absurd (by simpa [found] using same.symm) started
  | some inside => exact congrArg some (by simpa [found] using same)

/-- Handles that were not given out yet name no transaction. -/
def Fresh (storage : Storage) : Prop := ∀ entry ∈ storage.holds, entry.1 < storage.fresh

theorem fresh_of_closed (closed : storage.holds = []) : storage.Fresh := by
  intro entry member
  rw [closed] at member
  cases member

/-! Begin. -/

theorem held_begin (fresh : storage.Fresh) :
    storage.begin.2.held? other =
      if other = storage.fresh then some .idle else storage.held? other :=
  lookup_snoc _ _ _ _ fun entry member => Nat.ne_of_lt (fresh entry member)

theorem held_begin_self (fresh : storage.Fresh) :
    storage.begin.2.held? storage.fresh = some .idle := (held_begin fresh).trans (if_pos rfl)

theorem fresh_begin (fresh : storage.Fresh) : storage.begin.2.Fresh := by
  intro entry member
  change entry.1 < storage.fresh + 1
  rcases List.mem_append.mp member with old | new
  · exact Nat.lt_succ_of_lt (fresh entry old)
  · simp [List.mem_singleton.mp new]

/-! One statement. -/

theorem held_setHold (hold : Hold) :
    (storage.setHold handle hold).held? other =
      if other = handle then (storage.held? handle).map fun _ => hold else storage.held? other :=
  lookup_update _ _ _ fun _ => hold

theorem fresh_setHold (fresh : storage.Fresh) (hold : Hold) :
    (storage.setHold handle hold).Fresh := by
  intro entry member
  obtain ⟨old, inside, rfl⟩ := List.mem_map.mp member
  have bound := fresh old inside
  change _ < storage.fresh
  split
  · rename_i same
    exact same ▸ bound
  · exact bound

def leaves (view : Database) (plan : Plan) : Effect :=
  match plan.outcome with
  | .ok effect => effect
  | .error _ => { after := view }

def takesLock (storage : Storage) (handle : Handle) (command : Command) (plan : Plan) : Bool :=
  plan.writes || (storage.pool.connection handle).asksForLock command

/-- How a statement of a transaction may go. One that fails for a name or for the lock leaves what its
transaction holds; one that runs with the lock had it, or could take it. -/
theorem execute_cases (storage : Storage) (handle : Handle) (command : Command) :
    (∃ fault, (storage.execute handle command).1 = .error fault ∧
      (storage.execute handle command).2.holds = storage.holds) ∨
    ∃ plan, (storage.view handle).plan storage.clock command = .ok plan ∧
      (storage.execute handle command).1 = plan.outcome ∧
      (storage.takesLock handle command plan = false ∧
        (storage.execute handle command).2.holds =
          (storage.setHold handle (storage.holdAfterRead handle)).holds ∨
      storage.takesLock handle command plan = true ∧ storage.lockedFor handle = false ∧
        storage.isOutdated handle = false ∧
        (storage.execute handle command).2.holds =
          (storage.setHold handle
            (storage.holdAfterWrite handle (leaves (storage.view handle) plan))).holds) := by
  cases planned : (storage.view handle).plan storage.clock command with
  | error fault => exact .inl ⟨fault, by simp [execute, planned], by simp [execute, planned]; rfl⟩
  | ok plan =>
      cases lock : storage.takesLock handle command plan with
      | false =>
          have unlocked := lock
          simp only [takesLock] at unlocked
          refine .inr ⟨plan, rfl, ?_, .inl ⟨lock, ?_⟩⟩ <;>
            simp [execute, planned, unlocked, onConnection]
      | true =>
          have wanted := lock
          simp only [takesLock] at wanted
          cases busy : storage.lockedFor handle with
          | true => exact .inl ⟨.locked, by simp [execute, planned, wanted, busy, refuse],
              by simp [execute, planned, wanted, busy, refuse, onConnection]⟩
          | false =>
              cases old : storage.isOutdated handle with
              | true => exact .inl ⟨.outdated,
                  by simp [execute, planned, wanted, busy, old, refuse],
                  by simp [execute, planned, wanted, busy, old, refuse, onConnection]⟩
              | false =>
                  refine .inr ⟨plan, rfl, ?_, .inr ⟨lock, rfl, rfl, ?_⟩⟩
                  · simp [execute, planned, wanted, busy, old]
                  · simp only [execute, planned, wanted, busy, old]
                    rfl

theorem execute_frame (storage : Storage) (handle : Handle) (command : Command) :
    (storage.execute handle command).2.committed = storage.committed ∧
      (storage.execute handle command).2.version = storage.version ∧
      (storage.execute handle command).2.clock = storage.clock ∧
      (storage.execute handle command).2.fresh = storage.fresh := by
  unfold execute
  split
  · exact ⟨rfl, rfl, rfl, rfl⟩
  · dsimp only
    repeat' split
    all_goals exact ⟨rfl, rfl, rfl, rfl⟩

theorem held_execute_other (apart : other ≠ handle) :
    (storage.execute handle command).2.held? other = storage.held? other := by
  rcases storage.execute_cases handle command with
    ⟨fault, -, holds⟩ | ⟨plan, -, -, ⟨-, holds⟩ | ⟨-, -, -, holds⟩⟩
  · simp only [held?, holds]
  all_goals
    rw [held?, holds]
    exact (held_setHold _).trans (if_neg apart)

theorem fresh_execute (fresh : storage.Fresh) : (storage.execute handle command).2.Fresh := by
  have next := (storage.execute_frame handle command).2.2.2
  rcases storage.execute_cases handle command with
    ⟨fault, -, holds⟩ | ⟨plan, -, -, ⟨-, holds⟩ | ⟨-, -, -, holds⟩⟩
  · simpa only [Fresh, next, holds] using fresh
  all_goals
    simp only [Fresh, next, holds]
    exact fresh_setHold fresh _

theorem setHold_others (storage : Storage) (handle : Handle) (hold : Hold) :
    ((storage.setHold handle hold).holds.filter fun entry => entry.1 ≠ handle) =
      storage.holds.filter fun entry => entry.1 ≠ handle := by
  unfold setHold
  dsimp only
  induction storage.holds with
  | nil => rfl
  | cons entry rest ih =>
      by_cases mine : entry.1 = handle
      · simpa [mine] using ih
      · simpa [mine] using ih

theorem execute_others (storage : Storage) (handle : Handle) (command : Command) :
    ((storage.execute handle command).2.holds.filter fun entry => entry.1 ≠ handle) =
      storage.holds.filter fun entry => entry.1 ≠ handle := by
  rcases storage.execute_cases handle command with
    ⟨fault, -, holds⟩ | ⟨plan, -, -, ⟨-, holds⟩ | ⟨-, -, -, holds⟩⟩
  · rw [holds]
  all_goals
    rw [holds]
    exact setHold_others storage handle _

/-! The end of a transaction. -/

theorem held_close :
    (storage.close handle).held? other =
      if other = handle then none else storage.held? other :=
  lookup_remove _ _ _

theorem held_rollback :
    (storage.rollback handle).held? other =
      if other = handle then none else storage.held? other := by
  unfold rollback
  split <;> exact held_close

theorem held_commit :
    (storage.commit handle).held? other =
      if other = handle then none else storage.held? other := by
  unfold commit
  split <;> exact held_close

theorem held_rollback_self (storage : Storage) (handle : Handle) :
    (storage.rollback handle).held? handle = none := held_rollback.trans (if_pos rfl)

theorem held_commit_self (storage : Storage) (handle : Handle) :
    (storage.commit handle).held? handle = none := held_commit.trans (if_pos rfl)

theorem rollback_frame (storage : Storage) (handle : Handle) :
    (storage.rollback handle).committed = storage.committed ∧
      (storage.rollback handle).version = storage.version ∧
      (storage.rollback handle).clock = storage.clock ∧
      (storage.rollback handle).fresh = storage.fresh ∧
      (storage.rollback handle).holds =
        storage.holds.filter fun entry => entry.1 ≠ handle := by
  unfold rollback
  split <;> exact ⟨rfl, rfl, rfl, rfl, rfl⟩

theorem commit_frame (storage : Storage) (handle : Handle) :
    (storage.commit handle).clock = storage.clock ∧
      (storage.commit handle).fresh = storage.fresh ∧
      (storage.commit handle).holds =
        storage.holds.filter fun entry => entry.1 ≠ handle := by
  unfold commit
  split <;> exact ⟨rfl, rfl, rfl⟩

theorem commit_written {view : Database} (held : storage.held? handle = some (.writing view true)) :
    (storage.commit handle).committed = view ∧
      (storage.commit handle).version = storage.version + 1 := by
  simp [commit, hold_of_held held]

theorem commit_unwritten (held : ∀ view, storage.held? handle ≠ some (.writing view true)) :
    (storage.commit handle).committed = storage.committed ∧
      (storage.commit handle).version = storage.version := by
  unfold commit
  split
  · rename_i view hold
    rw [hold_eq] at hold
    cases found : storage.held? handle with
    | none => simp [found] at hold
    | some inside =>
        have same : inside = .writing view true := by simpa [found] using hold
        exact absurd (same ▸ found) (held view)
  · exact ⟨rfl, rfl⟩

theorem fresh_filter {after : Storage} (fresh : storage.Fresh) (next : after.fresh = storage.fresh)
    (holds : after.holds = storage.holds.filter fun entry => entry.1 ≠ handle) : after.Fresh := by
  intro entry member
  rw [holds] at member
  exact next ▸ fresh entry (List.mem_filter.mp member).1

theorem fresh_rollback (fresh : storage.Fresh) : (storage.rollback handle).Fresh :=
  fresh_filter fresh (storage.rollback_frame handle).2.2.2.1 (storage.rollback_frame handle).2.2.2.2

theorem fresh_commit (fresh : storage.Fresh) : (storage.commit handle).Fresh :=
  fresh_filter fresh (storage.commit_frame handle).2.1 (storage.commit_frame handle).2.2

/-! Snapshots and the write lock. -/

/-- What holds between steps whatever the transactions do: a snapshot that is not older than the last
commit is the committed database, and the write lock is held at most once. -/
structure Consistent (storage : Storage) : Prop where
  fresh : storage.Fresh
  snapshot : ∀ handle view version, storage.held? handle = some (.reading view version) →
    version ≤ storage.version ∧ (version = storage.version → view = storage.committed)
  single : ∀ handle other hold others, storage.held? handle = some hold →
    storage.held? other = some others → isWriting hold → isWriting others → handle = other

theorem consistent_of_closed (closed : storage.holds = []) : storage.Consistent := by
  have ended : ∀ handle, storage.held? handle = none := by
    intro handle
    rw [held?, closed]
    rfl
  refine ⟨fresh_of_closed closed, ?_, ?_⟩
  · intro handle view version held
    cases (ended handle).symm.trans held
  · intro handle other hold others held
    cases (ended handle).symm.trans held

theorem lockedFor_false (free : storage.lockedFor handle = false) {hold : Hold}
    (apart : other ≠ handle) (held : storage.held? other = some hold) : isWriting hold = false := by
  obtain ⟨before, after, whole, -⟩ := List.lookup_eq_some_iff.mp held
  have member : (other, hold) ∈ storage.holds := whole ▸ by simp
  have each := List.any_eq_false.mp free (other, hold) member
  simpa [apart] using each

theorem consistent_begin (consistent : storage.Consistent) : storage.begin.2.Consistent where
  fresh := fresh_begin consistent.fresh
  snapshot handle view version held := by
    rw [held_begin consistent.fresh] at held
    split at held
    · simp at held
    · exact consistent.snapshot handle view version held
  single handle other hold others held heldOther writing writingOther := by
    rw [held_begin consistent.fresh] at held heldOther
    split at held
    · cases held
      simp [isWriting] at writing
    · split at heldOther
      · cases heldOther
        simp [isWriting] at writingOther
      · exact consistent.single handle other hold others held heldOther writing writingOther

theorem consistent_setHold {after : Storage} {hold : Hold} (consistent : storage.Consistent)
    (fresh : after.Fresh)
    (frame : after.committed = storage.committed ∧ after.version = storage.version)
    (holds : after.holds = (storage.setHold handle hold).holds)
    (snapshot : ∀ view version, hold = .reading view version →
      version ≤ storage.version ∧ (version = storage.version → view = storage.committed))
    (lock : isWriting hold → ∀ other, other ≠ handle → ∀ others,
      storage.held? other = some others → isWriting others = false) : after.Consistent := by
  have held (other : Handle) : after.held? other =
      if other = handle then (storage.held? handle).map fun _ => hold
      else storage.held? other := by
    rw [held?, holds]
    exact held_setHold hold
  refine ⟨fresh, ?_, ?_⟩
  · intro other view version found
    rw [held] at found
    rw [frame.1, frame.2]
    split at found
    · obtain ⟨_, -, same⟩ := Option.map_eq_some_iff.mp found
      exact snapshot view version same
    · exact consistent.snapshot other view version found
  · intro first second firstHold secondHold firstHeld secondHeld firstWrites secondWrites
    rw [held] at firstHeld secondHeld
    split at firstHeld <;> split at secondHeld
    · rename_i one two
      exact one.trans two.symm
    · rename_i one two
      obtain ⟨_, -, rfl⟩ := Option.map_eq_some_iff.mp firstHeld
      simp [lock firstWrites second two secondHold secondHeld] at secondWrites
    · rename_i one two
      obtain ⟨_, -, rfl⟩ := Option.map_eq_some_iff.mp secondHeld
      simp [lock secondWrites first one firstHold firstHeld] at firstWrites
    · exact consistent.single first second firstHold secondHold firstHeld secondHeld firstWrites
        secondWrites

theorem consistent_execute (consistent : storage.Consistent) :
    (storage.execute handle command).2.Consistent := by
  have frame := storage.execute_frame handle command
  have fresh : (storage.execute handle command).2.Fresh := fresh_execute consistent.fresh
  rcases storage.execute_cases handle command with
    ⟨fault, -, holds⟩ | ⟨plan, -, -, ⟨-, holds⟩ | ⟨-, free, current, holds⟩⟩
  · refine ⟨fresh, ?_, ?_⟩
    · simpa only [held?, holds, frame] using consistent.snapshot
    · simpa only [held?, holds] using consistent.single
  · apply consistent_setHold consistent fresh ⟨frame.1, frame.2.1⟩ holds
    · intro view version same
      unfold holdAfterRead at same
      split at same
      · cases same
        exact ⟨Nat.le_refl _, fun _ => rfl⟩
      · exact consistent.snapshot handle view version (held_of_hold same (by simp))
    · intro writing other apart others held
      unfold holdAfterRead at writing
      split at writing
      · simp [isWriting] at writing
      · rename_i notIdle
        have own : storage.held? handle = some (storage.hold handle) := held_of_hold rfl notIdle
        rw [Bool.eq_false_iff]
        intro writes
        apply apart
        exact (consistent.single handle other _ others own held writing writes).symm
  · apply consistent_setHold consistent fresh ⟨frame.1, frame.2.1⟩ holds
    · intro view version same
      unfold holdAfterWrite at same
      split at same <;> cases same
    · intro _ other apart others held
      exact lockedFor_false free apart held

theorem consistent_rollback (consistent : storage.Consistent) :
    (storage.rollback handle).Consistent := by
  have frame := storage.rollback_frame handle
  refine ⟨fresh_rollback consistent.fresh, ?_, ?_⟩
  · intro other view version held
    rw [held_rollback] at held
    rw [frame.1, frame.2.1]
    split at held
    · cases held
    · exact consistent.snapshot other view version held
  · intro first second firstHold secondHold firstHeld secondHeld
    rw [held_rollback] at firstHeld secondHeld
    split at firstHeld
    · cases firstHeld
    · split at secondHeld
      · cases secondHeld
      · exact consistent.single first second firstHold secondHold firstHeld secondHeld

theorem consistent_commit (consistent : storage.Consistent) :
    (storage.commit handle).Consistent := by
  refine ⟨fresh_commit consistent.fresh, ?_, ?_⟩
  · intro other view version held
    rw [held_commit] at held
    split at held
    · cases held
    · have known := consistent.snapshot other view version held
      by_cases written : ∃ newest, storage.held? handle = some (.writing newest true)
      · obtain ⟨newest, writes⟩ := written
        have next := (commit_written writes).2
        exact ⟨by omega, by omega⟩
      · have same := commit_unwritten fun view found => written ⟨view, found⟩
        rw [same.1, same.2]
        exact known
  · intro first second firstHold secondHold firstHeld secondHeld
    rw [held_commit] at firstHeld secondHeld
    split at firstHeld
    · cases firstHeld
    · split at secondHeld
      · cases secondHeld
      · exact consistent.single first second firstHold secondHold firstHeld secondHeld

/-! What a transaction wrote, against the committed database. -/

theorem holdAfterWrite_writing (storage : Storage) (handle : Handle) (effect : Effect) :
    ∃ changed, storage.holdAfterWrite handle effect = .writing effect.after changed ∧
      (effect.changed = true → changed = true) := by
  unfold holdAfterWrite
  split
  · exact ⟨_, rfl, by simp_all⟩
  · exact ⟨_, rfl, fun wrote => wrote⟩

theorem view_current {view : Database} {version : Nat} (consistent : storage.Consistent)
    (held : storage.held? handle = some (.reading view version))
    (current : storage.isOutdated handle = false) : view = storage.committed := by
  have own := hold_of_held held
  have newest : version = storage.version := by simpa [isOutdated, own] using current
  exact (consistent.snapshot handle view version held).2 newest

section Written

variable {property : Database → Prop} (consistent : storage.Consistent)
  (committed : property storage.committed)
  (written : ∀ view changed, storage.held? handle = some (.writing view changed) → property view)
include consistent committed written

/-- What a transaction sees is the committed database or what it wrote, or it may not write any more. -/
theorem view_written (current : storage.isOutdated handle = false) :
    property (storage.view handle) := by
  cases held : storage.held? handle with
  | none =>
      have sees : storage.view handle = storage.committed := by
        rw [view, hold_eq, held]
        rfl
      exact sees ▸ committed
  | some hold =>
      have own := hold_of_held held
      cases hold with
      | idle =>
          rw [view, own]
          exact committed
      | reading snapshot version =>
          rw [view, own]
          have same := view_current consistent held current
          exact same ▸ committed
      | writing snapshot changed =>
          rw [view, own]
          exact written snapshot changed held

/-- What a transaction wrote keeps a property that its next statement keeps. -/
theorem execute_written
    (keeps : ∀ plan, (storage.view handle).plan storage.clock command = .ok plan →
      property (storage.view handle) → property (leaves (storage.view handle) plan).after)
    {view : Database} {changed : Bool}
    (held : (storage.execute handle command).2.held? handle = some (.writing view changed)) :
    property view := by
  -- Whatever the statement does to what the transaction holds, it held something before.
  have holding {hold : Hold}
      (holds : (storage.execute handle command).2.holds = (storage.setHold handle hold).holds) :
      hold = .writing view changed := by
    rw [held?, holds] at held
    obtain ⟨before, found, same⟩ :=
      Option.map_eq_some_iff.mp (((held_setHold hold).trans (if_pos rfl)).symm.trans held)
    exact same
  rcases storage.execute_cases handle command with
    ⟨fault, -, holds⟩ | ⟨plan, planned, -, ⟨-, holds⟩ | ⟨-, -, current, holds⟩⟩
  · rw [held?, holds] at held
    exact written view changed held
  · have kept := holding holds
    unfold holdAfterRead at kept
    split at kept
    · cases kept
    · exact written view changed (held_of_hold kept (by simp))
  · obtain ⟨_, writing, -⟩ := holdAfterWrite_writing storage handle
      (leaves (storage.view handle) plan)
    cases writing.symm.trans (holding holds)
    exact keeps plan planned (view_written consistent committed written current)

end Written

end Storage

/-! Properties of all databases that a storage knows. -/

def Hold.Shows (property : Database → Prop) : Hold → Prop
  | .idle => True
  | .reading view _ => property view
  | .writing view _ => property view

namespace Storage

/-- The committed database has a property, and so has what open transactions see. -/
structure Everywhere (property : Database → Prop) (storage : Storage) : Prop where
  committed : property storage.committed
  held : ∀ entry ∈ storage.holds, entry.2.Shows property

namespace Everywhere

variable {property : Database → Prop} {storage : Storage} {handle : Handle} {command : Command}

theorem hold (everywhere : storage.Everywhere property) (handle : Handle) :
    (storage.hold handle).Shows property := by
  rw [hold_eq]
  cases found : storage.held? handle with
  | none => trivial
  | some hold =>
      obtain ⟨before, after, whole, -⟩ := List.lookup_eq_some_iff.mp found
      exact everywhere.held (handle, hold) (whole ▸ by simp)

theorem view (everywhere : storage.Everywhere property) (handle : Handle) :
    property (storage.view handle) := by
  have inside := everywhere.hold handle
  unfold Storage.view
  split
  · exact everywhere.committed
  all_goals
    rename_i same
    rw [same] at inside
    exact inside

theorem begin (everywhere : storage.Everywhere property) :
    storage.begin.2.Everywhere property where
  committed := everywhere.committed
  held entry member := by
    rcases List.mem_append.mp member with old | new
    · exact everywhere.held entry old
    · rw [List.mem_singleton.mp new]
      trivial

theorem setHold {after : Storage} {hold : Hold} (everywhere : storage.Everywhere property)
    (kept : after.committed = storage.committed) (new : hold.Shows property)
    (holds : after.holds = (storage.setHold handle hold).holds) : after.Everywhere property where
  committed := kept ▸ everywhere.committed
  held entry member := by
    rw [holds] at member
    obtain ⟨old, inside, rfl⟩ := List.mem_map.mp member
    split
    · exact new
    · exact everywhere.held old inside

theorem execute (everywhere : storage.Everywhere property)
    (left : ∀ plan, (storage.view handle).plan storage.clock command = .ok plan →
      property (leaves (storage.view handle) plan).after) :
    (storage.execute handle command).2.Everywhere property := by
  have frame := (storage.execute_frame handle command).1
  rcases storage.execute_cases handle command with
    ⟨fault, -, holds⟩ | ⟨plan, planned, -, ⟨-, holds⟩ | ⟨-, -, -, holds⟩⟩
  · refine ⟨frame ▸ everywhere.committed, ?_⟩
    rw [holds]
    exact everywhere.held
  · refine everywhere.setHold frame ?_ holds
    have inside := everywhere.hold handle
    unfold holdAfterRead
    split
    · exact everywhere.committed
    · exact inside
  · refine everywhere.setHold frame ?_ holds
    unfold holdAfterWrite
    split <;> exact left plan planned

theorem rollback (everywhere : storage.Everywhere property) (handle : Handle) :
    (storage.rollback handle).Everywhere property := by
  have frame := storage.rollback_frame handle
  refine ⟨frame.1 ▸ everywhere.committed, ?_⟩
  rw [frame.2.2.2.2]
  exact fun entry member => everywhere.held entry (List.mem_filter.mp member).1

theorem commit (everywhere : storage.Everywhere property) (handle : Handle) :
    (storage.commit handle).Everywhere property where
  committed := by
    have inside := everywhere.hold handle
    unfold Storage.commit
    split
    · rename_i view written
      rw [written] at inside
      exact inside
    · exact everywhere.committed
  held := by
    rw [(storage.commit_frame handle).2.2]
    exact fun entry member => everywhere.held entry (List.mem_filter.mp member).1

end Everywhere

end Storage
end TopicLog
