import TopicLog.Proofs.CursorGuard

/-!
To claim a bound and then to write is to compare and swap. Whoever commits what it wrote had claimed the
bound that is committed still; and a commit that changes a cursor leaves nobody who claimed before it a
chance to write.
-/
namespace TopicLog

variable {namings : Namings} {topic : String} {claimants : Claimants} {handle : Handle}
  {claimant : Claimant}

/-! The invariant over a run. -/

theorem claim_built (valid : isTopic topic = true) (group : String) :
    (namings.cursorLayout.claim topic group).map Claim.statement =
      .ok (namings.claim topic group).statement :=
  namings.names.claim_built group valid

theorem fetch_built (namings : Namings) (valid : isTopic topic = true) (group : String)
    (batchSize : Nat) (codec : Codec) :
    ∃ limit, (namings.layout batchSize codec).fetch topic group namings.cursorLayout =
      .ok ⟨.sqlite, .fetch (namings.messageTable topic) (namings.claim topic group) limit⟩ :=
  ⟨_, namings.names.fetch_built group valid batchSize codec⟩

theorem upsert_built (namings : Namings) (valid : isTopic topic = true) (upsert : Upsert) :
    ∃ statement, upsert.statement namings.cursorLayout topic = .ok statement :=
  ⟨_, upsert.built namings.names valid⟩

theorem Guarded.held (guarded : Guarded namings topic claimants)
    (found : claimants.active handle = some claimant) :
    ∃ hold, claimants.storage.held? handle = some hold ∧
      Standing namings topic claimants.storage.committed (some hold) claimant := by
  obtain ⟨-, -, standing⟩ := guarded.active handle claimant found
  cases held : claimants.storage.held? handle with
  | none =>
      rw [held] at standing
      cases standing
  | some hold => exact ⟨hold, rfl, held ▸ standing⟩

theorem Guarded.beginClaimant (guarded : Guarded namings topic claimants) (group : String) :
    Guarded namings topic (claimants.step namings topic (.begin group)) := by
  have fresh := guarded.consistent.fresh
  have begun := Storage.consistent_begin guarded.consistent
  have idle : claimants.storage.beginIsolated.2.held? claimants.storage.fresh = some .idle :=
    Storage.held_begin_self fresh
  refine guarded.stay ⟨begun.fresh, begun.snapshot, begun.single⟩
    (Storage.elsewhere_beginIsolated fresh) rfl (fun other apart => if_neg apart) ?_ ?_
  · intro claimant found
    cases ((if_pos rfl).symm.trans found : some { group } = some claimant)
    refine ⟨Nat.lt_succ_self _, Storage.unprimed_begin claimants.storage, ?_⟩
    change Standing _ _ _ (claimants.storage.beginIsolated.2.held? _) _
    rw [idle]
    exact .idle rfl rfl
  · intro missing
    cases ((if_pos rfl).symm.trans missing : some ({ group } : Claimant) = none)

theorem Guarded.claim (valid : isTopic topic = true) (guarded : Guarded namings topic claimants)
    (handle : Handle) : Guarded namings topic (claimants.step namings topic (.claim handle)) := by
  cases found : claimants.active handle with
  | none =>
      simp only [Claimants.step, found]
      exact guarded
  | some claimant =>
      simp only [Claimants.step, found]
      split
      · exact guarded
      · rename_i unclaimed
        have unclaimed : claimant.claimed = none := by simpa using unclaimed
        obtain ⟨-, unprimed, -⟩ := guarded.active handle claimant found
        obtain ⟨hold, held, standing⟩ := guarded.held found
        rw [claim_built valid]
        apply guarded.attempt found rfl
        cases standing with
        | idle _ unwritten => exact standing_claim guarded.kept held unprimed unwritten unclaimed
        | reading _ claimed => cases unclaimed.symm.trans claimed
        | writing _ claimed => cases unclaimed.symm.trans claimed

theorem Guarded.select (valid : isTopic topic = true) (guarded : Guarded namings topic claimants)
    (handle : Handle) (group : String) (batchSize : Nat) (codec : Codec) :
    Guarded namings topic
      (claimants.step namings topic (.select handle group batchSize codec)) := by
  cases found : claimants.active handle with
  | none =>
      simp only [Claimants.step, found]
      exact guarded
  | some claimant =>
      simp only [Claimants.step, found]
      split
      · exact guarded
      · rename_i claimed
        obtain ⟨-, unprimed, -⟩ := guarded.active handle claimant found
        obtain ⟨hold, held, standing⟩ := guarded.held found
        obtain ⟨limit, built⟩ := fetch_built namings valid group batchSize codec
        rw [built]
        apply guarded.attempt found rfl
        rw [claimant.noting_same]
        exact standing_select held unprimed standing (by simpa using claimed)

theorem Guarded.write (valid : isTopic topic = true) (guarded : Guarded namings topic claimants)
    (handle : Handle) (upsert : Upsert) :
    Guarded namings topic (claimants.step namings topic (.write handle upsert)) := by
  cases found : claimants.active handle with
  | none =>
      simp only [Claimants.step, found]
      exact guarded
  | some claimant =>
      simp only [Claimants.step, found]
      split
      · exact guarded
      · rename_i claimed
        obtain ⟨-, unprimed, -⟩ := guarded.active handle claimant found
        obtain ⟨hold, held, standing⟩ := guarded.held found
        obtain ⟨statement, built⟩ := upsert_built namings valid upsert
        rw [built]
        apply guarded.attempt found (Upsert.statement_plain built)
        exact standing_write guarded.consistent held unprimed standing
          (by simpa using claimed) built

theorem Standing.kept {committed view : Database} {changed : Bool}
    (standing : Standing namings topic committed (some (.writing view changed)) claimant) :
    namings.Kept topic view := by
  cases standing with
  | @writing _ rows cursors claimed =>
      intro contents found
      rw [Database.contents_put_held _ cursors] at found
      exact ⟨_, (Option.some.inj found).symm⟩

theorem Guarded.commitClaimant (guarded : Guarded namings topic claimants) (handle : Handle) :
    Guarded namings topic (claimants.step namings topic (.commit handle)) := by
  cases found : claimants.active handle with
  | none =>
      simp only [Claimants.step, found]
      exact guarded
  | some claimant =>
      simp only [Claimants.step, found]
      refine guarded.commit rfl (fun other apart => if_neg apart) (if_pos rfl) ?_
      intro view held
      obtain ⟨-, -, standing⟩ := guarded.active handle claimant found
      rw [held] at standing
      exact standing.kept

theorem Guarded.rollbackClaimant (guarded : Guarded namings topic claimants) (handle : Handle) :
    Guarded namings topic (claimants.step namings topic (.rollback handle)) := by
  cases found : claimants.active handle with
  | none =>
      simp only [Claimants.step, found]
      exact guarded
  | some claimant =>
      simp only [Claimants.step, found]
      exact guarded.rollback rfl (fun other apart => if_neg apart) (if_pos rfl)

theorem Guarded.pause (guarded : Guarded namings topic claimants) (clock : Timestamp) :
    Guarded namings topic (claimants.step namings topic (.pause clock)) where
  consistent := ⟨guarded.consistent.fresh, guarded.consistent.snapshot, guarded.consistent.single⟩
  kept := guarded.kept
  active := guarded.active
  others := guarded.others

theorem Guarded.step (valid : isTopic topic = true) (guarded : Guarded namings topic claimants)
    (event : ClaimEvent) : Guarded namings topic (claimants.step namings topic event) := by
  cases event with
  | begin group => exact guarded.beginClaimant group
  | claim handle => exact guarded.claim valid handle
  | select handle group batchSize codec => exact guarded.select valid handle group batchSize codec
  | write handle upsert => exact guarded.write valid handle upsert
  | commit handle => exact guarded.commitClaimant handle
  | rollback handle => exact guarded.rollbackClaimant handle
  | publish codec settings initialized messages =>
      exact (Guarded.survives valid claimants).publish valid guarded rfl
  | setUp member => exact (Guarded.survives valid claimants).subscriber_setUp guarded
  | move move => exact (Guarded.survives valid claimants).move (fun _ mine => mine) guarded move
  | pause clock => exact guarded.pause clock

theorem Guarded.run (valid : isTopic topic = true) (guarded : Guarded namings topic claimants)
    (events : List ClaimEvent) : Guarded namings topic (Claimants.run namings topic events claimants) := by
  induction events generalizing claimants with
  | nil => exact guarded
  | cons event rest ih => exact ih (guarded.step valid event)

/-- A storage without open transactions in which the topic's table of cursors is one, if it is there. -/
structure Namings.Unclaimed (namings : Namings) (topic : String) (storage : Storage) : Prop where
  closed : storage.holds = []
  kept : namings.Kept topic storage.committed

theorem Namings.Unclaimed.guarded {storage : Storage} (unclaimed : namings.Unclaimed topic storage) :
    Guarded namings topic { storage } where
  consistent := Storage.consistent_of_closed unclaimed.closed
  kept := unclaimed.kept
  active _ _ found := by cases found
  others handle view changed _ held := by
    rw [Storage.held?, unclaimed.closed] at held
    cases held

/-! A commit. -/

theorem Guarded.swaps (guarded : Guarded namings topic claimants)
    (found : claimants.active handle = some claimant) (wrote : claimant.upserts ≠ []) :
    let before := claimants.storage.committed
    let after := (claimants.step namings topic (.commit handle)).storage.committed
    claimant.claimed = some (Cursors.bound claimant.group (namings.cursorRows topic before)) ∧
      namings.cursorRows topic after =
        Upsert.applyAll claimant.upserts (namings.cursorRows topic before) ∧
      ∀ name, sameName (namings.cursorTable topic) name = false →
        after.contents? name = before.contents? name := by
  intro before after
  obtain ⟨hold, held, standing⟩ := guarded.held found
  have committed : after = (claimants.storage.commit handle).committed := by
    simp only [after, Claimants.step, found]
  cases standing with
  | idle _ unwritten => exact absurd unwritten wrote
  | reading _ _ unwritten => exact absurd unwritten wrote
  | @writing _ rows cursors claimed =>
      have known : namings.cursorRows topic before = rows := Database.cursorsOf_eq cursors
      rw [known]
      refine ⟨claimed, ?_⟩
      cases altered : Upsert.alter claimant.upserts rows with
      | true =>
          rw [altered] at held
          rw [committed, (Storage.commit_written held).1]
          constructor
          · apply Database.cursorsOf_eq
            exact Database.contents_put_held _ cursors
          · intro name apart
            exact Database.contents_put_other _ _ apart
      | false =>
          -- Rows that were only written again are no change, and the commit leaves all as it is.
          have unwritten : ∀ view,
              claimants.storage.held? handle ≠ some (.writing view true) := by
            intro view writes
            rw [altered] at held
            cases held.symm.trans writes
          rw [committed, (Storage.commit_unwritten unwritten).1, Upsert.applyAll_unaltered altered]
          exact ⟨known, fun _ _ => rfl⟩

/-! Who comes too late. -/

/-- A transaction that, if it is still open, wrote nothing and has a snapshot older than the last
commit. -/
structure Outrun (claimants : Claimants) (handle : Handle) : Prop where
  given : handle < claimants.storage.fresh
  stale : ∀ claimant, claimants.active handle = some claimant → claimant.upserts = [] ∧
    ∃ view version, claimants.storage.held? handle = some (.reading view version) ∧
      version < claimants.storage.version

/-- A statement that would write is refused to an old snapshot, and leaves nothing. -/
theorem Storage.execute_outdated {storage : Storage} {command : Command} {plan : Plan}
    (planned : (storage.view handle).plan storage.clock command = .ok plan)
    (writes : plan.writes = true) (old : storage.isOutdated handle = true) :
    ∃ fault, (Failure.ofFault fault).isConflict = true ∧
      storage.execute handle command = storage.refuse handle command fault := by
  cases busy : storage.lockedFor handle with
  | true => exact ⟨.locked, by decide, by simp [execute, planned, writes, busy]⟩
  | false => exact ⟨.outdated, by decide, by simp [execute, planned, writes, busy, old]⟩

section Outrun

variable {after : Claimants} {other : Handle}

theorem Outrun.elsewhere (outrun : Outrun claimants handle)
    (elsewhere : Storage.Elsewhere other claimants.storage after.storage)
    (same : after.active handle = claimants.active handle)
    (apart : claimants.active handle ≠ none → handle ≠ other) : Outrun after handle where
  given := Nat.lt_of_lt_of_le outrun.given elsewhere.fresh
  stale claimant found := by
    rw [same] at found
    obtain ⟨unwritten, view, version, held, old⟩ := outrun.stale claimant found
    have distinct := apart (by simp [found])
    refine ⟨unwritten, view, version, ?_, Nat.lt_of_lt_of_le old elsewhere.version⟩
    rw [elsewhere.held handle distinct]
    exact held

theorem Outrun.ended (outrun : Outrun claimants handle)
    (fresh : claimants.storage.fresh ≤ after.storage.fresh) (ended : after.active handle = none) :
    Outrun after handle where
  given := Nat.lt_of_lt_of_le outrun.given fresh
  stale claimant found := by cases ended.symm.trans found

theorem Outrun.ends {left : Storage} (outrun : Outrun claimants handle) (other : Handle)
    (elsewhere : Storage.Elsewhere other claimants.storage left) :
    Outrun { storage := left, active := claimants.set other none } handle := by
  by_cases mine : handle = other
  · exact outrun.ended elsewhere.fresh (if_pos mine)
  · exact outrun.elsewhere elsewhere (if_neg mine) fun _ => mine

theorem Outrun.refuses (outrun : Outrun claimants handle) (guarded : Guarded namings topic claimants)
    (found : claimants.active handle = some claimant) {upsert : Upsert} {statement : Statement}
    (built : upsert.statement namings.cursorLayout topic = .ok statement) :
    ∃ fault, (Failure.ofFault fault).isConflict = true ∧
      claimants.storage.execute handle (.run statement.action) =
        claimants.storage.refuse handle (.run statement.action) fault := by
  obtain ⟨-, view, version, held, old⟩ := outrun.stale claimant found
  obtain ⟨-, -, standing⟩ := guarded.active handle claimant found
  have own := Storage.hold_of_held held
  rw [held] at standing
  -- It has not written, so it holds no lock, and its snapshot is older than the committed database.
  cases standing with
  | reading cursors =>
      have planned : Database.plan _ claimants.storage.clock (.run statement.action) = .ok _ :=
        Upsert.plan_cursors built cursors
      apply Storage.execute_outdated (by rw [Storage.view, own]; exact planned) rfl
      simp [Storage.isOutdated, own, Nat.ne_of_lt old]

theorem Outrun.claimed (outrun : Outrun claimants handle)
    (guarded : Guarded namings topic claimants)
    (found : claimants.active handle = some claimant) : claimant.claimed ≠ none := by
  obtain ⟨-, view, version, held, -⟩ := outrun.stale claimant found
  obtain ⟨-, -, standing⟩ := guarded.active handle claimant found
  rw [held] at standing
  cases standing with
  | reading _ claimed => simp [claimed]

theorem Outrun.reads (outrun : Outrun claimants handle)
    (guarded : Guarded namings topic claimants) (found : claimants.active handle = some claimant)
    {command : Command} (plain : command.makes = false)
    (reads : ∀ plan, (claimants.storage.view handle).plan claimants.storage.clock command =
      .ok plan → plan.writes = false) :
    (claimants.storage.execute handle command).2.held? handle = claimants.storage.held? handle := by
  obtain ⟨-, unprimed, -⟩ := guarded.active handle claimant found
  obtain ⟨-, view, version, held, -⟩ := outrun.stale claimant found
  have own := Storage.hold_of_held held
  rcases Storage.execute_held held unprimed plain with
    ⟨fault, -, still⟩ | ⟨plan, planned, -, ⟨-, after⟩ | ⟨writes, -⟩⟩
  · exact still.trans held.symm
  · rw [after, Storage.holdAfterRead, own, held]
  · cases (reads plan planned).symm.trans writes

theorem Outrun.attempt {built : Except Failure Statement} {note : Effect → Claimant}
    (outrun : Outrun claimants handle) (found : claimants.active other = some claimant)
    (own : other = handle → ∀ statement, built = .ok statement →
      (claimants.storage.execute handle (.run statement.action)).2.held? handle =
        claimants.storage.held? handle ∧
      (claimant.noting note
        (claimants.storage.execute handle (.run statement.action)).1).upserts = []) :
    Outrun (claimants.attempt other claimant built note) handle := by
  cases built with
  | error failure => exact outrun
  | ok statement =>
      have elsewhere := Storage.elsewhere_execute other (.run statement.action) claimants.storage
      by_cases mine : other = handle
      · subst mine
        obtain ⟨still, silent⟩ := own rfl statement rfl
        refine ⟨Nat.lt_of_lt_of_le outrun.given elsewhere.fresh, ?_⟩
        intro next same
        obtain ⟨-, view, version, held, old⟩ := outrun.stale claimant found
        have noted : claimant.noting note
            (claimants.storage.execute other (.run statement.action)).1 = next := by
          simp only [Claimants.attempt, Claimants.set, if_pos] at same
          rw [← Option.some.inj same]
          cases (claimants.storage.execute other (.run statement.action)).1 <;> rfl
        exact ⟨noted ▸ silent, view, version, still.trans held,
          Nat.lt_of_lt_of_le old elsewhere.version⟩
      · exact outrun.elsewhere elsewhere (if_neg (Ne.symm mine)) fun _ => Ne.symm mine

theorem Outrun.survives (valid : isTopic topic = true) (claimants : Claimants) (handle : Handle) :
    namings.Survives topic (fun other => claimants.isOutside other = true) fun storage =>
      Guarded namings topic (claimants.withStorage storage) ∧
        Outrun (claimants.withStorage storage) handle := by
  have survives : namings.Survives topic _ fun storage =>
      Guarded namings topic (claimants.withStorage storage) := Guarded.survives valid claimants
  have apart {other : Handle} (outside : claimants.isOutside other = true)
      (running : claimants.active handle ≠ none) : handle ≠ other := by
    rintro rfl
    exact running (Option.isNone_iff_eq_none.mp outside)
  constructor
  · rintro storage ⟨guarded, outrun⟩
    obtain ⟨outside, begun⟩ := survives.begin storage guarded
    exact ⟨outside, begun, outrun.elsewhere (Storage.elsewhere_begin guarded.consistent.fresh) rfl
      (apart outside)⟩
  · rintro storage other action ⟨guarded, outrun⟩ outside allowed
    exact ⟨survives.execute storage other action guarded outside allowed,
      outrun.elsewhere (Storage.elsewhere_execute other (.run action) storage) rfl (apart outside)⟩
  · rintro storage other ⟨guarded, outrun⟩ outside
    exact ⟨survives.commit storage other guarded outside,
      outrun.elsewhere (Storage.elsewhere_commit other storage) rfl (apart outside)⟩
  · rintro storage other ⟨guarded, outrun⟩ outside
    exact ⟨survives.rollback storage other guarded outside,
      outrun.elsewhere (Storage.elsewhere_rollback other storage) rfl (apart outside)⟩

theorem Outrun.step (valid : isTopic topic = true) (guarded : Guarded namings topic claimants)
    (outrun : Outrun claimants handle) (event : ClaimEvent) :
    Outrun (claimants.step namings topic event) handle := by
  cases event with
  | begin group =>
      have later : handle ≠ claimants.storage.fresh := Nat.ne_of_lt outrun.given
      exact outrun.elsewhere (Storage.elsewhere_beginIsolated guarded.consistent.fresh)
        (if_neg later) fun _ => later
  | claim other =>
      cases found : claimants.active other with
      | none =>
          simp only [Claimants.step, found]
          exact outrun
      | some claimant =>
          simp only [Claimants.step, found, claim_built valid]
          split
          · exact outrun
          · rename_i unclaimed
            apply outrun.attempt found
            -- Who has a snapshot has claimed, and claims no second time.
            rintro rfl
            exact absurd (by simpa using unclaimed) (outrun.claimed guarded found)
  | select other group batchSize codec =>
      cases found : claimants.active other with
      | none =>
          simp only [Claimants.step, found]
          exact outrun
      | some claimant =>
          obtain ⟨limit, built⟩ := fetch_built namings valid group batchSize codec
          simp only [Claimants.step, found, built]
          split
          · exact outrun
          · apply outrun.attempt found
            rintro rfl statement ⟨⟩
            constructor
            · apply outrun.reads guarded found rfl
              intro plan planned
              exact Database.fetch_unwritten planned
            · rw [claimant.noting_same]
              exact (outrun.stale claimant found).1
  | write other upsert =>
      cases found : claimants.active other with
      | none =>
          simp only [Claimants.step, found]
          exact outrun
      | some claimant =>
          simp only [Claimants.step, found]
          split
          · exact outrun
          · apply outrun.attempt found
            rintro rfl statement built
            obtain ⟨fault, -, refused⟩ := outrun.refuses guarded found built
            rw [refused]
            exact ⟨rfl, (outrun.stale claimant found).1⟩
  | commit other =>
      cases found : claimants.active other with
      | none =>
          simp only [Claimants.step, found]
          exact outrun
      | some claimant =>
          simp only [Claimants.step, found]
          exact outrun.ends other (Storage.elsewhere_commit other claimants.storage)
  | rollback other =>
      cases found : claimants.active other with
      | none =>
          simp only [Claimants.step, found]
          exact outrun
      | some claimant =>
          simp only [Claimants.step, found]
          exact outrun.ends other (Storage.elsewhere_rollback other claimants.storage)
  | publish codec settings initialized messages =>
      exact ((Outrun.survives valid claimants handle).publish valid ⟨guarded, outrun⟩ rfl).2
  | setUp member =>
      exact ((Outrun.survives valid claimants handle).subscriber_setUp ⟨guarded, outrun⟩).2
  | move move =>
      exact ((Outrun.survives valid claimants handle).move (fun _ mine => mine)
        ⟨guarded, outrun⟩ move).2
  | pause clock => exact ⟨outrun.given, outrun.stale⟩

theorem Outrun.run (valid : isTopic topic = true) (guarded : Guarded namings topic claimants)
    (outrun : Outrun claimants handle) (events : List ClaimEvent) :
    Outrun (Claimants.run namings topic events claimants) handle := by
  induction events generalizing claimants with
  | nil => exact outrun
  | cons event rest ih => exact ih (guarded.step valid event) (outrun.step valid guarded event)

/-- The commit of a change leaves everybody behind who claimed before. -/
theorem Guarded.outruns {winner loser : Handle} {one other : Claimant}
    (guarded : Guarded namings topic claimants) (apart : winner ≠ loser)
    (winning : claimants.active winner = some one) (losing : claimants.active loser = some other)
    (claimed : other.claimed ≠ none)
    (altered : Upsert.alter one.upserts
      (namings.cursorRows topic claimants.storage.committed) = true) :
    Outrun (claimants.step namings topic (.commit winner)) loser := by
  obtain ⟨given, -, -⟩ := guarded.active loser other losing
  obtain ⟨hold, held, standing⟩ := guarded.held winning
  obtain ⟨otherHold, otherHeld, otherStanding⟩ := guarded.held losing
  have elsewhere := Storage.elsewhere_commit winner claimants.storage
  have wrote : one.upserts ≠ [] := by
    intro nothing
    rw [nothing] at altered
    cases altered
  simp only [Claimants.step, winning]
  cases standing with
  | idle _ unwritten => exact absurd unwritten wrote
  | reading _ _ unwritten => exact absurd unwritten wrote
  | @writing _ rows cursors _ =>
      rw [Namings.cursorRows, Database.cursorsOf_eq cursors] at altered
      rw [altered] at held
      have newest := (Storage.commit_written held).2
      refine ⟨Nat.lt_of_lt_of_le given elsewhere.fresh, ?_⟩
      intro left found
      cases losing.symm.trans ((if_neg (Ne.symm apart)).symm.trans found)
      cases otherStanding with
      | idle unclaimed => exact absurd unclaimed claimed
      | @reading _ view version _ _ _ unwritten =>
          -- Its snapshot is of a commit before this one.
          have known := (guarded.consistent.snapshot loser view version otherHeld).1
          refine ⟨unwritten, view, version, ?_, ?_⟩
          · rw [elsewhere.held loser (Ne.symm apart)]
            exact otherHeld
          · rw [newest]
            exact Nat.lt_succ_of_le known
      | writing =>
          exact absurd (guarded.consistent.single winner loser _ _ held otherHeld rfl rfl) apart

end Outrun

/-- Whoever commits what it wrote had claimed the bound of its group that is committed still, and the
cursors after its commit are those before it with its writes in their order. Once one has committed a
change, nobody else who claimed before can write any more: every attempt is refused as a conflict and
leaves nothing. -/
theorem claim_compares_and_swaps (namings : Namings) {topic : String}
    (valid : isTopic topic = true) {storage : Storage} (unclaimed : namings.Unclaimed topic storage)
    (events : List ClaimEvent) :
    let claimants := Claimants.run namings topic events { storage }
    (∀ handle claimant, claimants.active handle = some claimant → claimant.upserts ≠ [] →
      let before := claimants.storage.committed
      let after := (claimants.step namings topic (.commit handle)).storage.committed
      claimant.claimed = some (Cursors.bound claimant.group (namings.cursorRows topic before)) ∧
        namings.cursorRows topic after =
          Upsert.applyAll claimant.upserts (namings.cursorRows topic before) ∧
        ∀ name, sameName (namings.cursorTable topic) name = false →
          after.contents? name = before.contents? name) ∧
    ∀ winner loser one other later, winner ≠ loser →
      claimants.active winner = some one → claimants.active loser = some other →
      other.claimed ≠ none →
      Upsert.alter one.upserts (namings.cursorRows topic claimants.storage.committed) = true →
      let after := Claimants.run namings topic (.commit winner :: later) claimants
      ∀ left, after.active loser = some left → left.upserts = [] ∧
        ∀ upsert : Upsert, ∃ statement,
          upsert.statement namings.cursorLayout topic = .ok statement ∧
          let refused := after.storage.execute loser (.run statement.action)
          (∃ fault, refused.1 = .error fault ∧ (Failure.ofFault fault).isConflict = true) ∧
            refused.2.committed = after.storage.committed ∧
            refused.2.holds = after.storage.holds := by
  intro claimants
  have guarded : Guarded namings topic claimants := unclaimed.guarded.run valid events
  constructor
  · intro handle claimant found wrote
    exact guarded.swaps found wrote
  · intro winner loser one other later apart winning losing claimed altered after left found
    have outrun := guarded.outruns apart winning losing claimed altered
    have next := guarded.step valid (.commit winner)
    have behind : Outrun after loser := outrun.run valid next later
    refine ⟨(behind.stale left found).1, fun upsert => ?_⟩
    obtain ⟨statement, built⟩ := upsert_built namings valid upsert
    obtain ⟨fault, conflict, refused⟩ := behind.refuses (next.run valid later) found built
    refine ⟨statement, built, ?_⟩
    rw [refused]
    exact ⟨⟨fault, rfl, conflict⟩, rfl, rfl⟩

def acknowledgedOnce : Database :=
  { tables := [⟨Namings.usual.cursorTable "orders", .cursors [⟨.text "billing", .int 1, .int 1⟩]⟩] }

theorem acknowledgedOnce_unclaimed :
    Namings.usual.Unclaimed "orders" { clock := newYear, committed := acknowledgedOnce } := by
  refine ⟨rfl, ?_⟩
  intro contents found
  have rows : acknowledgedOnce.contents? (Namings.usual.cursorTable "orders") =
      some (.cursors [⟨.text "billing", .int 1, .int 1⟩]) := by decide +kernel
  exact ⟨_, (Option.some.inj (found.symm.trans rows))⟩

def marking (offset : Int) : Upsert := .mark ⟨offset, newYear, {}⟩ "billing"

theorem claim_compares_and_swaps_race :
    isTopic "orders" = true ∧
      Namings.usual.Unclaimed "orders" { clock := newYear, committed := acknowledgedOnce } ∧
      let claimants := Claimants.run Namings.usual "orders"
        [.begin "billing", .begin "billing", .claim 0, .claim 1, .write 0 (marking 2)]
        { storage := { clock := newYear, committed := acknowledgedOnce } }
      (∃ winner, claimants.active 0 = some winner ∧ winner.claimed = some (.int 1) ∧
        winner.claimed = some (Cursors.bound winner.group
          (Namings.usual.cursorRows "orders" claimants.storage.committed))) ∧
      ∃ left, (Claimants.run Namings.usual "orders" [.commit 0] claimants).active 1 = some left ∧
        left.upserts = [] := by
  have topic : isTopic "orders" = true := by decide
  refine ⟨topic, acknowledgedOnce_unclaimed, ?_⟩
  intro claimants
  have winning : claimants.active 0 = some ⟨"billing", some (.int 1), [marking 2]⟩ := by
    decide +kernel
  have losing : claimants.active 1 = some ⟨"billing", some (.int 1), []⟩ := by decide +kernel
  have remains : (Claimants.run Namings.usual "orders" [.commit 0] claimants).active 1 =
      some ⟨"billing", some (.int 1), []⟩ := by decide +kernel
  have swaps := claim_compares_and_swaps Namings.usual topic acknowledgedOnce_unclaimed
    [.begin "billing", .begin "billing", .claim 0, .claim 1, .write 0 (marking 2)]
  constructor
  · exact ⟨_, winning, rfl, (swaps.1 0 _ winning (by decide)).1⟩
  · exact ⟨_, remains, (swaps.2 0 1 _ _ [] (by decide) winning losing (by decide) (by decide +kernel)
      _ remains).1⟩

/-- To write again what is there is no change. The transaction that did so commits, and the other one,
which claimed at the same time, may still write. -/
theorem both_claimants_write :
    let claimed := Claimants.run Namings.usual "orders"
      [.begin "billing", .begin "billing", .claim 0, .claim 1]
      { storage := { clock := newYear, committed := acknowledgedOnce } }
    let first := Claimants.run Namings.usual "orders" [.write 0 (marking 1)] claimed
    let second := Claimants.run Namings.usual "orders" [.commit 0, .write 1 (marking 2)] first
    let left := Claimants.run Namings.usual "orders" [.commit 1] second
    claimed.active 0 = some ⟨"billing", some (.int 1), []⟩ ∧
      claimed.active 1 = some ⟨"billing", some (.int 1), []⟩ ∧
      first.active 0 = some ⟨"billing", some (.int 1), [marking 1]⟩ ∧
      second.active 0 = none ∧
      second.active 1 = some ⟨"billing", some (.int 1), [marking 2]⟩ ∧
      Namings.usual.cursorRows "orders" left.storage.committed =
        [⟨.text "billing", .int 1, .int 2⟩] := by
  decide +kernel

end TopicLog
