import TopicLog.Proofs.Progress
import TopicLog.Proofs.SideSteps

/-!
What holds between the steps of a topic at work. Every step is one of a single transaction. All but
commits leave the committed database alone, so they are judged by what the transaction itself holds;
a commit that wrote something had the write lock, so no other transaction saw an older state to write
on.
-/
namespace TopicLog

/-- The rows that a committed poll acknowledged: each was handed over in the same poll, in this order
and with no other, and was accepted. -/
structure Fulfilled (log : Log) (poll : Poll) (past : List LogRow) : Prop where
  acknowledged : poll.journal.acknowledged = past.map LogRow.offset
  handed : poll.journal.handed.map (fun (delivery, verdict) => (Except.ok delivery, verdict)) =
    past.map fun row => (poll.member.decode row, some Verdict.accepted)
  stored : ∀ row ∈ past, row ∈ log.rows

theorem Fulfilled.extends {old new : Log} {poll : Poll} {past : List LogRow}
    (fulfilled : Fulfilled old poll past) (grown : Log.Extends old new) :
    Fulfilled new poll past where
  acknowledged := fulfilled.acknowledged
  handed := fulfilled.handed
  stored row member := by
    obtain ⟨added, rows, -⟩ := grown.rows
    rw [rows]
    exact List.mem_append_left added (fulfilled.stored row member)

/-- What the polls acknowledged that committed up to a database. -/
structure Account (namings : Namings) (topic : String) (database : Database) (polls : List Poll) :
    Prop where
  history : ∀ group, acknowledgedBy group polls =
    ((namings.log topic database).upTo (namings.acked topic database group)).map LogRow.offset
  fulfilled : ∀ poll ∈ polls, ∃ past, Fulfilled (namings.log topic database) poll past

theorem Account.published {namings : Namings} {topic : String} {before after : Database}
    {polls : List Poll} (account : Account namings topic before polls)
    (sound : namings.Sound topic before) (published : namings.Published topic before after) :
    Account namings topic after polls where
  history group := by
    rw [published.acked, Log.upTo_extends published.grown (sound.within group).2]
    exact account.history group
  fulfilled poll member := by
    obtain ⟨past, fulfilled⟩ := account.fulfilled poll member
    exact ⟨past, fulfilled.extends published.grown⟩

theorem acknowledgedBy_snoc (group : String) (polls : List Poll) (poll : Poll) :
    acknowledgedBy group (polls ++ [poll]) = acknowledgedBy group polls ++
      if poll.group = group then poll.journal.acknowledged else [] := by
  by_cases mine : poll.group = group <;> simp [acknowledgedBy, mine]

theorem Account.calm {namings : Namings} {topic : String} {database : Database}
    {polls : List Poll} {poll : Poll} (account : Account namings topic database polls)
    (calm : poll.journal.Calm) : Account namings topic database (polls ++ [poll]) where
  history group := by
    rw [acknowledgedBy_snoc, account.history group, calm.acknowledged]
    simp
  fulfilled old member := by
    rcases List.mem_append.mp member with earlier | last
    · exact account.fulfilled old earlier
    · rw [List.mem_singleton.mp last]
      exact ⟨[], by simp [calm.acknowledged], by simp [calm.handed], by simp⟩

theorem Account.advanced {namings : Namings} {topic : String} {before after : Database}
    {polls : List Poll} {poll : Poll} {past rest : List LogRow}
    (account : Account namings topic before polls) (sound : namings.Sound topic before)
    (underway : Underway namings topic poll.member before after poll.journal past rest) :
    Account namings topic after (polls ++ [poll]) where
  history group := by
    rw [acknowledgedBy_snoc, account.history group, underway.advanced.log]
    by_cases mine : poll.group = group
    · subst mine
      have own : namings.acked topic after poll.group =
          Log.reached (namings.acked topic before poll.group) past := underway.advanced.own
      have moved := Log.upTo_reached sound.ordered.ascending (sound.within poll.group).1
        underway.batch
      rw [if_pos rfl, own, underway.acknowledged, ← List.map_append]
      exact congrArg _ moved.symm
    · have elsewhere : group ≠ poll.member.group := fun same => mine same.symm
      rw [if_neg mine, underway.advanced.other group elsewhere, List.append_nil]
  fulfilled old member := by
    rw [underway.advanced.log]
    rcases List.mem_append.mp member with earlier | last
    · exact account.fulfilled old earlier
    · rw [List.mem_singleton.mp last]
      refine ⟨past, underway.acknowledged, underway.handed, ?_⟩
      intro row inside
      have inBatch : row ∈ poll.member.batch namings topic before := by
        rw [underway.batch]
        exact List.mem_append_left rest inside
      exact (Log.batch_above inBatch).1

structure Invariant (namings : Namings) (topic : String) (system : System) : Prop where
  consistent : system.storage.Consistent
  sound : namings.Sound topic system.storage.committed
  polls : ∀ handle poll, system.polls handle = some poll →
    handle < system.storage.fresh ∧ system.storage.Unprimed handle ∧
      Stage namings topic system.storage.committed (system.storage.held? handle) poll
  others : ∀ handle view changed, system.polls handle = none →
    system.storage.held? handle = some (.writing view changed) →
    namings.Published topic system.storage.committed view
  account : Account namings topic system.storage.committed system.committed

section Steps

variable {namings : Namings} {topic : String} {system after : System} {handle : Handle}

theorem Invariant.occupied (invariant : Invariant namings topic system) :
    Storage.Occupied (Stage namings topic) (namings.Published topic) system.polls system.storage :=
  ⟨invariant.consistent, invariant.polls, invariant.others⟩

theorem Invariant.stay (invariant : Invariant namings topic system)
    (consistent : after.storage.Consistent)
    (elsewhere : Storage.Elsewhere handle system.storage after.storage)
    (committed : after.storage.committed = system.storage.committed)
    (account : Account namings topic system.storage.committed after.committed)
    (rest : ∀ other, other ≠ handle → after.polls other = system.polls other)
    (poll : ∀ poll, after.polls handle = some poll →
      handle < after.storage.fresh ∧ after.storage.Unprimed handle ∧
        Stage namings topic system.storage.committed (after.storage.held? handle) poll)
    (side : after.polls handle = none → ∀ view changed,
      after.storage.held? handle = some (.writing view changed) →
      namings.Published topic system.storage.committed view) :
    Invariant namings topic after := by
  have occupied := invariant.occupied.stay consistent elsewhere committed rest poll side
  exact ⟨consistent, committed ▸ invariant.sound, occupied.working, occupied.others,
    committed ▸ account⟩

theorem Invariant.renew {view : Database} (invariant : Invariant namings topic system)
    (held : system.storage.held? handle = some (.writing view true))
    (storage : after.storage = system.storage.commit handle)
    (rest : ∀ other, other ≠ handle → after.polls other = system.polls other)
    (poll : ∀ poll, after.polls handle = some poll →
      handle < system.storage.fresh ∧ Stage namings topic view none poll)
    (sound : namings.Sound topic view)
    (account : Account namings topic view after.committed) : Invariant namings topic after := by
  have newest : after.storage.committed = view := storage ▸ (Storage.commit_written held).1
  have occupied := invariant.occupied.renew held rest poll
    fun reading stage => stage.elsewhere reading
  rw [← storage] at occupied
  exact ⟨occupied.consistent, newest ▸ sound, occupied.working, occupied.others, newest ▸ account⟩

/-! The transactions of publishers and set-ups. -/

theorem Invariant.unused (invariant : Invariant namings topic system) :
    system.polls system.storage.fresh = none := invariant.occupied.unused

theorem Invariant.begin (invariant : Invariant namings topic system) :
    Invariant namings topic (system.withStorage system.storage.begin.2) := by
  have fresh := invariant.consistent.fresh
  refine invariant.stay (Storage.consistent_begin invariant.consistent)
    (Storage.elsewhere_begin fresh) rfl invariant.account (fun _ _ => rfl) ?_ ?_
  · intro poll found
    cases invariant.unused.symm.trans found
  · intro _ view changed held
    have idle : system.storage.begin.2.held? system.storage.fresh = some .idle :=
      Storage.held_begin_self fresh
    cases idle.symm.trans held

theorem Invariant.execute {action : Action} (valid : isTopic topic = true)
    (invariant : Invariant namings topic system) (side : system.polls handle = none)
    (allowed : namings.publishes topic action = true) :
    Invariant namings topic
      (system.withStorage (system.storage.execute handle (.run action)).2) := by
  have frame := system.storage.execute_frame handle (.run action)
  refine invariant.stay (Storage.consistent_execute invariant.consistent)
    (Storage.elsewhere_execute handle (.run action) system.storage) frame.1 invariant.account
    (fun _ _ => rfl)
    ?_ ?_
  · intro poll found
    cases side.symm.trans found
  · intro _ view changed held
    refine Storage.execute_written invariant.consistent invariant.sound.published
      (fun before wrote => invariant.others handle before wrote side) ?_ held
    intro plan planned seen
    exact seen.trans (Namings.plan_publishes valid seen.sound allowed planned)

theorem Invariant.rollback (invariant : Invariant namings topic system)
    (side : system.polls handle = none) :
    Invariant namings topic (system.withStorage (system.storage.rollback handle)) := by
  refine invariant.stay (Storage.consistent_rollback invariant.consistent)
    (Storage.elsewhere_rollback handle system.storage)
    (system.storage.rollback_frame handle).1 invariant.account (fun _ _ => rfl) ?_ ?_
  · intro poll found
    cases side.symm.trans found
  · intro _ view changed held
    cases (system.storage.held_rollback_self handle).symm.trans held

theorem Invariant.close (invariant : Invariant namings topic system)
    (unwritten : ∀ view, system.storage.held? handle ≠ some (.writing view true))
    (storage : after.storage = system.storage.commit handle)
    (account : Account namings topic system.storage.committed after.committed)
    (rest : ∀ other, other ≠ handle → after.polls other = system.polls other)
    (poll : ∀ poll, after.polls handle = some poll →
      handle < system.storage.fresh ∧ Stage namings topic system.storage.committed none poll) :
    Invariant namings topic after := by
  have elsewhere := Storage.elsewhere_commit handle system.storage
  have ended := system.storage.held_commit_self handle
  refine invariant.stay (storage ▸ Storage.consistent_commit invariant.consistent)
    (storage ▸ elsewhere) (storage ▸ (Storage.commit_unwritten unwritten).1) account rest ?_ ?_
  · intro own found
    obtain ⟨given, stage⟩ := poll own found
    rw [storage]
    exact ⟨Nat.lt_of_lt_of_le given elsewhere.fresh, Storage.unprimed_commit _ _, ended ▸ stage⟩
  · intro _ view changed held
    rw [storage, ended] at held
    cases held

theorem Invariant.commit (invariant : Invariant namings topic system)
    (side : system.polls handle = none) :
    Invariant namings topic (system.withStorage (system.storage.commit handle)) := by
  by_cases written : ∃ view, system.storage.held? handle = some (.writing view true)
  · obtain ⟨view, held⟩ := written
    have published := invariant.others handle view true side held
    refine invariant.renew held rfl (fun _ _ => rfl) ?_ published.sound
      (invariant.account.published invariant.sound published)
    intro poll found
    cases side.symm.trans found
  · refine invariant.close (fun view held => written ⟨view, held⟩) rfl invariant.account
      (fun _ _ => rfl) ?_
    intro poll found
    cases side.symm.trans found

theorem Invariant.survives (valid : isTopic topic = true) (system : System) :
    namings.Survives topic (fun handle => system.polls handle = none)
      fun storage => Invariant namings topic (system.withStorage storage) where
  begin _ invariant := ⟨invariant.unused, invariant.begin⟩
  execute _ _ _ invariant side allowed := invariant.execute valid side allowed
  commit _ _ invariant side := invariant.commit side
  rollback _ _ invariant side := invariant.rollback side

/-! Polls. -/

section Polls

variable {poll : Poll} {verdict : Verdict}

theorem Invariant.advance_open (valid : isTopic topic = true)
    (invariant : Invariant namings topic system) (found : system.polls handle = some poll)
    (unended : (poll.script.advance handle verdict system.storage).journal.isCommitted = false)
    (unprimed : (poll.script.advance handle verdict system.storage).storage.Unprimed handle) :
    Invariant namings topic (system.advance handle verdict poll) := by
  obtain ⟨given, primed, stage⟩ := invariant.polls handle poll found
  have next := stage.advance valid invariant.consistent invariant.sound primed verdict
  have elsewhere := poll.script.advance_elsewhere handle verdict system.storage
  have committed := poll.script.advance_committed handle verdict system.storage unended
  have own : (system.advance handle verdict poll).polls handle =
      some (poll.after (poll.script.advance handle verdict system.storage)) := if_pos rfl
  refine invariant.stay (Script.advance_consistent invariant.consistent poll.script handle verdict)
    elsewhere committed ?_ (fun other apart => if_neg apart) ?_ ?_
  · simp only [System.advance, unended]
    exact invariant.account
  · intro after same
    cases own.symm.trans same
    exact ⟨Nat.lt_of_lt_of_le given elsewhere.fresh, unprimed, committed ▸ next⟩
  · intro missing
    cases own.symm.trans missing

theorem Underway.committed {committed view : Database} {journal : Journal}
    {past rest : List LogRow} {member : Member}
    (underway : Underway namings topic member committed view journal past rest) :
    Underway namings topic member committed view (journal ++ [.committed]) past rest where
  advanced := underway.advanced
  batch := underway.batch
  acknowledged := (Journal.acknowledged_append _ _).trans
    ((List.append_nil _).trans underway.acknowledged)
  handed := by
    rw [← underway.handed, Journal.handed_append]
    exact congrArg _ (List.append_nil _)

theorem Invariant.advance_commit {next : Script (Except Failure Nat)}
    (valid : isTopic topic = true) (invariant : Invariant namings topic system)
    (found : system.polls handle = some poll) (script : poll.script = .commit next) :
    Invariant namings topic (system.advance handle verdict poll) := by
  obtain ⟨given, primed, stage⟩ := invariant.polls handle poll found
  have later := stage.advance valid invariant.consistent invariant.sound primed verdict
  have ended := system.storage.held_commit_self handle
  have stepped : poll.script.advance handle verdict system.storage =
      ⟨next, system.storage.commit handle, [.committed]⟩ := by rw [script]; rfl
  have storage : (system.advance handle verdict poll).storage = system.storage.commit handle := by
    simp only [System.advance, stepped]
  have done : (system.advance handle verdict poll).committed = system.committed ++
      [poll.after ⟨next, system.storage.commit handle, [.committed]⟩] := by
    simp only [System.advance, stepped]
    rfl
  have own : (system.advance handle verdict poll).polls handle =
      some (poll.after (poll.script.advance handle verdict system.storage)) := if_pos rfl
  have rest : ∀ other, other ≠ handle →
      (system.advance handle verdict poll).polls other = system.polls other :=
    fun other apart => if_neg apart
  rw [stepped, ended] at later
  rw [stepped] at own
  -- A poll of an empty batch never wrote; any other moved its bound by what it acknowledged.
  rcases stage.committing script with
    ⟨view, version, held, calm⟩ | ⟨view, past, left, held, underway⟩
  · have unwritten : ∀ newest, system.storage.held? handle ≠ some (.writing newest true) := by
      intro newest writes
      cases held.symm.trans writes
    refine invariant.close unwritten storage ?_ rest ?_
    · rw [done]
      exact invariant.account.calm (Journal.calm_append calm ⟨rfl, rfl, rfl⟩)
    · intro after same
      cases own.symm.trans same
      rw [(Storage.commit_unwritten unwritten).1] at later
      exact ⟨given, later⟩
  · refine invariant.renew held storage rest ?_ underway.advanced.sound ?_
    · intro after same
      cases own.symm.trans same
      rw [(Storage.commit_written held).1] at later
      exact ⟨given, later⟩
    · rw [done]
      exact invariant.account.advanced invariant.sound underway.committed

theorem Invariant.advance (valid : isTopic topic = true)
    (invariant : Invariant namings topic system) (found : system.polls handle = some poll)
    (verdict : Verdict) : Invariant namings topic (system.advance handle verdict poll) := by
  obtain ⟨given, unprimed, stage⟩ := invariant.polls handle poll found
  cases script : poll.script with
  | commit next => exact invariant.advance_commit valid found script
  | done result =>
      apply invariant.advance_open valid found <;> simp only [script, Script.advance]
      · rfl
      · exact unprimed
  | execute command next =>
      apply invariant.advance_open valid found <;> simp only [script, Script.advance]
      · rfl
      · exact Storage.unprimed_execute unprimed (stage.plain valid script)
  | hand delivery next =>
      apply invariant.advance_open valid found <;> simp only [script, Script.advance]
      · rfl
      · exact unprimed
  | rollback next =>
      apply invariant.advance_open valid found <;> simp only [script, Script.advance]
      · rfl
      · exact Storage.unprimed_rollback system.storage handle

theorem Invariant.beginPoll {member : Member} (invariant : Invariant namings topic system) :
    Invariant namings topic
      { system with
        storage := system.storage.beginIsolated.2
        polls := system.setPoll system.storage.beginIsolated.1
          (some { member, script := member.claiming namings topic }) } := by
  have fresh := invariant.consistent.fresh
  have idle : system.storage.beginIsolated.2.held? system.storage.fresh = some .idle :=
    Storage.held_begin_self fresh
  have begun := Storage.consistent_begin invariant.consistent
  refine invariant.stay ⟨begun.fresh, begun.snapshot, begun.single⟩
    (Storage.elsewhere_beginIsolated fresh) rfl invariant.account (fun other apart => if_neg apart)
    ?_ ?_
  · intro poll found
    cases ((if_pos rfl).symm.trans found : some (⟨member, _, []⟩ : Poll) = some poll)
    refine ⟨Nat.lt_succ_self _, Storage.unprimed_begin system.storage, ?_⟩
    rw [idle]
    exact .claiming rfl rfl
  · intro missing
    cases ((if_pos rfl).symm.trans missing : some (⟨member, _, []⟩ : Poll) = none)

theorem Invariant.drop (invariant : Invariant namings topic system) :
    Invariant namings topic
      { system with
        storage := system.storage.rollback handle
        polls := system.setPoll handle none } := by
  refine invariant.stay (Storage.consistent_rollback invariant.consistent)
    (Storage.elsewhere_rollback handle system.storage)
    (system.storage.rollback_frame handle).1 invariant.account (fun other apart => if_neg apart)
    ?_ ?_
  · intro poll found
    cases ((if_pos rfl).symm.trans found : none = some poll)
  · intro _ view changed held
    cases (system.storage.held_rollback_self handle).symm.trans held

end Polls

theorem Invariant.pause (invariant : Invariant namings topic system) (clock : Timestamp) :
    Invariant namings topic (system.withStorage { system.storage with clock }.settle) where
  consistent := ⟨invariant.consistent.fresh, invariant.consistent.snapshot,
    invariant.consistent.single⟩
  sound := invariant.sound
  polls := invariant.polls
  others := invariant.others
  account := invariant.account

theorem Invariant.step (valid : isTopic topic = true) (invariant : Invariant namings topic system)
    (event : Event) : Invariant namings topic (system.step namings topic event) := by
  cases event with
  | begin member =>
      simp only [System.step, Member.pollScript_valid valid]
      exact invariant.beginPoll
  | advance handle verdict =>
      cases found : system.polls handle with
      | none =>
          simp only [System.step, found]
          exact invariant
      | some poll =>
          simp only [System.step, found]
          exact invariant.advance valid found verdict
  | drop handle =>
      cases found : system.polls handle with
      | none =>
          simp only [System.step, found]
          exact invariant
      | some poll =>
          simp only [System.step, found]
          exact invariant.drop
  | publish codec settings initialized messages =>
      exact (Invariant.survives valid system).publish valid invariant rfl
  | setUp member => exact (Invariant.survives valid system).subscriber_setUp invariant
  | move move => exact (Invariant.survives valid system).moved invariant move
  | pause clock => exact invariant.pause clock

theorem Invariant.run (valid : isTopic topic = true) (invariant : Invariant namings topic system)
    (events : List Event) : Invariant namings topic (System.run namings topic events system) := by
  induction events generalizing system with
  | nil => exact invariant
  | cons event rest ih => exact ih (invariant.step valid event)

end Steps

end TopicLog
