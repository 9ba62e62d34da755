import TopicLog.Proofs.CursorViews
import TopicLog.Proofs.Exclusion
import TopicLog.Proofs.Undisturbed

/-!
The cursors of a topic at work. However publishers, set-ups and polls take their steps in between each
other, every committed cursor is settled, no group loses its cursor or falls back, and nobody but a
poll that acknowledged something moves one.
-/
namespace TopicLog

/-! What a transaction sees. -/

namespace Storage

variable {storage after : Storage} {handle : Handle} {hold : Hold}

theorem view_of_hold (same : after.hold handle = storage.hold handle)
    (started : storage.hold handle ≠ .idle) : after.view handle = storage.view handle := by
  rw [view, view, same]
  cases held : storage.hold handle with
  | idle => exact absurd held started
  | reading view version => rfl
  | writing view changed => rfl

theorem execute_view (held : storage.held? handle = some hold) (action : Action) :
    let ran := storage.execute handle (.run action)
    (∃ fault, ran.1 = .error fault ∧ ran.2.view handle = storage.view handle) ∨
      ∃ plan effect, (storage.view handle).plan storage.clock (.run action) = .ok plan ∧
        plan.outcome = .ok effect ∧ ran.1 = .ok effect ∧ ran.2.view handle = effect.after := by
  intro ran
  have own := hold_of_held held
  have committed : ran.2.committed = storage.committed :=
    (storage.execute_frame handle (.run action)).1
  have holding {next : Hold} (holds : ran.2.holds = (storage.setHold handle next).holds) :
      ran.2.hold handle = next := by
    apply hold_of_held
    rw [held?, holds]
    exact (held_setHold next).trans (by rw [if_pos rfl, held]; rfl)
  rcases storage.execute_cases handle (.run action) with
    ⟨fault, failed, holds⟩ | ⟨plan, planned, answered, ways⟩
  · refine .inl ⟨fault, failed, ?_⟩
    rw [view, view, hold_eq, hold_eq, held?, holds, committed]
    rfl
  · have sees : ran.2.view handle = (leaves (storage.view handle) plan).after := by
      rcases ways with ⟨unlocked, holds⟩ | ⟨-, -, -, holds⟩
      · -- Without the lock nothing was written, and the transaction sees its snapshot.
        have reads : plan.writes = false := by
          simp only [takesLock, Bool.or_eq_false_iff] at unlocked
          exact unlocked.1
        rw [(Database.honest_run planned).reads reads, view, view, holding holds, holdAfterRead, own]
        cases hold <;> rfl
      · obtain ⟨changed, writing, -⟩ :=
          holdAfterWrite_writing storage handle (leaves (storage.view handle) plan)
        rw [view, holding holds, writing]
    cases outcome : plan.outcome with
    | error fault =>
        refine .inl ⟨fault, answered.trans outcome, sees.trans ?_⟩
        simp [leaves, outcome]
    | ok effect =>
        refine .inr ⟨plan, effect, planned, outcome, answered.trans outcome, sees.trans ?_⟩
        simp [leaves, outcome]

end Storage

/-! A script that takes its steps between others. -/

section Steps

variable {α : Type} {seen committed : Database → Prop} {storage : Storage} {handle : Handle}

theorem Script.Upholds.advance {script : Script α}
    (opened : ∀ command next, script = .execute command next → ∃ hold,
      storage.held? handle = some hold)
    (sees : seen (storage.view handle))
    (upholds : script.Upholds seen committed (storage.view handle)) (verdict : Verdict) :
    let stepped := script.advance handle verdict storage
    stepped.storage.hold handle ≠ .idle → seen (stepped.storage.view handle) ∧
      stepped.script.Upholds seen committed (stepped.storage.view handle) := by
  intro stepped started
  cases script with
  | done result => exact ⟨sees, trivial⟩
  | execute command next =>
      obtain ⟨⟨action, rfl⟩, failed, later⟩ := upholds
      obtain ⟨hold, held⟩ := opened _ next rfl
      rcases Storage.execute_view held action with
        ⟨fault, answer, same⟩ | ⟨plan, effect, planned, outcome, answer, after⟩
      · simp only [stepped, Script.advance, answer, same]
        exact ⟨sees, failed fault⟩
      · simp only [stepped, Script.advance, answer, after]
        exact later storage.clock plan effect planned outcome
  | hand delivery next => exact ⟨sees, upholds verdict⟩
  | commit next =>
      have ended : (storage.commit handle).hold handle = .idle := by
        rw [Storage.hold_eq, storage.held_commit_self handle]
        rfl
      exact absurd ended started
  | rollback next =>
      have ended : (storage.rollback handle).hold handle = .idle := by
        rw [Storage.hold_eq, storage.held_rollback_self handle]
        rfl
      exact absurd ended started

theorem Script.Upholds.commit {next : Script α} (before : committed storage.committed)
    (upholds : (Script.commit next).Upholds seen committed (storage.view handle)) :
    committed (storage.commit handle).committed := by
  by_cases written : ∃ view, storage.held? handle = some (.writing view true)
  · obtain ⟨view, held⟩ := written
    have sees : storage.view handle = view := by
      rw [Storage.view, Storage.hold_of_held held]
    rw [(Storage.commit_written held).1, ← sees]
    exact upholds
  · rw [(Storage.commit_unwritten fun view held => written ⟨view, held⟩).1]
    exact before

end Steps

/-! What an event does to the committed database. -/

section Committed

variable {namings : Namings} {topic : String} {system : System} {event : Event} {handle : Handle}
  {poll : Poll}

theorem published_survives (valid : isTopic topic = true) (system : System) (before : Database) :
    namings.Survives topic (fun handle => system.polls handle = none) fun storage =>
      Invariant namings topic (system.withStorage storage) ∧
        namings.Published topic before storage.committed := by
  have survives : namings.Survives topic _ _ := Invariant.survives valid system
  constructor
  · intro storage ⟨invariant, published⟩
    obtain ⟨side, begun⟩ := survives.begin storage invariant
    exact ⟨side, begun, published⟩
  · intro storage handle action ⟨invariant, published⟩ side allowed
    have kept : (storage.execute handle (.run action)).2.committed = storage.committed :=
      (storage.execute_frame handle (.run action)).1
    exact ⟨survives.execute storage handle action invariant side allowed, kept ▸ published⟩
  · intro storage handle ⟨invariant, published⟩ side
    refine ⟨survives.commit storage handle invariant side, ?_⟩
    by_cases written : ∃ view, storage.held? handle = some (.writing view true)
    · obtain ⟨view, held⟩ := written
      rw [(Storage.commit_written held).1]
      exact published.trans (invariant.others handle view true side held)
    · rw [(Storage.commit_unwritten fun view held => written ⟨view, held⟩).1]
      exact published
  · intro storage handle ⟨invariant, published⟩ side
    have kept : (storage.rollback handle).committed = storage.committed :=
      (storage.rollback_frame handle).1
    exact ⟨survives.rollback storage handle invariant side, kept ▸ published⟩

theorem outside_published (valid : isTopic topic = true) (invariant : Invariant namings topic system)
    (outside : event.isOutside = true) :
    namings.Published topic system.storage.committed
      (system.step namings topic event).storage.committed := by
  have survives : namings.Survives topic _ _ :=
    published_survives valid system system.storage.committed
  have here : Invariant namings topic (system.withStorage system.storage) ∧
      namings.Published topic system.storage.committed system.storage.committed :=
    ⟨invariant, invariant.sound.published⟩
  cases event with
  | begin | advance | drop => cases outside
  | publish codec settings initialized messages => exact (survives.publish valid here rfl).2
  | setUp member => exact (survives.subscriber_setUp here).2
  | move move => exact (survives.moved here move).2
  | pause clock => exact here.2

/-- A poll that commits moved the bound of its group over the rows that it acknowledged, or acknowledged
none and changed nothing. -/
theorem Invariant.committing (invariant : Invariant namings topic system)
    (found : system.polls handle = some poll) (commits : poll.script.commits = true)
    (verdict : Verdict) :
    let after := (system.advance handle verdict poll).storage.committed
    (poll.journal.acknowledged = [] ∧ after = system.storage.committed) ∨
      ∃ past rest, Underway namings topic poll.member system.storage.committed after poll.journal
        past rest := by
  intro after
  obtain ⟨next, script⟩ := Script.commit_of_commits commits
  have storage : after = (system.storage.commit handle).committed := by
    simp only [after, System.advance, script, Script.advance]
  rcases (invariant.polls handle poll found).2.2.committing script with
    ⟨view, version, held, calm⟩ | ⟨view, past, rest, held, underway⟩
  · have unwritten : ∀ newest, system.storage.held? handle ≠ some (.writing newest true) := by
      intro newest writes
      cases held.symm.trans writes
    exact .inl ⟨calm.acknowledged, storage.trans (Storage.commit_unwritten unwritten).1⟩
  · refine .inr ⟨past, rest, ?_⟩
    rw [storage, (Storage.commit_written held).1]
    exact underway

theorem Invariant.step_committed (valid : isTopic topic = true)
    (invariant : Invariant namings topic system) (event : Event) :
    let after := (system.step namings topic event).storage.committed
    namings.Published topic system.storage.committed after ∨
      ∃ (poll : Poll) (past rest : List LogRow), Underway namings topic poll.member
        system.storage.committed after poll.journal past rest := by
  have stays := invariant.sound.published
  by_cases outside : event.isOutside = true
  · exact .inl (outside_published valid invariant outside)
  cases event with
  | publish | setUp | move | pause => exact absurd rfl outside
  | begin member =>
      simp only [System.step, Member.pollScript_valid valid]
      exact .inl stays
  | drop handle =>
      cases found : system.polls handle with
      | none =>
          simp only [System.step, found]
          exact .inl stays
      | some poll =>
          simp only [System.step, found]
          rw [(system.storage.rollback_frame handle).1]
          exact .inl stays
  | advance handle verdict =>
      cases found : system.polls handle with
      | none =>
          simp only [System.step, found]
          exact .inl stays
      | some poll =>
          simp only [System.step, found]
          cases commits : poll.script.commits with
          | true =>
              rcases invariant.committing found commits verdict with
                ⟨-, same⟩ | ⟨past, rest, underway⟩
              · rw [same]
                exact .inl stays
              · exact .inr ⟨poll, past, rest, underway⟩
          | false =>
              have unended : (poll.script.advance handle verdict
                  system.storage).journal.isCommitted = false := by
                cases script : poll.script with
                | commit next => simp [script, Script.commits] at commits
                | _ => rfl
              rw [show (system.advance handle verdict poll).storage.committed = _ from
                poll.script.advance_committed handle verdict system.storage unended]
              exact .inl stays

end Committed

/-! The system. -/

/-- A system whose committed cursors are settled, and in which every poll that is under way sees level
cursors and will commit settled ones. -/
structure System.Levelled (namings : Namings) (topic : String) (system : System) : Prop where
  invariant : Invariant namings topic system
  committed : namings.Settled topic system.storage.committed
  polls : ∀ handle poll, system.polls handle = some poll → system.storage.hold handle ≠ .idle →
    namings.Level topic (system.storage.view handle) ∧
      poll.script.Upholds (namings.Level topic) (namings.Settled topic) (system.storage.view handle)

section Levelled

variable {namings : Namings} {topic : String} {system after : System} {handle : Handle} {poll : Poll}

theorem System.Levelled.seen (valid : isTopic topic = true)
    (levelled : system.Levelled namings topic) (found : system.polls handle = some poll) :
    namings.Level topic (system.storage.view handle) ∧
      poll.script.Upholds (namings.Level topic) (namings.Settled topic)
        (system.storage.view handle) := by
  by_cases started : system.storage.hold handle = .idle
  · have sees : system.storage.view handle = system.storage.committed := by
      rw [Storage.view, started]
    rw [sees]
    refine ⟨levelled.committed.level, ?_⟩
    have stage := (levelled.invariant.polls handle poll found).2.2
    rw [Storage.hold_eq] at started
    generalize system.storage.held? handle = held at stage started
    cases stage with
    | claiming script => exact script ▸ poll.member.claiming_upholds valid levelled.committed
    | leaving script => exact script ▸ trivial
    | ended script => exact script ▸ trivial
    | fetching | fetched | handing | accepted | delivering => cases started
  · exact levelled.polls handle poll found started

/-- A step after which every poll is where it was, or sees level cursors again. -/
theorem System.Levelled.next (levelled : system.Levelled namings topic)
    (invariant : Invariant namings topic after)
    (committed : namings.Settled topic after.storage.committed)
    (polls : ∀ handle poll, after.polls handle = some poll →
      (system.polls handle = some poll ∧
        after.storage.hold handle = system.storage.hold handle) ∨
      (after.storage.hold handle ≠ .idle → namings.Level topic (after.storage.view handle) ∧
        poll.script.Upholds (namings.Level topic) (namings.Settled topic)
          (after.storage.view handle))) : after.Levelled namings topic where
  invariant := invariant
  committed := committed
  polls handle poll found started := by
    rcases polls handle poll found with ⟨before, same⟩ | sees
    · rw [same] at started
      rw [Storage.view_of_hold same started]
      exact levelled.polls handle poll before started
    · exact sees started

theorem Stage.opened {committed : Database} {held : Option Hold}
    (stage : Stage namings topic committed held poll) {command : Command}
    {next : Except Fault Effect → Script (Except Failure Nat)}
    (script : poll.script = .execute command next) : ∃ hold, held = some hold := by
  cases stage with
  | ended own => cases own.symm.trans script
  | _ => exact ⟨_, rfl⟩

theorem System.Levelled.advance (valid : isTopic topic = true)
    (levelled : system.Levelled namings topic) (found : system.polls handle = some poll)
    (verdict : Verdict) : (system.advance handle verdict poll).Levelled namings topic := by
  obtain ⟨level, upholds⟩ := levelled.seen valid found
  have stage := (levelled.invariant.polls handle poll found).2.2
  apply levelled.next (levelled.invariant.advance valid found verdict)
  · cases script : poll.script with
    | commit next =>
        rw [script] at upholds
        simp only [System.advance, script, Script.advance]
        exact upholds.commit levelled.committed
    | execute command next =>
        simp only [System.advance, script, Script.advance]
        rw [(system.storage.execute_frame handle command).1]
        exact levelled.committed
    | rollback next =>
        simp only [System.advance, script, Script.advance]
        rw [(system.storage.rollback_frame handle).1]
        exact levelled.committed
    | done | hand =>
        simp only [System.advance, script, Script.advance]
        exact levelled.committed
  · intro other otherPoll moved
    by_cases mine : other = handle
    · subst mine
      cases (if_pos rfl).symm.trans moved
      exact .inr (upholds.advance (fun _ _ script => stage.opened script) level verdict)
    · have elsewhere := poll.script.advance_elsewhere handle verdict system.storage
      refine .inl ⟨(if_neg mine).symm.trans moved, ?_⟩
      rw [Storage.hold_eq, Storage.hold_eq]
      exact congrArg (Option.getD · .idle) (elsewhere.held other mine)

theorem System.Levelled.step (valid : isTopic topic = true)
    (levelled : system.Levelled namings topic) (event : Event) :
    (system.step namings topic event).Levelled namings topic := by
  have invariant := levelled.invariant.step valid event
  by_cases outside : event.isOutside = true
  · obtain ⟨forward, polls⟩ := forward_step valid levelled.invariant outside
    refine levelled.next invariant
      (levelled.committed.published (outside_published valid levelled.invariant outside)) ?_
    intro handle poll found
    rw [polls] at found
    refine .inl ⟨found, ?_⟩
    rw [Storage.hold_eq, Storage.hold_eq, forward.held handle poll found]
  cases event with
  | publish | setUp | move | pause => exact absurd rfl outside
  | begin member =>
      have fresh := levelled.invariant.consistent.fresh
      simp only [System.step, Member.pollScript_valid valid] at invariant ⊢
      apply levelled.next invariant levelled.committed
      intro handle poll found
      by_cases mine : handle = system.storage.fresh
      · refine .inr fun started => absurd ?_ started
        subst mine
        exact Storage.hold_of_held (Storage.held_begin_self fresh)
      · refine .inl ⟨(if_neg mine).symm.trans found, ?_⟩
        have elsewhere := Storage.elsewhere_beginIsolated fresh
        exact congrArg (Option.getD · .idle) (elsewhere.held handle mine)
  | advance handle verdict =>
      cases found : system.polls handle with
      | none =>
          simp only [System.step, found]
          exact levelled
      | some poll =>
          simp only [System.step, found]
          exact levelled.advance valid found verdict
  | drop handle =>
      cases found : system.polls handle with
      | none =>
          simp only [System.step, found]
          exact levelled
      | some poll =>
          have kept := (system.storage.rollback_frame handle).1
          simp only [System.step, found] at invariant ⊢
          apply levelled.next invariant (kept ▸ levelled.committed)
          intro other otherPoll left
          by_cases mine : other = handle
          · cases (if_pos mine).symm.trans left
          · refine .inl ⟨(if_neg mine).symm.trans left, ?_⟩
            have elsewhere := Storage.elsewhere_rollback handle system.storage
            exact congrArg (Option.getD · .idle) (elsewhere.held other mine)

theorem System.Levelled.run (valid : isTopic topic = true)
    (levelled : system.Levelled namings topic) (events : List Event) :
    (System.run namings topic events system).Levelled namings topic := by
  induction events generalizing system with
  | nil => exact levelled
  | cons event rest ih => exact ih (levelled.step valid event)

theorem Namings.Blank.levelled {storage : Storage} (blank : namings.Blank topic storage) :
    System.Levelled namings topic { storage } where
  invariant := blank.invariant
  committed := by
    refine ⟨blank.sound, ?_⟩
    rw [blank.cursors_empty]
    exact nofun
  polls := nofun

theorem Underway.above {member : Member} {committed view : Database} {journal : Journal}
    {past rest : List LogRow}
    (underway : Underway namings topic member committed view journal past rest) :
    ∀ row ∈ past, namings.acked topic committed member.group < row.offset := by
  intro row inside
  have inBatch : row ∈ member.batch namings topic committed := by
    rw [underway.batch]
    exact List.mem_append_left rest inside
  exact (Log.batch_above inBatch).2

theorem Invariant.acked_le (valid : isTopic topic = true) (invariant : Invariant namings topic system)
    (event : Event) (group : String) :
    namings.acked topic system.storage.committed group ≤
      namings.acked topic (system.step namings topic event).storage.committed group := by
  rcases invariant.step_committed valid event with published | ⟨poll, past, rest, underway⟩
  · exact Int.le_of_eq (published.acked group).symm
  · by_cases mine : group = poll.member.group
    · rw [mine, underway.advanced.own]
      exact Log.le_reached underway.above
    · exact Int.le_of_eq (underway.advanced.other group mine).symm

theorem Invariant.acked_lt (invariant : Invariant namings topic system)
    (found : system.polls handle = some poll) (commits : poll.script.commits = true)
    (acknowledged : poll.journal.acknowledged ≠ []) (verdict : Verdict) :
    namings.acked topic system.storage.committed poll.group <
      namings.acked topic (system.advance handle verdict poll).storage.committed poll.group := by
  rcases invariant.committing found commits verdict with ⟨none, -⟩ | ⟨past, rest, underway⟩
  · exact absurd none acknowledged
  · have moved := underway.advanced.own
    rw [underway.acknowledged] at acknowledged
    rcases List.eq_nil_or_concat past with rfl | ⟨earlier, last, rfl⟩
    · exact absurd rfl acknowledged
    · rw [List.concat_eq_append, Log.reached_snoc] at moved
      have above := underway.above last (by simp)
      exact lt_of_lt_of_eq above moved.symm

end Levelled

/-- Between any two events, every committed cursor is at a message of the topic, and no poll sees one
that consumed less than it acknowledged. The next event takes no group its cursor and moves none back,
and none at all if it is a publisher's or a set-up's; a poll that commits an acknowledgment moves the
cursor of its group ahead. -/
theorem cursors_are_settled (namings : Namings) {topic : String} (valid : isTopic topic = true)
    {storage : Storage} (blank : namings.Blank topic storage) (events : List Event) :
    let system := System.run namings topic events { storage }
    let before := system.storage.committed
    (∀ row ∈ namings.cursorRows topic before, row.At (namings.log topic before)) ∧
    (∀ handle poll, system.polls handle = some poll →
      ∀ row ∈ namings.cursorRows topic (system.storage.view handle), row.Level) ∧
    (∀ event : Event,
      let after := (system.step namings topic event).storage.committed
      (∀ group row, Cursors.find? group (namings.cursorRows topic before) = some row →
        ∃ later, Cursors.find? group (namings.cursorRows topic after) = some later ∧
          ∃ old new : Int, row.acked = .int old ∧ later.acked = .int new ∧ old ≤ new) ∧
      (event.isOutside = true →
        namings.cursorRows topic after = namings.cursorRows topic before)) ∧
    ∀ handle poll verdict, system.polls handle = some poll → poll.script.commits = true →
      poll.journal.acknowledged ≠ [] →
      let after := (system.step namings topic (.advance handle verdict)).storage.committed
      ∃ later, Cursors.find? poll.group (namings.cursorRows topic after) = some later ∧
        ∃ new : Int, later.acked = .int new ∧ namings.acked topic before poll.group < new := by
  intro system before
  have levelled : system.Levelled namings topic := blank.levelled.run valid events
  have invariant := levelled.invariant
  refine ⟨levelled.committed.rows, fun handle poll found => (levelled.seen valid found).1, ?_, ?_⟩
  · intro event after
    have settled : namings.Settled topic after := (levelled.step valid event).committed
    constructor
    · intro group row found
      obtain ⟨acked, begun⟩ := levelled.committed.found found
      have grows := invariant.acked_le valid event group
      obtain ⟨later, there, reached⟩ := settled.find (Int.lt_of_lt_of_le begun grows)
      exact ⟨later, there, _, _, acked, reached, grows⟩
    · intro outside
      exact (outside_published valid invariant outside).cursors
  · intro handle poll verdict found commits acknowledged after
    have settled : namings.Settled topic after := (levelled.step valid _).committed
    have same : after = (system.advance handle verdict poll).storage.committed := by
      simp only [after, System.step, found]
    have moved := invariant.acked_lt found commits acknowledged verdict
    rw [← same] at moved
    have begun := (invariant.sound.within poll.group).1
    obtain ⟨later, there, reached⟩ := settled.find (Int.lt_of_le_of_lt begun moved)
    exact ⟨later, there, _, reached, moved⟩

/-- In the race, the first member sees its own cursor ahead while its handler is at work on the second
message, and its commit makes the cursor of the group. -/
theorem cursors_are_settled_race :
    isTopic "orders" = true ∧ Namings.usual.Blank "orders" { clock := newYear } ∧
      (let system := System.run Namings.usual "orders" (race.take 13) { storage := { clock := newYear } }
      let rows := Namings.usual.cursorRows "orders" (system.storage.view 3)
      rows = [⟨.text "billing", .int 1, .int 2⟩] ∧ ∀ row ∈ rows, row.Level) ∧
      let system := System.run Namings.usual "orders" (race.take 15) { storage := { clock := newYear } }
      let after := (system.step .usual "orders" (.advance 3 .accepted)).storage.committed
      Namings.usual.cursorRows "orders" system.storage.committed = [] ∧
        ∃ later, Cursors.find? "billing" (Namings.usual.cursorRows "orders" after) = some later ∧
          ∃ new : Int, later.acked = .int new ∧ 0 < new := by
  have topic : isTopic "orders" = true := by decide
  have blank : Namings.usual.Blank "orders" { clock := newYear } := blank_new _ _ _
  refine ⟨topic, blank, ?_, ?_⟩
  · intro system rows
    have running : (system.polls 3).isSome = true := by decide +kernel
    obtain ⟨poll, found⟩ := Option.isSome_iff_exists.mp running
    have level := (cursors_are_settled Namings.usual topic blank (race.take 13)).2.1 3 poll found
    exact ⟨by decide +kernel, level⟩
  · intro system after
    have winning : (system.polls 3).any (fun poll => poll.script.commits &&
        poll.journal.acknowledged ≠ [] && poll.group = "billing") = true := by decide +kernel
    obtain ⟨poll, found, commits⟩ := (Option.any_eq_true _ _).mp winning
    obtain ⟨⟨ends, accepted⟩, group⟩ : (poll.script.commits = true ∧ poll.journal.acknowledged ≠ []) ∧
        poll.group = "billing" := by simpa using commits
    obtain ⟨later, there, new, reached, moved⟩ :=
      (cursors_are_settled Namings.usual topic blank (race.take 15)).2.2.2 3 poll .accepted found
        ends accepted
    have empty : Namings.usual.cursorRows "orders" system.storage.committed = [] := by
      decide +kernel
    have zero : Namings.usual.acked "orders" system.storage.committed poll.group = 0 := by
      rw [Namings.acked, empty]
      rfl
    rw [group] at there
    rw [zero] at moved
    exact ⟨empty, later, there, new, reached, moved⟩

end TopicLog
