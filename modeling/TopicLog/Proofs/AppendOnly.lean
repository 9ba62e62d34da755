import TopicLog.Proofs.Alone
import TopicLog.Proofs.Publishing
import TopicLog.Proofs.SideSteps

/-!
The messages of a topic while publishers, set-ups and polls take their steps in between each other. What an
open transaction wrote continues the committed log, since nobody else can commit while it has the write
lock; and what a poll wrote leaves the log as it is.
-/
namespace TopicLog

namespace Storage

/-- What each open transaction wrote is related to the committed database. -/
structure Tracks (related : Handle → Database → Database → Prop) (storage : Storage) : Prop where
  consistent : storage.Consistent
  written : ∀ handle view changed, storage.held? handle = some (.writing view changed) →
    related handle storage.committed view

namespace Tracks

variable {related : Handle → Database → Database → Prop} {storage : Storage} {handle : Handle}
  {command : Command}

theorem begin (tracks : storage.Tracks related) : storage.begin.2.Tracks related where
  consistent := consistent_begin tracks.consistent
  written other view changed held := by
    rw [held_begin tracks.consistent.fresh] at held
    split at held
    · cases held
    · exact tracks.written other view changed held

theorem execute (tracks : storage.Tracks related)
    (start : related handle storage.committed storage.committed)
    (keeps : ∀ plan, (storage.view handle).plan storage.clock command = .ok plan →
      related handle storage.committed (storage.view handle) →
      related handle storage.committed (leaves (storage.view handle) plan).after) :
    (storage.execute handle command).2.Tracks related where
  consistent := consistent_execute tracks.consistent
  written other view changed held := by
    rw [(storage.execute_frame handle command).1]
    by_cases mine : other = handle
    · subst mine
      exact execute_written tracks.consistent start (tracks.written other) keeps held
    · rw [held_execute_other mine] at held
      exact tracks.written other view changed held

theorem rollback (tracks : storage.Tracks related) (handle : Handle) :
    (storage.rollback handle).Tracks related where
  consistent := consistent_rollback tracks.consistent
  written other view changed held := by
    rw [held_rollback] at held
    rw [(storage.rollback_frame handle).1]
    split at held
    · cases held
    · exact tracks.written other view changed held

theorem commit (tracks : storage.Tracks related) (handle : Handle) :
    (storage.commit handle).Tracks related where
  consistent := consistent_commit tracks.consistent
  written other view changed held := by
    rw [held_commit] at held
    split at held
    · cases held
    · rename_i apart
      -- Another transaction wrote, so this one has no lock, and its end is no change.
      have unwritten : ∀ newest, storage.held? handle ≠ some (.writing newest true) := by
        intro newest writes
        exact apart (tracks.consistent.single other handle _ _ held writes rfl rfl)
      rw [(commit_unwritten unwritten).1]
      exact tracks.written other view changed held

end Tracks

end Storage

/-- A command that leaves the messages of a topic alone, in whatever database it runs. -/
def Namings.Silent (namings : Namings) (topic : String) (command : Command) : Prop :=
  ∀ database now plan, Database.plan database now command = .ok plan →
    (Storage.leaves database plan).after.contents? (namings.messageTable topic) =
      database.contents? (namings.messageTable topic)

/-- What a transaction may have written to the messages; a poll writes nothing. -/
def Namings.Wrote (namings : Namings) (topic : String) (isPoll : Handle → Bool) (handle : Handle)
    (before after : Database) : Prop :=
  namings.Grown topic before after ∧
    (isPoll handle = true → after.contents? (namings.messageTable topic) =
      before.contents? (namings.messageTable topic))

/-- A storage whose log continues another, and will continue itself whoever commits. -/
structure Namings.Appending (namings : Namings) (topic : String) (base : Log)
    (isPoll : Handle → Bool) (storage : Storage) : Prop where
  tracks : storage.Tracks (namings.Wrote topic isPoll)
  logged : namings.Logged topic storage.committed
  since : Log.Extends base (namings.log topic storage.committed)
  given : ∀ handle, isPoll handle = true → handle < storage.fresh

namespace Namings.Appending

variable {namings : Namings} {topic : String} {base : Log} {isPoll : Handle → Bool}
  {storage : Storage} {handle : Handle}

theorem start (appending : namings.Appending topic base isPoll storage) (handle : Handle) :
    namings.Wrote topic isPoll handle storage.committed storage.committed :=
  ⟨appending.logged.grown, fun _ => rfl⟩

theorem begin (appending : namings.Appending topic base isPoll storage) :
    namings.Appending topic base isPoll storage.begin.2 where
  tracks := appending.tracks.begin
  logged := appending.logged
  since := appending.since
  given handle polls := Nat.lt_succ_of_lt (appending.given handle polls)

theorem execute {command : Command} (appending : namings.Appending topic base isPoll storage)
    (keeps : ∀ plan, (storage.view handle).plan storage.clock command = .ok plan →
      namings.Wrote topic isPoll handle storage.committed (storage.view handle) →
      namings.Wrote topic isPoll handle storage.committed
        (Storage.leaves (storage.view handle) plan).after) :
    namings.Appending topic base isPoll (storage.execute handle command).2 := by
  obtain ⟨committed, -, -, fresh⟩ := storage.execute_frame handle command
  exact ⟨appending.tracks.execute (appending.start handle) keeps, committed ▸ appending.logged,
    committed ▸ appending.since, fresh ▸ appending.given⟩

theorem execute_silent {command : Command}
    (appending : namings.Appending topic base isPoll storage)
    (silent : namings.Silent topic command) :
    namings.Appending topic base isPoll (storage.execute handle command).2 := by
  apply appending.execute
  rintro plan planned ⟨grown, same⟩
  have kept := silent _ _ plan planned
  exact ⟨grown.trans (grown.logged.of_same kept), fun polls => kept.trans (same polls)⟩

theorem execute_publishes {action : Action} (valid : isTopic topic = true)
    (appending : namings.Appending topic base isPoll storage) (outside : isPoll handle = false)
    (allowed : namings.publishes topic action = true) :
    namings.Appending topic base isPoll (storage.execute handle (.run action)).2 := by
  apply appending.execute
  rintro plan planned ⟨grown, -⟩
  refine ⟨grown.trans ((plan_publishing valid allowed planned).grown grown.logged), ?_⟩
  intro polls
  cases outside.symm.trans polls

theorem rollback (appending : namings.Appending topic base isPoll storage) (handle : Handle) :
    namings.Appending topic base isPoll (storage.rollback handle) := by
  obtain ⟨committed, -, -, fresh, -⟩ := storage.rollback_frame handle
  exact ⟨appending.tracks.rollback handle, committed ▸ appending.logged, committed ▸ appending.since,
    fresh ▸ appending.given⟩

theorem commit_wrote (appending : namings.Appending topic base isPoll storage) (handle : Handle) :
    namings.Wrote topic isPoll handle storage.committed (storage.commit handle).committed := by
  by_cases written : ∃ view, storage.held? handle = some (.writing view true)
  · obtain ⟨view, held⟩ := written
    rw [(Storage.commit_written held).1]
    exact appending.tracks.written handle view true held
  · rw [(Storage.commit_unwritten fun view held => written ⟨view, held⟩).1]
    exact appending.start handle

theorem commit (appending : namings.Appending topic base isPoll storage) (handle : Handle) :
    namings.Appending topic base isPoll (storage.commit handle) := by
  obtain ⟨grown, -⟩ := appending.commit_wrote handle
  exact ⟨appending.tracks.commit handle, grown.logged, Log.extends_trans appending.since grown.grown,
    (storage.commit_frame handle).2.1 ▸ appending.given⟩

theorem survives (valid : isTopic topic = true) :
    namings.Survives topic (fun handle => isPoll handle = false)
      (namings.Appending topic base isPoll) where
  begin storage appending := by
    refine ⟨?_, appending.begin⟩
    rw [Bool.eq_false_iff]
    intro polls
    exact Nat.lt_irrefl _ (appending.given _ polls)
  execute _ _ _ appending outside allowed := appending.execute_publishes valid outside allowed
  commit _ handle appending _ := appending.commit handle
  rollback _ handle appending _ := appending.rollback handle

theorem regard {others : Handle → Bool} (appending : namings.Appending topic base isPoll storage)
    (given : ∀ handle, others handle = true → handle < storage.fresh)
    (idle : ∀ handle view changed, others handle = true →
      storage.held? handle = some (.writing view changed) → isPoll handle = true) :
    namings.Appending topic base others storage where
  tracks := by
    refine ⟨appending.tracks.consistent, fun handle view changed held => ?_⟩
    obtain ⟨grown, same⟩ := appending.tracks.written handle view changed held
    exact ⟨grown, fun polls => same (idle handle view changed polls held)⟩
  logged := appending.logged
  since := appending.since
  given := given

end Namings.Appending

/-! The statements of a poll. -/

section Silence

variable {namings : Namings} {topic : String}

theorem silent_claim (claim : Claim) : namings.Silent topic (.run (.claim claim)) := by
  intro database now plan planned
  simp only [Database.plan, Database.planAction] at planned
  cases bounded : database.bound claim with
  | error fault =>
      rw [bounded] at planned
      cases planned
  | ok bound =>
      rw [bounded] at planned
      cases planned
      rfl

theorem silent_fetch (table : String) (claim : Claim) (limit : Nat) :
    namings.Silent topic (.run (.fetch table claim limit)) := by
  intro database now plan planned
  simp only [Database.plan, Database.planAction, Database.fetch, bind, Except.bind, pure,
    Except.pure] at planned
  repeat' split at planned
  all_goals cases planned
  all_goals rfl

theorem onCursors_silent (valid : isTopic topic = true) {database : Database} {column : String}
    {change : List CursorRow → List CursorRow} {plan : Plan}
    (planned : database.onCursors (namings.cursorTable topic) column change = .ok plan) :
    (Storage.leaves database plan).after.contents? (namings.messageTable topic) =
      database.contents? (namings.messageTable topic) := by
  simp only [Database.onCursors, bind, Except.bind, pure, Except.pure] at planned
  repeat' split at planned
  all_goals cases planned
  exact Database.contents_put_other _ _ (Namings.apart_cursors namings valid)

theorem Member.silent (member : Member) (valid : isTopic topic = true) :
    (member.subscriber namings).Runs topic (namings.Silent topic) := by
  apply member.runs namings topic (silent_claim _) (silent_fetch _ _)
  · intro offset database now plan planned
    exact onCursors_silent valid planned
  · intro offset database now plan planned
    exact onCursors_silent valid planned

end Silence

/-! A whole run. -/

def System.isPoll (system : System) (handle : Handle) : Bool := (system.polls handle).isSome

structure AppendOnly (namings : Namings) (topic : String) (base : Log) (system : System) : Prop where
  appending : namings.Appending topic base system.isPoll system.storage
  silent : ∀ handle poll, system.polls handle = some poll →
    poll.script.Runs (namings.Silent topic)

section Run

variable {namings : Namings} {topic : String} {base : Log} {system : System} {handle : Handle}
  {poll : Poll} {verdict : Verdict}

theorem AppendOnly.beginPoll {member : Member} {script : Script (Except Failure Nat)}
    (appendOnly : AppendOnly namings topic base system) (silent : script.Runs (namings.Silent topic)) :
    AppendOnly namings topic base
      { system with
        storage := system.storage.beginIsolated.2
        polls := system.setPoll system.storage.beginIsolated.1 (some { member, script }) } := by
  have begun := appendOnly.appending.begin
  have isolated : namings.Appending topic base system.isPoll system.storage.beginIsolated.2 :=
    ⟨⟨⟨begun.tracks.consistent.fresh, begun.tracks.consistent.snapshot,
      begun.tracks.consistent.single⟩, begun.tracks.written⟩, begun.logged, begun.since, begun.given⟩
  constructor
  · apply isolated.regard
    · intro handle polls
      by_cases mine : handle = system.storage.fresh
      · exact mine ▸ Nat.lt_succ_self _
      · apply begun.given handle
        simpa [System.isPoll, System.setPoll, Storage.beginIsolated, Storage.begin, mine] using polls
    · intro handle view changed polls held
      by_cases mine : handle = system.storage.fresh
      · subst mine
        have idle : system.storage.beginIsolated.2.held? system.storage.fresh = some .idle :=
          Storage.held_begin_self appendOnly.appending.tracks.consistent.fresh
        cases idle.symm.trans held
      · simpa [System.isPoll, System.setPoll, Storage.beginIsolated, Storage.begin, mine] using polls
  · intro handle poll found
    by_cases mine : handle = system.storage.fresh
    · cases ((if_pos mine).symm.trans found : some (⟨member, script, []⟩ : Poll) = some poll)
      exact silent
    · exact appendOnly.silent handle poll ((if_neg mine).symm.trans found)

theorem AppendOnly.stepped (appendOnly : AppendOnly namings topic base system) (verdict : Verdict)
    (found : system.polls handle = some poll) :
    let stepped := poll.script.advance handle verdict system.storage
    namings.Appending topic base system.isPoll stepped.storage ∧
      stepped.script.Runs (namings.Silent topic) ∧
      stepped.storage.committed.contents? (namings.messageTable topic) =
        system.storage.committed.contents? (namings.messageTable topic) := by
  have silent := appendOnly.silent handle poll found
  have polls : system.isPoll handle = true := by simp [System.isPoll, found]
  cases script : poll.script with
  | done result => exact ⟨appendOnly.appending, trivial, rfl⟩
  | execute command next =>
      rw [script] at silent
      exact ⟨appendOnly.appending.execute_silent silent.1, silent.2 _,
        congrArg (Database.contents? · _) (system.storage.execute_frame handle command).1⟩
  | hand delivery next =>
      rw [script] at silent
      exact ⟨appendOnly.appending, silent verdict, rfl⟩
  | commit next =>
      rw [script] at silent
      exact ⟨appendOnly.appending.commit handle, silent,
        (appendOnly.appending.commit_wrote handle).2 polls⟩
  | rollback next =>
      rw [script] at silent
      exact ⟨appendOnly.appending.rollback handle, silent,
        congrArg (Database.contents? · _) (system.storage.rollback_frame handle).1⟩

theorem AppendOnly.advance (appendOnly : AppendOnly namings topic base system)
    (found : system.polls handle = some poll) :
    AppendOnly namings topic base (system.advance handle verdict poll) := by
  obtain ⟨appending, silent, -⟩ := appendOnly.stepped verdict found
  have same : (system.advance handle verdict poll).isPoll = system.isPoll := by
    funext other
    by_cases mine : other = handle <;>
      simp [System.isPoll, System.advance, System.setPoll, mine, found]
  constructor
  · rw [same]
    exact appending
  · intro other next remains
    by_cases mine : other = handle
    · subst mine
      cases (if_pos rfl).symm.trans remains
      exact silent
    · exact appendOnly.silent other next ((if_neg mine).symm.trans remains)

theorem AppendOnly.drop (appendOnly : AppendOnly namings topic base system) :
    AppendOnly namings topic base
      { system with
        storage := system.storage.rollback handle
        polls := system.setPoll handle none } := by
  have appending := appendOnly.appending.rollback handle
  -- Whoever polls after the drop polled before it, so nobody outside has to be looked at anew.
  have fewer {other : Handle} (polls : System.isPoll
      { system with
        storage := system.storage.rollback handle
        polls := system.setPoll handle none } other = true) : system.isPoll other = true := by
    by_cases mine : other = handle
    · simp [System.isPoll, System.setPoll, mine] at polls
    · simpa [System.isPoll, System.setPoll, mine] using polls
  constructor
  · apply appending.regard
    · intro other polls
      exact appending.given other (fewer polls)
    · intro other _ _ polls _
      exact fewer polls
  · intro other next remains
    by_cases mine : other = handle
    · cases (if_pos mine).symm.trans remains
    · exact appendOnly.silent other next ((if_neg mine).symm.trans remains)

theorem AppendOnly.step (valid : isTopic topic = true)
    (appendOnly : AppendOnly namings topic base system) (event : Event) :
    AppendOnly namings topic base (system.step namings topic event) := by
  have survives : namings.Survives topic (fun handle => system.isPoll handle = false)
      (namings.Appending topic base system.isPoll) := Namings.Appending.survives valid
  cases event with
  | begin member =>
      simp only [System.step]
      split
      · exact appendOnly
      · rename_i script built
        exact appendOnly.beginPoll (Subscriber.poll_runs (member.silent valid) built)
  | advance handle verdict =>
      cases found : system.polls handle with
      | none =>
          simp only [System.step, found]
          exact appendOnly
      | some poll =>
          simp only [System.step, found]
          exact appendOnly.advance found
  | drop handle =>
      cases found : system.polls handle with
      | none =>
          simp only [System.step, found]
          exact appendOnly
      | some poll =>
          simp only [System.step, found]
          exact appendOnly.drop
  | publish codec settings initialized messages =>
      exact ⟨survives.publish valid appendOnly.appending rfl, appendOnly.silent⟩
  | setUp member =>
      exact ⟨survives.subscriber_setUp appendOnly.appending, appendOnly.silent⟩
  | move move =>
      refine ⟨?_, appendOnly.silent⟩
      change namings.Appending topic base system.isPoll (system.moved namings topic move)
      rw [system.moved_on]
      apply survives.move _ appendOnly.appending
      intro handle outside
      simpa [System.isPoll] using outside
  | pause clock =>
      have appending := appendOnly.appending
      exact ⟨⟨⟨⟨appending.tracks.consistent.fresh, appending.tracks.consistent.snapshot,
        appending.tracks.consistent.single⟩, appending.tracks.written⟩, appending.logged,
        appending.since, appending.given⟩, appendOnly.silent⟩

theorem AppendOnly.run (valid : isTopic topic = true)
    (appendOnly : AppendOnly namings topic base system) (events : List Event) :
    AppendOnly namings topic base (System.run namings topic events system) := by
  induction events generalizing system with
  | nil => exact appendOnly
  | cons event rest ih => exact ih (appendOnly.step valid event)

end Run

end TopicLog
