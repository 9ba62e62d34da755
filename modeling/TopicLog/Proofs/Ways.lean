import TopicLog.Subscriber
import TopicLog.Proofs.Journal

/-!
The ways that a script may go, whatever the database answers and whatever the handler says. A run of the
script goes one of them, alone or with steps of other transactions in between.
-/
namespace TopicLog

namespace Script

variable {α σ : Type}

/-- A script may leave a journal and end with a result, or without one if its handler does not
return. -/
inductive Goes : Script α → Journal → Option α → Prop where
  | done (result : α) : Goes (.done result) [] (some result)
  | execute {command : Command} {next : Except Fault Effect → Script α}
      {answer : Except Fault Effect} {journal : Journal} {result : Option α}
      (later : Goes (next answer) journal result) :
      Goes (.execute command next) (.executed command answer :: journal) result
  | hand {delivery : Delivery} {next : Verdict → Script α} {verdict : Verdict} {journal : Journal}
      {result : Option α} (later : Goes (next verdict) journal result) :
      Goes (.hand delivery next) (.handed delivery (some verdict) :: journal) result
  | hang (delivery : Delivery) (next : Verdict → Script α) :
      Goes (.hand delivery next) [.handed delivery none, .rolledBack] none
  | commit {next : Script α} {journal : Journal} {result : Option α}
      (later : Goes next journal result) : Goes (.commit next) (.committed :: journal) result
  | rollback {next : Script α} {journal : Journal} {result : Option α}
      (later : Goes next journal result) : Goes (.rollback next) (.rolledBack :: journal) result

theorem journal_goes (handler : Handler σ) (handle : Handle) (script : Script α) (state : σ)
    (storage : Storage) :
    script.Goes (script.journal handler handle state storage)
      (script.run handler handle state storage).1 := by
  induction script generalizing state storage with
  | done result => exact .done result
  | execute command next ih => exact .execute (ih _ state _)
  | hand delivery next ih =>
      cases judged : handler delivery state with
      | mk verdict after =>
          cases verdict with
          | none =>
              simp only [journal, run, judged]
              exact .hang delivery next
          | some verdict =>
              simp only [journal, run, judged]
              exact .hand (ih verdict after storage)
  | commit next ih => exact .commit (ih state _)
  | rollback next ih => exact .rollback (ih state _)

variable {journal : Journal} {result : Option (Except Failure α)}

theorem goes_statement {statement : Statement} {next : Effect → Script (Except Failure α)}
    (goes : (Script.statement statement next).Goes journal result) :
    (∃ fault, journal = [.executed (.run statement.action) (.error fault), .rolledBack] ∧
      result = some (.error (.ofFault fault))) ∨
    ∃ effect later, journal = .executed (.run statement.action) (.ok effect) :: later ∧
      (next effect).Goes later result := by
  unfold Script.statement at goes
  cases goes with
  | @execute _ _ answer later _ goes =>
      cases answer with
      | error fault =>
          cases goes with
          | rollback goes =>
              cases goes
              exact .inl ⟨fault, rfl, rfl⟩
      | ok effect => exact .inr ⟨effect, later, rfl, goes⟩

theorem goes_require {β : Type} {wanted : Except Failure β} {next : β → Script (Except Failure α)}
    (goes : (Script.require wanted next).Goes journal result) :
    (∃ failure, wanted = .error failure ∧ journal = [.rolledBack] ∧
      result = some (.error failure)) ∨
    ∃ value, wanted = .ok value ∧ (next value).Goes journal result := by
  cases wanted with
  | error failure =>
      simp only [Script.require] at goes
      cases goes with
      | rollback goes =>
          cases goes
          exact .inl ⟨failure, rfl, rfl, rfl⟩
  | ok value => exact .inr ⟨value, rfl, goes⟩

theorem goes_hand {delivery : Delivery} {next : Verdict → Script (Except Failure α)}
    (goes : (Script.hand delivery next).Goes journal result) :
    (journal = [.handed delivery none, .rolledBack] ∧ result = none) ∨
    ∃ verdict later, journal = .handed delivery (some verdict) :: later ∧
      (next verdict).Goes later result := by
  cases goes with
  | hand goes => exact .inr ⟨_, _, rfl, goes⟩
  | hang => exact .inl ⟨rfl, rfl⟩

theorem goes_end {value : Except Failure α}
    (goes : (Script.rollback (.done value)).Goes journal result) :
    journal = [.rolledBack] ∧ result = some value := by
  cases goes with
  | rollback goes =>
      cases goes
      exact ⟨rfl, rfl⟩

theorem goes_commit {value : Except Failure α}
    (goes : (Script.commit (.done value)).Goes journal result) :
    journal = [.committed] ∧ result = some value := by
  cases goes with
  | commit goes =>
      cases goes
      exact ⟨rfl, rfl⟩

/-! What a script leaves of the storage that it runs in. -/

variable {handler : Handler σ} {handle : Handle}

theorem run_uncommitted (script : Script α) (state : σ) (storage : Storage)
    (unended : (script.journal handler handle state storage).isCommitted = false) :
    (script.run handler handle state storage).2.2.committed = storage.committed ∧
      (script.run handler handle state storage).2.2.version = storage.version := by
  induction script generalizing state storage with
  | done result => exact ⟨rfl, rfl⟩
  | execute command next ih =>
      have frame := storage.execute_frame handle command
      have later := ih (storage.execute handle command).1 state (storage.execute handle command).2
        unended
      exact ⟨later.1.trans frame.1, later.2.trans frame.2.1⟩
  | hand delivery next ih =>
      cases judged : handler delivery state with
      | mk verdict after =>
          cases verdict with
          | none =>
              have frame := storage.rollback_frame handle
              simp only [run, judged]
              exact ⟨frame.1, frame.2.1⟩
          | some verdict =>
              simp only [journal, judged] at unended
              simp only [run, judged]
              exact ih verdict after storage unended
  | commit next ih => cases unended
  | rollback next ih =>
      have frame := storage.rollback_frame handle
      have later := ih state (storage.rollback handle) unended
      exact ⟨later.1.trans frame.1, later.2.trans frame.2.1⟩

theorem run_frame (handler : Handler σ) (handle : Handle) (script : Script α) (state : σ)
    (storage : Storage) :
    (script.run handler handle state storage).2.2.clock = storage.clock ∧
      (script.run handler handle state storage).2.2.fresh = storage.fresh := by
  induction script generalizing state storage with
  | done result => exact ⟨rfl, rfl⟩
  | execute command next ih =>
      have frame := storage.execute_frame handle command
      have later := ih (storage.execute handle command).1 state (storage.execute handle command).2
      exact ⟨later.1.trans frame.2.2.1, later.2.trans frame.2.2.2⟩
  | hand delivery next ih =>
      cases judged : handler delivery state with
      | mk verdict after =>
          cases verdict with
          | none =>
              have frame := storage.rollback_frame handle
              simp only [run, judged]
              exact ⟨frame.2.2.1, frame.2.2.2.1⟩
          | some verdict =>
              simp only [run, judged]
              exact ih verdict after storage
  | commit next ih =>
      have frame := storage.commit_frame handle
      have later := ih state (storage.commit handle)
      exact ⟨later.1.trans frame.1, later.2.trans frame.2.1⟩
  | rollback next ih =>
      have frame := storage.rollback_frame handle
      have later := ih state (storage.rollback handle)
      exact ⟨later.1.trans frame.2.2.1, later.2.trans frame.2.2.2.1⟩

theorem run_everywhere {property : Database → Prop} {allowed : Command → Prop}
    (keeps : ∀ view now command plan, allowed command → property view →
      view.plan now command = .ok plan → property (Storage.leaves view plan).after)
    (script : Script α) (runs : script.Runs allowed) (state : σ) {storage : Storage}
    (everywhere : storage.Everywhere property) :
    (script.run handler handle state storage).2.2.Everywhere property := by
  induction script generalizing state storage with
  | done result => exact everywhere
  | execute command next ih =>
      refine ih _ (runs.2 _) state (everywhere.execute fun plan planned => ?_)
      exact keeps _ _ command plan runs.1 (everywhere.view handle) planned
  | hand delivery next ih =>
      cases judged : handler delivery state with
      | mk verdict after =>
          cases verdict with
          | none =>
              simp only [run, judged]
              exact everywhere.rollback handle
          | some verdict =>
              simp only [run, judged]
              exact ih verdict (runs verdict) after everywhere
  | commit next ih => exact ih runs state (everywhere.commit handle)
  | rollback next ih => exact ih runs state (everywhere.rollback handle)

/-- A property of the committed database that all commands of a script keep, be it true of what other
transactions wrote or not. -/
theorem run_committed {property : Database → Prop} {allowed : Command → Prop}
    (keeps : ∀ view now command plan, allowed command → property view →
      view.plan now command = .ok plan → property (Storage.leaves view plan).after)
    (script : Script α) (runs : script.Runs allowed) (state : σ) {storage : Storage}
    (consistent : storage.Consistent) (committed : property storage.committed)
    (written : ∀ view changed, storage.held? handle = some (.writing view changed) →
      property view) :
    property (script.run handler handle state storage).2.2.committed := by
  induction script generalizing state storage with
  | done result => exact committed
  | execute command next ih =>
      apply ih _ (runs.2 _) state (Storage.consistent_execute consistent)
      · rw [(storage.execute_frame handle command).1]
        exact committed
      · intro view changed held
        refine Storage.execute_written consistent committed written ?_ held
        intro plan planned seen
        exact keeps _ _ command plan runs.1 seen planned
  | hand delivery next ih =>
      cases judged : handler delivery state with
      | mk verdict after =>
          cases verdict with
          | none =>
              simp only [run, judged]
              rw [(storage.rollback_frame handle).1]
              exact committed
          | some verdict =>
              simp only [run, judged]
              exact ih verdict (runs verdict) after consistent committed written
  | commit next ih =>
      apply ih runs state (Storage.consistent_commit consistent)
      · by_cases changed : ∃ view, storage.held? handle = some (.writing view true)
        · obtain ⟨view, held⟩ := changed
          rw [(Storage.commit_written held).1]
          exact written view true held
        · rw [(Storage.commit_unwritten fun view held => changed ⟨view, held⟩).1]
          exact committed
      · intro view changed held
        cases (storage.held_commit_self handle).symm.trans held
  | rollback next ih =>
      apply ih runs state (Storage.consistent_rollback consistent)
      · rw [(storage.rollback_frame handle).1]
        exact committed
      · intro view changed held
        cases (storage.held_rollback_self handle).symm.trans held

theorem run_holds (script : Script α) (ends : script.Ends) (state : σ) (storage : Storage) :
    (script.run handler handle state storage).2.2.holds =
      storage.holds.filter fun entry => entry.1 ≠ handle := by
  induction script generalizing state storage with
  | done result => cases ends
  | execute command next ih =>
      have later := ih (storage.execute handle command).1 (ends _) state
        (storage.execute handle command).2
      exact later.trans (Storage.execute_others storage handle command)
  | hand delivery next ih =>
      cases judged : handler delivery state with
      | mk verdict after =>
          cases verdict with
          | none =>
              simp only [run, judged]
              exact (storage.rollback_frame handle).2.2.2.2
          | some verdict =>
              simp only [run, judged]
              exact ih verdict (ends verdict) after storage
  | commit next ih =>
      cases next with
      | done result => exact (storage.commit_frame handle).2.2
      | _ => cases ends
  | rollback next ih =>
      cases next with
      | done result => exact (storage.rollback_frame handle).2.2.2.2
      | _ => cases ends

end Script

end TopicLog
