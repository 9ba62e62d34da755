import TopicLog.Proofs.Arrangement
import TopicLog.Proofs.Undisturbed

/-!
The storages that are reached from an empty database, whatever was run in whichever transactions. All
logs in them are arranged.
-/
namespace TopicLog

/-- A storage that some steps of transactions lead to, from an empty database. -/
inductive Storage.Reached : Storage → Prop
  | start (clock : Timestamp) : Reached { clock }
  | begin {storage : Storage} (reached : Reached storage) : Reached storage.begin.2
  | beginIsolated {storage : Storage} (reached : Reached storage) : Reached storage.beginIsolated.2
  | execute {storage : Storage} (reached : Reached storage) (handle : Handle) (command : Command) :
      Reached (storage.execute handle command).2
  | commit {storage : Storage} (reached : Reached storage) (handle : Handle) :
      Reached (storage.commit handle)
  | rollback {storage : Storage} (reached : Reached storage) (handle : Handle) :
      Reached (storage.rollback handle)
  | settle {storage : Storage} (reached : Reached storage) : Reached storage.settle
  | pause {storage : Storage} (reached : Reached storage) (clock : Timestamp) :
      Reached { storage with clock }

theorem Storage.Reached.arranged {storage : Storage} (reached : storage.Reached) :
    storage.Arranged := by
  induction reached with
  | start clock => exact Storage.arranged_empty clock
  | begin reached ih => exact ih.begin
  | beginIsolated reached ih => exact ⟨ih.begin.committed, ih.begin.held⟩
  | execute reached handle command ih =>
      exact ih.execute fun _ planned => Database.arranged_leaves (ih.view handle) planned
  | commit reached handle ih => exact ih.commit handle
  | rollback reached handle ih => exact ih.rollback handle
  | settle reached ih => exact ⟨ih.committed, ih.held⟩
  | pause reached clock ih => exact ⟨ih.committed, ih.held⟩

/-! Operations lead from one such storage to another. -/

namespace Storage.Reached

variable {α σ : Type} {storage : Storage}

theorem run (handler : Handler σ) (handle : Handle) (script : Script α) (state : σ)
    (reached : storage.Reached) : (script.run handler handle state storage).2.2.Reached := by
  induction script generalizing state storage with
  | done result => exact reached
  | execute command next ih => exact ih _ state (reached.execute handle command)
  | hand delivery next ih =>
      cases judged : handler delivery state with
      | mk verdict after =>
          cases verdict with
          | none =>
              simp only [Script.run, judged]
              exact reached.rollback handle
          | some verdict =>
              simp only [Script.run, judged]
              exact ih verdict after reached
  | commit next ih => exact ih state (reached.commit handle)
  | rollback next ih => exact ih state (reached.rollback handle)

theorem poll (reached : storage.Reached) (subscriber : Subscriber) (topic : String)
    (handler : Handler σ) (state : σ) :
    (subscriber.poll topic handler state storage).2.2.Reached := by
  unfold Subscriber.poll
  cases subscriber.pollScript? topic with
  | error failure => exact reached
  | ok script => exact reached.beginIsolated.run handler _ script state

theorem perform (reached : storage.Reached) (script : Script α) :
    (storage.perform script).2.Reached :=
  reached.begin.run _ _ script ()

theorem setUp (reached : storage.Reached) (topic : String)
    (statements : Except Failure (List Statement)) :
    (storage.setUp topic statements).2.Reached := by
  cases statements with
  | error failure => exact reached
  | ok list =>
      rw [Storage.setUp_performed]
      exact reached.perform _

theorem ensureInitialized (reached : storage.Reached) (publisher : Publisher) (topic : String) :
    (publisher.ensureInitialized topic storage).2.2.Reached := by
  have made : (publisher.setUp topic storage).2.Reached := reached.setUp topic _
  unfold Publisher.ensureInitialized
  split
  · exact reached
  · split <;> (rename_i ran; rw [ran] at made; exact made)

end Storage.Reached

/-! Faults. -/

theorem Storage.execute_fault {storage : Storage} {handle : Handle} {command : Command}
    {fault : Fault} (failed : (storage.execute handle command).1 = .error fault) :
    fault = .locked ∨ fault = .outdated ∨
      ((storage.view handle).answer storage.clock command).1 = .error fault := by
  unfold Storage.execute at failed
  unfold Database.answer
  cases planned : (storage.view handle).plan storage.clock command with
  | error other =>
      simp only [planned] at failed
      exact .inr (.inr failed)
  | ok plan =>
      simp only [planned] at failed
      split at failed
      · exact .inl (Except.error.inj failed).symm
      · split at failed
        · exact .inr (.inl (Except.error.inj failed).symm)
        · exact .inr (.inr failed)

theorem Storage.autocommit_answer (storage : Storage) (command : Command) :
    (storage.autocommit command).1 = (storage.begin.2.execute storage.begin.1 command).1 := by
  unfold Storage.autocommit
  rcases executed : storage.begin.2.execute storage.begin.1 command with ⟨answer, left⟩
  cases answer <;> simp [executed]

end TopicLog
