import TopicLog.Proofs.Layouts

/-!
Publishing and setting up as steps of transactions. Whatever survives the single steps of a publisher's
transaction survives a whole batch and the making of the tables.
-/
namespace TopicLog

/-- A property of storages that no step of a transaction from outside changes. `side` tells the handles
of such transactions. -/
structure Namings.Survives (namings : Namings) (topic : String) (side : Handle → Prop)
    (holds : Storage → Prop) : Prop where
  begin : ∀ storage, holds storage → side storage.fresh ∧ holds storage.begin.2
  execute : ∀ storage handle action, holds storage → side handle →
    namings.publishes topic action = true → holds (storage.execute handle (.run action)).2
  commit : ∀ storage handle, holds storage → side handle → holds (storage.commit handle)
  rollback : ∀ storage handle, holds storage → side handle → holds (storage.rollback handle)

def Move.on (namings : Namings) (topic : String) (outside : Handle → Bool) (storage : Storage) :
    Move → Storage
  | .begin => storage.begin.2
  | .execute handle action =>
      if outside handle && namings.publishes topic action then
        (storage.execute handle (.run action)).2
      else storage
  | .commit handle => if outside handle then storage.commit handle else storage
  | .rollback handle => if outside handle then storage.rollback handle else storage

theorem System.moved_on (namings : Namings) (topic : String) (system : System) (move : Move) :
    system.moved namings topic move =
      move.on namings topic (fun handle => (system.polls handle).isNone) system.storage := by
  cases move <;> rfl

namespace Namings.Survives

variable {namings : Namings} {topic : String} {side : Handle → Prop} {holds : Storage → Prop}
  {storage : Storage} {handle : Handle}

theorem all {σ : Type} {statements : List Statement}
    (survives : namings.Survives topic side holds) (handler : Handler σ) (state : σ)
    (before : holds storage) (mine : side handle)
    (allowed : ∀ statement ∈ statements, namings.publishes topic statement.action = true) :
    holds ((Script.all statements).run handler handle state storage).2.2 := by
  induction statements generalizing storage with
  | nil => exact survives.commit storage handle before mine
  | cons first rest ih =>
      have ran := survives.execute storage handle first.action before mine
        (allowed first List.mem_cons_self)
      simp only [Script.all, Script.statement, Script.run]
      cases (storage.execute handle (.run first.action)).1 with
      | error fault => exact survives.rollback _ handle ran mine
      | ok effect =>
          exact ih ran fun statement member =>
            allowed statement (List.mem_cons_of_mem first member)

theorem setUp {statements : Except Failure (List Statement)}
    (survives : namings.Survives topic side holds) (before : holds storage)
    (allowed : ∀ list, statements = .ok list →
      ∀ statement ∈ list, namings.publishes topic statement.action = true) :
    holds (storage.setUp topic statements).2 := by
  cases statements with
  | error failure => exact before
  | ok list =>
      obtain ⟨mine, begun⟩ := survives.begin storage before
      have ran := survives.all (fun _ _ => (none, ())) () begun mine (allowed list rfl)
      simp only [Storage.setUp]
      split
      all_goals
        rename_i performed
        rw [← congrArg Prod.snd performed]
        exact ran

theorem autocommit {action : Action} (survives : namings.Survives topic side holds)
    (before : holds storage) (allowed : namings.publishes topic action = true) :
    holds (storage.autocommit (.run action)).2 := by
  obtain ⟨mine, begun⟩ := survives.begin storage before
  have ran := survives.execute _ storage.fresh action begun mine allowed
  simp only [Storage.autocommit]
  split
  · rename_i effect left executed
    have same : left = (storage.begin.2.execute storage.fresh (.run action)).2 :=
      (congrArg Prod.snd executed).symm
    rw [same]
    exact survives.commit _ storage.fresh ran mine
  · rename_i fault left executed
    have same : left = (storage.begin.2.execute storage.fresh (.run action)).2 :=
      (congrArg Prod.snd executed).symm
    rw [same]
    exact survives.rollback _ storage.fresh ran mine

theorem append_publishes {messages : List Message} {codec : Codec} {batchSize : Nat}
    {statement : Statement}
    (made : (namings.layout batchSize codec).append topic messages = .ok statement) :
    namings.publishes topic statement.action = true := by
  obtain ⟨records, -, rfl⟩ := layout_append made
  simp [Namings.publishes]

theorem append {publisher : Publisher} {messages : List Message} {codec : Codec}
    {batchSize : Nat} (survives : namings.Survives topic side holds) (before : holds storage)
    (usual : publisher.layout = namings.layout batchSize codec) :
    holds (publisher.append topic messages storage).2 := by
  unfold Publisher.append
  cases made : publisher.layout.append topic messages with
  | error failure => exact before
  | ok statement =>
      have ran := survives.autocommit before (append_publishes (usual ▸ made))
      dsimp only
      split
      all_goals
        rename_i committed
        rw [← congrArg Prod.snd committed]
        exact ran

theorem ensureInitialized {publisher : Publisher} {codec : Codec} {batchSize : Nat}
    (survives : namings.Survives topic side holds) (before : holds storage)
    (usual : publisher.layout = namings.layout batchSize codec) :
    holds (publisher.ensureInitialized topic storage).2.2 ∧
      (publisher.ensureInitialized topic storage).2.1.layout = publisher.layout := by
  have made : holds (publisher.setUp topic storage).2 := by
    apply survives.setUp before
    intro list made
    rw [usual] at made
    rw [← ofTopic_built (namings.layout_setup topic _ _) made]
    simp [Namings.publishes]
  unfold Publisher.ensureInitialized
  split
  · exact ⟨before, rfl⟩
  · split
    all_goals
      rename_i performed
      rw [← congrArg Prod.snd performed]
      exact ⟨made, rfl⟩

theorem publish {publisher : Publisher} {messages : List Message} {codec : Codec}
    {batchSize : Nat} (survives : namings.Survives topic side holds)
    (valid : isTopic topic = true) (before : holds storage)
    (usual : publisher.layout = namings.layout batchSize codec) :
    holds (publisher.publish topic messages storage).2.2 := by
  have prepared := survives.ensureInitialized before usual
  have checked : validateTopic topic = .ok () := if_pos valid
  unfold Publisher.publish
  rw [checked]
  by_cases empty : messages.isEmpty = true
  · simp only [empty, ↓reduceIte]
    exact before
  · by_cases auto : publisher.settings.autoInitialize = true
    · simp only [empty, auto, ↓reduceIte]
      rcases ensured : publisher.ensureInitialized topic storage with ⟨ready, next, left⟩
      rw [ensured] at prepared
      cases ready with
      | error failure => exact prepared.1
      | ok _ => exact survives.append prepared.1 (prepared.2.trans usual)
    · simp only [empty, auto]
      exact survives.append before usual

theorem subscriber_setUp {member : Member} (survives : namings.Survives topic side holds)
    (before : holds storage) :
    holds ((member.subscriber namings).setUp topic storage).2 := by
  apply survives.setUp before
  intro list made
  rw [← ofTopic_built (namings.layouts_setup topic _ _) made]
  simp [Namings.publishes]

theorem move {outside : Handle → Bool} (survives : namings.Survives topic side holds)
    (only : ∀ handle, outside handle = true → side handle) (before : holds storage) (move : Move) :
    holds (move.on namings topic outside storage) := by
  cases move with
  | begin => exact (survives.begin _ before).2
  | execute handle action =>
      simp only [Move.on]
      split
      · rename_i mine
        obtain ⟨mine, allowed⟩ := Bool.and_eq_true_iff.mp mine
        exact survives.execute _ handle action before (only handle mine) allowed
      · exact before
  | commit handle =>
      simp only [Move.on]
      split
      · exact survives.commit _ handle before (only handle ‹_›)
      · exact before
  | rollback handle =>
      simp only [Move.on]
      split
      · exact survives.rollback _ handle before (only handle ‹_›)
      · exact before

theorem moved {system : System}
    (survives : namings.Survives topic (fun handle => system.polls handle = none) holds)
    (before : holds system.storage) (move : Move) : holds (system.moved namings topic move) := by
  rw [system.moved_on]
  exact survives.move (fun _ => Option.isNone_iff_eq_none.mp) before move

end Namings.Survives
end TopicLog
