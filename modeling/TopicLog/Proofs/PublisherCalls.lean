import TopicLog.Publisher
import TopicLog.Proofs.Readers
import TopicLog.Proofs.Undisturbed

/-!
A publisher at work, one call after another. A call takes its steps one by one, in a transaction to set
its topic up and in one to append its batch, and other transactions take theirs in between. If none does,
then a call comes to what the publisher's operation comes to.
-/
namespace TopicLog

inductive Task where
  | publish (topic : String) (messages : List Message)
  | setUp (topic : String)

def Task.topic : Task → String
  | .publish topic _ => topic
  | .setUp topic => topic

inductive Purpose where
  | setUp
  | append
  deriving DecidableEq

inductive Call.Phase where
  | inside (purpose : Purpose) (handle : Handle) (script : Script (Except Failure Unit))
  | ready
  | ended (result : Except Failure Unit)

namespace Publisher

def perform (publisher : Publisher) (storage : Storage) :
    Task → Except Failure Unit × Publisher × Storage
  | .publish topic messages => publisher.publish topic messages storage
  | .setUp topic =>
      let (result, storage) := publisher.setUp topic storage
      (result, publisher, storage)

def openSetUp (publisher : Publisher) (storage : Storage) (topic : String) : Call.Phase × Storage :=
  match publisher.layout.setup topic with
  | .error failure => (.ended (.error (.schema topic failure)), storage)
  | .ok statements => (.inside .setUp storage.begin.1 (Script.all statements), storage.begin.2)

def openAppend (publisher : Publisher) (storage : Storage) (topic : String)
    (messages : List Message) : Call.Phase × Storage :=
  match publisher.layout.append topic messages with
  | .error failure => (.ended (.error failure), storage)
  | .ok statement => (.inside .append storage.begin.1 (Script.all [statement]), storage.begin.2)

def beginCall (publisher : Publisher) (storage : Storage) : Task → Call.Phase × Storage
  | .setUp topic => publisher.openSetUp storage topic
  | .publish topic messages =>
      match validateTopic topic with
      | .error failure => (.ended (.error failure), storage)
      | .ok () =>
          if messages.isEmpty then (.ended (.ok ()), storage)
          else if publisher.settings.autoInitialize && !publisher.initialized.contains topic then
            publisher.openSetUp storage topic
          else (.ready, storage)

/-- Remembers a topic that was set up for a batch. -/
def remember (publisher : Publisher) : Task → Publisher
  | .publish topic _ => { publisher with initialized := topic :: publisher.initialized }
  | .setUp _ => publisher

end Publisher

structure Advance where
  phase : Call.Phase
  publisher : Publisher
  storage : Storage
  journal : Journal := []

namespace Call.Phase

def handle? : Phase → Option Handle
  | .inside _ handle _ => some handle
  | _ => none

def isEnded : Phase → Bool
  | .ended _ => true
  | _ => false

/-- What follows when a transaction has come to its end. -/
def afterwards (publisher : Publisher) (storage : Storage) (task : Task) :
    Purpose → Except Failure Unit → Advance
  | .setUp, .error failure =>
      { phase := .ended (.error (.schema task.topic failure)), publisher, storage }
  | .setUp, .ok () => { phase := .ready, publisher := publisher.remember task, storage }
  | .append, result => { phase := .ended result, publisher, storage }

def advance (publisher : Publisher) (storage : Storage) (task : Task) : Phase → Advance
  | .inside purpose _ (.done result) => afterwards publisher storage task purpose result
  | .inside purpose handle script =>
      let stepped := script.advance handle .accepted storage
      { phase := .inside purpose handle stepped.script
        publisher
        storage := stepped.storage
        journal := stepped.journal }
  | .ready => match task with
      | .setUp _ => { phase := .ended (.ok ()), publisher, storage }
      | .publish topic messages =>
          let (phase, storage) := publisher.openAppend storage topic messages
          { phase, publisher, storage }
  | .ended result => { phase := .ended result, publisher, storage }

end Call.Phase

structure Call where
  task : Task
  phase : Call.Phase
  before : List String
  /-- The topics that it knew after the last step of the call. -/
  after : List String := before
  journal : Journal := []
  /-- Whether a step of the call changed the committed database. -/
  wrote : Bool := false

/-- A call after a step that was taken in a storage. -/
def Call.next (call : Call) (storage : Storage) (next : Advance) : Call :=
  { call with
    phase := next.phase
    after := next.publisher.initialized
    journal := call.journal ++ next.journal
    wrote := call.wrote || next.storage.committed ≠ storage.committed }

structure Service where
  publisher : Publisher
  storage : Storage
  /-- The calls so far, the latest first. -/
  calls : List Call := []

inductive ServiceEvent where
  | call (task : Task)
  | advance
  | aside (aside : Aside)

namespace Service

def isIdle (service : Service) : Bool := service.calls.head?.all fun call => call.phase.isEnded

/-- The transaction of the latest call. If there is none, then no other has the handle either. -/
def own (service : Service) : Handle :=
  (service.calls.head?.bind fun call => call.phase.handle?).getD service.storage.fresh

def begin (service : Service) (task : Task) : Service :=
  let (phase, storage) := service.publisher.beginCall service.storage task
  { service with
    storage
    calls := { task, phase, before := service.publisher.initialized } :: service.calls }

def advance (service : Service) (call : Call) (earlier : List Call) : Service :=
  let next := call.phase.advance service.publisher service.storage call.task
  { publisher := next.publisher
    storage := next.storage
    calls := call.next service.storage next :: earlier }

def step (service : Service) : ServiceEvent → Service
  | .call task => if service.isIdle then service.begin task else service
  | .advance => match service.calls with
      | [] => service
      | call :: earlier => service.advance call earlier
  | .aside aside => { service with storage := aside.on service.own service.storage }

def run (service : Service) (events : List ServiceEvent) : Service := events.foldl step service

end Service

/-! Calls without others in between. -/

/-- The steps of the latest call alone lead to a phase of it. -/
def Service.Comes (service : Service) (task : Task) (earlier : List Call) (phase : Call.Phase)
    (publisher : Publisher) (storage : Storage) : Prop :=
  ∃ steps call, service.run (List.replicate steps .advance) = ⟨publisher, storage, call :: earlier⟩ ∧
    call.task = task ∧ call.phase = phase

section Alone

variable {service : Service} {task : Task} {earlier : List Call} {phase : Call.Phase}
  {publisher : Publisher} {storage : Storage} {purpose : Purpose} {handle : Handle}

theorem Service.Comes.next (comes : service.Comes task earlier phase publisher storage) :
    let next := phase.advance publisher storage task
    service.Comes task earlier next.phase next.publisher next.storage := by
  obtain ⟨steps, call, ran, rfl, rfl⟩ := comes
  have again : service.run (List.replicate (steps + 1) .advance) =
      Service.advance ⟨publisher, storage, call :: earlier⟩ call earlier := by
    rw [List.replicate_succ', run, List.foldl_append]
    change (service.run (List.replicate steps .advance)).step .advance = _
    rw [ran]
    rfl
  exact ⟨steps + 1, _, again, rfl, rfl⟩

theorem Service.Comes.all {σ : Type} (handler : Handler σ) (state : σ) {statements : List Statement}
    (comes : service.Comes task earlier (.inside purpose handle (Script.all statements)) publisher
      storage) :
    ∃ result, (((Script.all statements).run handler handle state storage).1 = some result) ∧
      service.Comes task earlier (.inside purpose handle (.done result)) publisher
        ((Script.all statements).run handler handle state storage).2.2 := by
  -- One step runs a statement; after the last one, one more ends the transaction.
  induction statements generalizing storage with
  | nil => exact ⟨.ok (), rfl, comes.next⟩
  | cons first rest ih =>
      have ran := comes.next
      simp only [Script.all, Script.statement, Script.run]
      simp only [Script.all, Script.statement, Call.Phase.advance, Script.advance] at ran
      cases answer : (storage.execute handle (.run first.action)).1 with
      | error fault =>
          simp only [answer] at ran ⊢
          exact ⟨_, rfl, ran.next⟩
      | ok effect =>
          simp only [answer] at ran ⊢
          exact ih ran

theorem Service.Comes.setUp {result : Except Failure Unit} {after : Storage}
    (done : publisher.setUp task.topic storage = (result, after))
    (comes : service.Comes task earlier (publisher.openSetUp storage task.topic).1 publisher
      (publisher.openSetUp storage task.topic).2) :
    match result with
    | .ok () => service.Comes task earlier .ready (publisher.remember task) after
    | .error failure => service.Comes task earlier (.ended (.error failure)) publisher after := by
  unfold Publisher.openSetUp at comes
  unfold Publisher.setUp at done
  cases built : publisher.layout.setup task.topic with
  | error failure =>
      rw [built] at comes done
      cases done
      exact comes
  | ok statements =>
      rw [built] at comes done
      obtain ⟨answer, answered, ran⟩ := comes.all (fun _ _ => (none, ())) ()
      have performed : storage.perform (Script.all statements) = (some answer, _) :=
        Prod.ext answered rfl
      rw [Storage.setUp_performed, performed] at done
      cases answer <;> cases done <;> exact ran.next

theorem Script.run_single {σ : Type} (handler : Handler σ) (state : σ) (storage : Storage)
    (statement : Statement) :
    let ran := (Script.all [statement]).run handler storage.begin.1 state storage.begin.2
    let alone := storage.autocommit (.run statement.action)
    ran.1 = some ((alone.1.map fun _ => ()).mapError .ofFault) ∧ ran.2.2 = alone.2 := by
  simp only [Script.all, Script.statement, Script.run, Storage.autocommit]
  rcases storage.begin.2.execute storage.begin.1 (.run statement.action) with ⟨answer, left⟩
  cases answer <;> exact ⟨rfl, rfl⟩

theorem Service.Comes.append {topic : String} {messages : List Message}
    (comes : service.Comes (.publish topic messages) earlier .ready publisher storage) :
    let done := publisher.append topic messages storage
    service.Comes (.publish topic messages) earlier (.ended done.1) publisher done.2 := by
  have opened : service.Comes (.publish topic messages) earlier
      (publisher.openAppend storage topic messages).1 publisher
      (publisher.openAppend storage topic messages).2 := comes.next
  unfold Publisher.openAppend at opened
  unfold Publisher.append
  cases built : publisher.layout.append topic messages with
  | error failure =>
      rw [built] at opened
      exact opened
  | ok statement =>
      rw [built] at opened
      obtain ⟨result, answered, ran⟩ := opened.all (fun _ _ => (none, ())) ()
      obtain ⟨alone, left⟩ := Script.run_single (fun _ _ => (none, ())) () storage statement
      have ended := ran.next
      rw [left, Option.some.inj (answered.symm.trans alone)] at ended
      rcases executed : storage.autocommit (.run statement.action) with ⟨answer, after⟩
      rw [executed] at ended
      simp only [executed]
      cases answer <;> exact ended

theorem Service.Comes.publish {topic : String} {messages : List Message}
    (comes : service.Comes (.publish topic messages) earlier
      (publisher.beginCall storage (.publish topic messages)).1 publisher
      (publisher.beginCall storage (.publish topic messages)).2) :
    let done := publisher.publish topic messages storage
    service.Comes (.publish topic messages) earlier (.ended done.1) done.2.1 done.2.2 := by
  simp only [Publisher.beginCall] at comes
  simp only [Publisher.publish]
  cases checked : validateTopic topic with
  | error failure =>
      simp only [checked] at comes
      exact comes
  | ok _ =>
      simp only [checked] at comes ⊢
      cases empty : messages.isEmpty with
      | true =>
          simp only [empty, ↓reduceIte] at comes ⊢
          exact comes
      | false =>
          simp only [empty, Bool.false_eq_true, ↓reduceIte] at comes ⊢
          cases auto : publisher.settings.autoInitialize with
          | false =>
              simp only [auto, Bool.false_and, Bool.false_eq_true, ↓reduceIte] at comes ⊢
              exact comes.append
          | true =>
              simp only [auto, Bool.true_and, ↓reduceIte, Publisher.ensureInitialized] at comes ⊢
              cases known : publisher.initialized.contains topic with
              | true =>
                  simp only [known, Bool.not_true, Bool.false_eq_true, ↓reduceIte] at comes ⊢
                  exact comes.append
              | false =>
                  simp only [known, Bool.not_false, Bool.false_eq_true, ↓reduceIte] at comes ⊢
                  rcases done : publisher.setUp topic storage with ⟨result, after⟩
                  have made := Comes.setUp done comes
                  cases result with
                  | error failure => exact made
                  | ok _ => exact Comes.append made

/-- If no other transaction takes a step, then a call comes to what is done for its task. -/
theorem Service.call_alone (service : Service) (task : Task) (idle : service.isIdle = true) :
    let done := service.publisher.perform service.storage task
    (service.step (.call task)).Comes task service.calls (.ended done.1) done.2.1 done.2.2 := by
  have begun : (service.step (.call task)).Comes task service.calls
      (service.publisher.beginCall service.storage task).1 service.publisher
      (service.publisher.beginCall service.storage task).2 := by
    rw [step, idle]
    exact ⟨0, _, rfl, rfl, rfl⟩
  cases task with
  | publish topic messages => exact begun.publish
  | setUp topic =>
      rcases done : service.publisher.setUp topic service.storage with ⟨result, after⟩
      have made := Comes.setUp done begun
      simp only [Publisher.perform, done]
      cases result with
      | error failure => exact made
      | ok _ => exact Comes.next made

end Alone
end TopicLog
