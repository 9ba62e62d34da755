import Mathlib.Data.List.Chain
import TopicLog.Proofs.CallPhases

/-!
The topics that a publisher knows. A topic is remembered when the transaction that set it up has been
committed, and never forgotten; tables stay; so each topic that is known has its table, whatever others do
in between and however the calls end. A call whose set-up fails leaves no trace, and is made up for by the
next one.
-/
namespace TopicLog

/-! A publisher at work. -/

def ServiceEvent.drops : ServiceEvent → Bool
  | .aside step => step.drops
  | _ => false

/-- A call begins with the topics that were known after the one before it. -/
def Call.Follows (later earlier : Call) : Prop := later.before = earlier.after

/-- What is true of a publisher at work, whoever took the last step. -/
structure Service.Sound (names : Names) (batchSize : Nat) (codec : Codec) (service : Service) :
    Prop where
  knows : service.publisher.Knows names batchSize codec service.storage.committed
  lasting : service.storage.Lasting
  latest : ∀ call ∈ service.calls.head?, call.after = service.publisher.initialized ∧
    call.Stands names service.storage call.phase
  ended : ∀ call ∈ service.calls.tail, ∃ result, call.phase = .ended result ∧
    call.Finished names result
  chained : service.calls.IsChain Call.Follows

namespace Service.Sound

variable {names : Names} {batchSize : Nat} {codec : Codec} {service : Service}

theorem start {storage : Storage} (lasting : storage.Lasting) :
    Sound names batchSize codec { publisher := { layout := names.layout batchSize codec }, storage } where
  knows := ⟨rfl, rfl, nofun⟩
  lasting := lasting
  latest := nofun
  ended := nofun
  chained := .nil

theorem stands (sound : service.Sound names batchSize codec) :
    ∀ call ∈ service.calls, call.Stands names service.storage call.phase := by
  intro call member
  have latest := sound.latest
  have ended := sound.ended
  cases calls : service.calls with
  | nil => simp [calls] at member
  | cons head earlier =>
      rw [calls] at member latest ended
      rcases List.mem_cons.mp member with rfl | old
      · exact (latest call rfl).2
      · obtain ⟨result, phase, finished⟩ := ended call old
        rw [phase]
        exact .ended finished

theorem finished (sound : service.Sound names batchSize codec) {call : Call}
    (member : call ∈ service.calls) {result : Except Failure Unit}
    (phase : call.phase = .ended result) : call.Finished names result := by
  have stands := sound.stands call member
  rw [phase] at stands
  cases stands with
  | ended finished => exact finished

theorem idle_finished (sound : service.Sound names batchSize codec)
    (idle : service.isIdle = true) :
    ∀ call ∈ service.calls, ∃ result, call.phase = .ended result ∧ call.Finished names result := by
  intro call member
  have ended : ∃ result, call.phase = .ended result := by
    have earlier := sound.ended
    cases calls : service.calls with
    | nil => simp [calls] at member
    | cons head rest =>
        rw [calls] at member earlier
        rcases List.mem_cons.mp member with rfl | old
        · simp only [isIdle, calls, List.head?_cons, Option.all_some] at idle
          cases phase : call.phase with
          | ended result => exact ⟨result, rfl⟩
          | _ => simp [phase, Call.Phase.isEnded] at idle
        · obtain ⟨result, phase, -⟩ := earlier call old
          exact ⟨result, phase⟩
  obtain ⟨result, phase⟩ := ended
  exact ⟨result, phase, sound.finished member phase⟩

theorem begin (sound : service.Sound names batchSize codec) (idle : service.isIdle = true)
    (task : Task) : (service.begin task).Sound names batchSize codec := by
  have new (phase : Call.Phase) : Call.New { task, phase, before := service.publisher.initialized } :=
    ⟨rfl, rfl, rfl⟩
  obtain ⟨lasts, stands⟩ := sound.knows.beginCall sound.lasting (new _) rfl
  refine ⟨sound.knows.later lasts.covers, lasts.lasting, ?_, sound.idle_finished idle, ?_⟩
  · rintro call ⟨⟩
    exact ⟨rfl, stands⟩
  · have latest := sound.latest
    have chained := sound.chained
    change List.IsChain _ (_ :: service.calls)
    cases calls : service.calls with
    | nil => exact .singleton _
    | cons head earlier =>
        rw [calls] at latest chained
        exact .cons_cons (latest head rfl).1.symm chained

theorem advance {call : Call} {earlier : List Call} (sound : service.Sound names batchSize codec)
    (calls : service.calls = call :: earlier) :
    (service.advance call earlier).Sound names batchSize codec := by
  obtain ⟨same, stands⟩ := sound.latest call (by simp [calls])
  have steps := stands.steps sound.knows sound.lasting same
  have ended := sound.ended
  have chained := sound.chained
  rw [calls] at ended chained
  refine ⟨steps.knows, steps.lasts.lasting, ?_, ended, ?_⟩
  · rintro _ ⟨⟩
    exact ⟨rfl, steps.stands⟩
  · cases earlier with
    | nil => exact .singleton _
    | cons older rest =>
        obtain ⟨follows, chained⟩ := List.isChain_cons_cons.mp chained
        exact .cons_cons follows chained

theorem aside (sound : service.Sound names batchSize codec) {aside : Aside}
    (keeps : aside.drops = false) :
    (service.step (.aside aside)).Sound names batchSize codec := by
  have lasts := sound.lasting.lasts_aside service.own keeps
  refine ⟨sound.knows.later lasts.covers, lasts.lasting, ?_, sound.ended, sound.chained⟩
  intro call latest
  obtain ⟨same, stands⟩ := sound.latest call latest
  refine ⟨same, stands.later lasts fun handle inside given => ?_⟩
  -- The aside is under another handle, so the transaction of the call holds what it held.
  have own : service.own = handle := by
    have latest : service.calls.head? = some call := latest
    rw [Service.own, latest, Option.bind_some, inside, Option.getD_some]
  obtain ⟨other, apart, elsewhere⟩ := aside.elsewhere sound.lasting.consistent.fresh given
  rw [← own] at apart elsewhere given ⊢
  exact ⟨Nat.lt_of_lt_of_le given elsewhere.fresh, elsewhere.held _ apart⟩

theorem step (sound : service.Sound names batchSize codec) {event : ServiceEvent}
    (keeps : event.drops = false) : (service.step event).Sound names batchSize codec := by
  cases event with
  | call task =>
      rw [Service.step]
      split
      · exact sound.begin ‹_› task
      · exact sound
  | advance =>
      cases calls : service.calls with
      | nil =>
          simp only [Service.step, calls]
          exact sound
      | cons call earlier =>
          simp only [Service.step, calls]
          exact sound.advance calls
  | aside step => exact sound.aside keeps

theorem run (sound : service.Sound names batchSize codec) {events : List ServiceEvent}
    (keeps : ∀ event ∈ events, event.drops = false) :
    (service.run events).Sound names batchSize codec := by
  induction events generalizing service with
  | nil => exact sound
  | cons event rest ih =>
      have next := sound.step (keeps event List.mem_cons_self)
      exact ih next fun later member => keeps later (List.mem_cons_of_mem event member)

end Service.Sound

/-! The history of a publisher. -/

section History

variable {call next failed : Call} {earlier between older : List Call} {topic : String}

theorem Call.Gains.keeps (gains : call.Gains) : call.before ⊆ call.after := by
  rcases gains with same | ⟨topic, messages, -, gained⟩
  · rw [same]
    exact fun _ member => member
  · rw [gained]
    exact fun _ member => List.mem_cons_of_mem topic member

theorem known_since (chained : (call :: earlier).IsChain Call.Follows)
    (gains : ∀ each ∈ call :: earlier, each.Gains) :
    ∀ old ∈ call :: earlier, old.after ⊆ call.after := by
  -- Each call begins with what the one before it left, and takes nothing away.
  induction earlier generalizing call with
  | nil =>
      intro old member
      rw [List.mem_singleton.mp member]
      exact fun _ known => known
  | cons before rest ih =>
      obtain ⟨follows, chained⟩ := List.isChain_cons_cons.mp chained
      intro old member topic known
      rcases List.mem_cons.mp member with rfl | old
      · exact known
      · have since := ih chained (fun each member => gains each (List.mem_cons_of_mem _ member)) _ old
        exact (gains call List.mem_cons_self).keeps (follows ▸ since known)

theorem unknown_until (chained : (next :: (between ++ failed :: older)).IsChain Call.Follows)
    (gains : ∀ call ∈ between, call.Gains)
    (unpublished : ∀ call ∈ between, ∀ messages, call.task ≠ .publish topic messages)
    (unknown : topic ∉ failed.after) : topic ∉ next.before := by
  induction between generalizing next with
  | nil =>
      have follows := (List.isChain_cons_cons.mp chained).1
      rw [follows]
      exact unknown
  | cons last rest ih =>
      obtain ⟨follows, chained⟩ := List.isChain_cons_cons.mp chained
      have before := ih chained (fun each member => gains each (List.mem_cons_of_mem _ member))
        fun each member => unpublished each (List.mem_cons_of_mem _ member)
      rw [follows]
      rcases gains last List.mem_cons_self with same | ⟨other, messages, published, gained⟩
      · rw [same]
        exact before
      · rw [gained, List.mem_cons, not_or]
        refine ⟨?_, before⟩
        rintro rfl
        exact unpublished last List.mem_cons_self messages published

end History

/-! A topic that is known stays known. -/

theorem Call.Phase.advance_initialized (publisher : Publisher) (storage : Storage) (task : Task)
    (phase : Call.Phase) :
    publisher.initialized ⊆ (phase.advance publisher storage task).publisher.initialized := by
  have remembered : publisher.initialized ⊆ (publisher.remember task).initialized := by
    cases task with
    | publish topic messages => exact fun _ member => List.mem_cons_of_mem topic member
    | setUp topic => exact fun _ member => member
  cases phase with
  | inside purpose handle script =>
      cases script with
      | done result =>
          cases purpose <;> cases result
          case setUp.ok => exact remembered
          all_goals exact fun _ member => member
      | _ => exact fun _ member => member
  | ready => cases task <;> exact fun _ member => member
  | ended result => exact fun _ member => member

theorem Service.step_initialized (service : Service) (event : ServiceEvent) :
    service.publisher.initialized ⊆ (service.step event).publisher.initialized := by
  cases event with
  | call task =>
      rw [step]
      split <;> exact fun _ member => member
  | advance =>
      cases calls : service.calls with
      | nil =>
          simp only [step, calls]
          exact fun _ member => member
      | cons call earlier =>
          simp only [step, calls]
          exact call.phase.advance_initialized _ _ _
  | aside step => exact fun _ member => member

theorem Service.run_initialized (service : Service) (events : List ServiceEvent) :
    service.publisher.initialized ⊆ (service.run events).publisher.initialized := by
  induction events generalizing service with
  | nil => exact fun _ member => member
  | cons event rest ih => exact fun _ member => ih _ (service.step_initialized event member)

/-! What a publisher that sets its topics up by itself is to be relied on for. -/

structure Service.Reliable (names : Names) (service : Service) : Prop where
  tables : ∀ topic ∈ service.publisher.initialized, isTopic topic = true ∧
    service.storage.committed.has (names.messageTable topic) = true
  /-- A batch has its topic set up only if that is needed, -/
  needed : ∀ call ∈ service.calls, ∀ topic messages, call.task = .publish topic messages →
    call.journal.created ≠ [] → isTopic topic = true ∧ messages ≠ [] ∧ topic ∉ call.before
  created : ∀ call ∈ service.calls, ∀ topic messages result, call.task = .publish topic messages →
    call.phase = .ended result → isTopic topic = true → messages ≠ [] → topic ∉ call.before →
      call.journal.created = [names.messageTable topic]
  /-- A call whose set-up fails changes nothing. -/
  failed : ∀ call ∈ service.calls, ∀ topic failure,
    call.phase = .ended (.error (.schema topic failure)) →
      call.after = call.before ∧ call.wrote = false
  chained : service.calls.IsChain Call.Follows
  latest : ∀ call ∈ service.calls.head?, call.after = service.publisher.initialized
  /-- After a batch whose set-up failed, the next one to its topic sets it up. -/
  retried : ∀ newer next between failed older topic messages again failure result,
    service.calls = newer ++ next :: (between ++ failed :: older) →
    failed.task = .publish topic messages → failed.phase = .ended (.error (.schema topic failure)) →
    (∀ call ∈ between, ∀ others, call.task ≠ .publish topic others) →
    next.task = .publish topic again → again ≠ [] → next.phase = .ended result →
      next.journal.created = [names.messageTable topic]
  /-- A batch that was set up leaves its topic known, however it ends. -/
  passed : ∀ call ∈ service.calls, ∀ topic messages result, call.task = .publish topic messages →
    isTopic topic = true → messages ≠ [] → call.phase = .ended result →
    (∀ other failure, result ≠ .error (.schema other failure)) → topic ∈ service.publisher.initialized
  found : ∀ call ∈ service.calls, ∀ failure, call.phase = .ended (.error failure) →
    ¬ failure.MissesTable

theorem Service.Sound.retried {names : Names} {batchSize : Nat} {codec : Codec} {service : Service}
    (sound : service.Sound names batchSize codec) {newer between older : List Call}
    {next failed : Call} {topic : String} {messages again : List Message} {failure : Failure}
    {result : Except Failure Unit}
    (calls : service.calls = newer ++ next :: (between ++ failed :: older))
    (task : failed.task = .publish topic messages)
    (phase : failed.phase = .ended (.error (.schema topic failure)))
    (unpublished : ∀ call ∈ between, ∀ others, call.task ≠ .publish topic others)
    (publishes : next.task = .publish topic again) (nonempty : again ≠ [])
    (ended : next.phase = .ended result) :
    next.journal.created = [names.messageTable topic] := by
  have stood := sound.stands
  have chained := sound.chained
  have finished := sound.finished (by simp [calls]) phase
  obtain ⟨still, -, unset⟩ := finished.failed topic failure rfl
  obtain ⟨valid, unknown⟩ := unset topic messages task
  rw [calls] at stood chained
  have unknown : topic ∉ next.before := by
    refine unknown_until chained.right_of_append ?_ unpublished (still ▸ unknown)
    exact fun call member => (stood call (by simp [member])).gains
  have needed : next.task.setsUp next.before = true := by
    simp [publishes, Task.setsUp, valid, nonempty, unknown]
  have finished := sound.finished (by simp [calls]) ended
  rw [finished.created, Call.creations_needed needed, Call.table, publishes]
  rfl

theorem Service.Sound.reliable {names : Names} {batchSize : Nat} {codec : Codec} {service : Service}
    (sound : service.Sound names batchSize codec) : service.Reliable names where
  tables := sound.knows.known
  needed call member topic messages task created := by
    have needed := (sound.stands call member).needed created
    rw [task] at needed
    exact ⟨Task.setsUp_valid needed, Task.setsUp_publish needed⟩
  created call member topic messages result task phase valid nonempty unknown := by
    have finished := sound.finished member phase
    have needed : call.task.setsUp call.before = true := by
      simp [task, Task.setsUp, valid, nonempty, unknown]
    rw [finished.created, Call.creations_needed needed, Call.table, task]
    rfl
  failed call member topic failure phase := by
    obtain ⟨still, unwritten, -⟩ := (sound.finished member phase).failed topic failure rfl
    exact ⟨still, unwritten⟩
  chained := sound.chained
  latest call latest := (sound.latest call latest).1
  retried _ _ _ _ _ _ _ _ _ _ calls task phase unpublished publishes nonempty ended :=
    sound.retried calls task phase unpublished publishes nonempty ended
  passed call member topic messages result task valid nonempty phase plain := by
    have finished := sound.finished member phase
    have known := finished.passed topic messages task valid nonempty plain
    have stood := sound.stands
    have chained := sound.chained
    have latest := sound.latest
    cases calls : service.calls with
    | nil => simp [calls] at member
    | cons head earlier =>
        rw [calls] at member stood chained latest
        rw [← (latest head rfl).1]
        exact known_since chained (fun each member => (stood each member).gains) call member known
  found call member failure phase := (sound.finished member phase).found failure rfl

/-- A publisher that sets its topics up by itself. -/
theorem known_topics_have_tables (names : Names) (batchSize : Nat) (codec : Codec)
    (storage : Storage) (lasting : storage.Lasting) (events : List ServiceEvent)
    (kept : ∀ event ∈ events, event.drops = false) :
    let publisher : Publisher := { layout := names.layout batchSize codec }
    let service := Service.run { publisher, storage } events
    service.Reliable names ∧
      (∀ later, service.publisher.initialized ⊆ (service.run later).publisher.initialized) ∧
      (service.isIdle = true → ∀ task,
        let done := service.publisher.perform service.storage task
        (service.step (.call task)).Comes task service.calls (.ended done.1) done.2.1 done.2.2) := by
  intro publisher service
  have sound : service.Sound names batchSize codec := (Service.Sound.start lasting).run kept
  exact ⟨sound.reliable, service.run_initialized, fun idle task => service.call_alone task idle⟩

def locking (handle : Handle) (table : String) : List ServiceEvent :=
  [.aside .begin, .aside (.execute handle (.run (.createCursors table)))]

/-- Three calls for the same batch. The first finds the lock taken when it sets its topic up; the second
does when it appends its batch; the third does not and has nothing to set up. -/
def contended : List ServiceEvent :=
  let publish := .call (.publish "orders" [{ payload := [1] }])
  locking 0 "first" ++ publish :: List.replicate 3 .advance ++ .aside (.commit 0) ::
    publish :: List.replicate 3 .advance ++ locking 3 "second" ++ List.replicate 4 .advance ++
    .aside (.commit 3) :: publish :: List.replicate 4 .advance

theorem known_topics_have_tables_contended :
    let names := Namings.usual.names
    let storage : Storage := { clock := newYear }
    let service := Service.run { publisher := { layout := names.layout 100 .json }, storage } contended
    storage.Lasting ∧ (∀ event ∈ contended, event.drops = false) ∧ service.Reliable names ∧
      service.publisher.initialized = ["orders"] ∧
      service.calls.map (fun call => (call.before, call.journal.created)) =
        [(["orders"], []), ([], ["sqlqueue_orders"]), ([], ["sqlqueue_orders"])] := by
  intro names storage service
  have lasting : storage.Lasting := Storage.lasting_of_closed rfl
  have kept : ∀ event ∈ contended, event.drops = false := by decide +kernel
  have reliable := (known_topics_have_tables names 100 .json storage lasting contended kept).1
  exact ⟨lasting, kept, reliable, by decide +kernel, by decide +kernel⟩

end TopicLog
