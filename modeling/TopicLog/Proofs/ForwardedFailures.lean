import TopicLog.Proofs.Conflicts
import TopicLog.Proofs.Operations
import TopicLog.Proofs.RepeatedPolls

/-!
What a subscription forwards while others use its database. The failures of its polls reach the listener
in their order, all but the conflicts; so under names that read like no conflict, all that is kept back
is the loss of a lock.
-/
namespace TopicLog

/-- An occasion, and what others do to the database after it. -/
abbrev Amid := Occasion × (Storage → Storage)

namespace Subscriber

variable {σ : Type} (subscriber : Subscriber) (topic : String) (handler : Handler σ)

def stepAmid (subscription : Subscription σ) (happened : Amid) : Subscription σ :=
  let next := subscriber.step topic handler subscription happened.1
  { next with storage := happened.2 next.storage }

def stepsAmid (happened : List Amid) (subscription : Subscription σ) : Subscription σ :=
  happened.foldl (subscriber.stepAmid topic handler) subscription

def results : List Amid → Subscription σ → List (Except Failure Nat)
  | [], _ => []
  | happened :: rest, subscription =>
      let next := subscriber.stepAmid topic handler subscription happened
      (if subscription.polls happened.1 then next.returned else []) ++ results rest next

variable {subscriber topic handler} {subscription : Subscription σ} {happened : List Amid}

/-- One step: what is forwarded or still to be forwarded grows by what a poll returned. -/
theorem step_forwarded (present : subscription.listener = .present) {occasion : Occasion}
    (stays : occasion ≠ .hangUp) :
    let next := subscriber.step topic handler subscription occasion
    next.errors ++ next.pending = subscription.errors ++ subscription.pending ++
      (if subscription.polls occasion then next.returned else []).flatMap forwarded := by
  intro next
  -- A poll adds its failure to what is pending, and the turn after it moves that to what was forwarded.
  cases occasion with
  | turn =>
      cases phase : subscription.phase with
      | starting =>
          simp only [next, step, turn, phase, Subscription.polls, Subscription.pending]
          split <;> simp
      | ready =>
          simp only [next, step, turn, phase, Subscription.polls, Subscription.pending]
          by_cases awaited : subscription.shutdown = .awaited
          · simp only [awaited, ne_eq, not_true_eq_false, ↓reduceIte, decide_true]
            split <;> simp [Subscription.returned]
          · simp [awaited]
      | polled result =>
          simp only [next, step, turn, phase, Subscription.polls, Subscription.pending, present]
          rcases subscriber.next_continues result with goes | ⟨millis, goes⟩ <;> simp [goes]
      | pausing millis =>
          simp only [next, step, turn, phase, Subscription.polls, Subscription.pending]
          split <;> simp [phase]
      | ended result => simp [next, step, turn, phase, Subscription.polls, Subscription.pending]
      | hung => simp [next, step, turn, phase, Subscription.polls, Subscription.pending]
  | hangUp => exact absurd rfl stays
  | wake =>
      have idle : subscription.polls .wake = false := polls_only_turns (by simp)
      simp only [next, idle, step]
      cases phase : subscription.phase <;> simp [Subscription.pending, phase]
  | signal =>
      have idle : subscription.polls .signal = false := polls_only_turns (by simp)
      simp only [next, idle, step]
      split <;> simp [Subscription.pending]
  | abandon =>
      have idle : subscription.polls .abandon = false := polls_only_turns (by simp)
      simp only [next, idle, step]
      split <;> simp [Subscription.pending]

theorem results_forwarded (present : subscription.listener = .present)
    (stays : .hangUp ∉ happened.map Prod.fst) :
    let left := subscriber.stepsAmid topic handler happened subscription
    left.errors ++ left.pending = subscription.errors ++ subscription.pending ++
      (subscriber.results topic handler happened subscription).flatMap forwarded := by
  induction happened generalizing subscription with
  | nil => simp [stepsAmid, results]
  | cons first rest ih =>
      rw [List.map_cons, List.mem_cons, not_or] at stays
      let next := subscriber.stepAmid topic handler subscription first
      have listens : next.listener = .present := (step_listener (Ne.symm stays.1)).trans present
      have one : next.errors ++ next.pending = subscription.errors ++ subscription.pending ++
          (if subscription.polls first.1 then next.returned else []).flatMap forwarded :=
        step_forwarded present (Ne.symm stays.1)
      have more := ih listens stays.2
      rw [one] at more
      rw [results, List.flatMap_append, ← List.append_assoc]
      exact more

/-! What keeps a storage reached. -/

theorem prepare_reached {storage : Storage} (reached : storage.Reached) (subscriber : Subscriber)
    (topic : String) : (subscriber.prepare topic storage).2.Reached := by
  have first : (if subscriber.settings.initializeSchema then subscriber.setUp topic storage
      else (.ok (), storage)).2.Reached := by
    split
    · exact reached.setUp topic _
    · exact reached
  unfold prepare
  rcases ran : (if subscriber.settings.initializeSchema then subscriber.setUp topic storage
    else (.ok (), storage)) with ⟨_ | _, middle⟩ <;> rw [ran] at first
  · exact first
  · simp only [beforeSubscribing]
    split
    · exact first
    · exact first.setUp topic _

theorem step_reached (reached : subscription.storage.Reached) (subscriber : Subscriber)
    (topic : String) (handler : Handler σ) (occasion : Occasion) :
    (subscriber.step topic handler subscription occasion).storage.Reached := by
  cases occasion with
  | turn =>
      have prepared := prepare_reached reached subscriber topic
      have polled := reached.poll subscriber topic handler subscription.state
      simp only [step, turn]
      split
      · split <;> (rename_i ran; rw [ran] at prepared; exact prepared)
      · split
        · exact reached
        · split <;> (rename_i ran; rw [ran] at polled; exact polled)
      · exact reached
      · split <;> exact reached
      · exact reached
      · exact reached
  | _ =>
      simp only [step]
      split <;> exact reached

theorem returned_polled {occasion : Occasion} {result : Except Failure Nat}
    (polls : subscription.polls occasion = true)
    (returned : result ∈ (subscriber.step topic handler subscription occasion).returned) :
    (subscriber.poll topic handler subscription.state subscription.storage).1 = some result := by
  cases occasion with
  | turn =>
      cases phase : subscription.phase with
      | ready =>
          have awaited : subscription.shutdown = .awaited := by
            simpa [Subscription.polls, phase] using polls
          simp only [step, turn, phase, awaited, ne_eq, not_true_eq_false, ↓reduceIte] at returned
          split at returned <;> simp [Subscription.returned] at returned
          rename_i ran
          rw [ran, returned]
      | _ => simp [Subscription.polls, phase] at polls
  | _ => simp [polls_only_turns] at polls

end Subscriber

def Polite (happened : List Amid) : Prop :=
  ∀ occasion others, (occasion, others) ∈ happened →
    ∀ storage : Storage, storage.Reached → (others storage).Reached

section Plain

variable {names : Names} {topic : String} {σ : Type} {member : Member} {failure : Failure}

/-- What a poll fails with, if its statements were answered as a database may answer them. -/
theorem Member.journal_classified (plain : names.Plain topic)
    {script : Script (Except Failure Nat)}
    (built : (names.subscriber member).pollScript? topic = .ok script) {journal : Journal}
    (goes : script.Goes journal (some (.error failure))) (answered : journal.Answered) :
    failure.Classified :=
  (plain.poll_failsWell built).goes goes answered failure rfl

theorem Member.poll_classified (plain : names.Plain topic) {storage : Storage}
    (reached : storage.Reached) (handler : Handler σ) (state : σ)
    (failed : ((names.subscriber member).poll topic handler state storage).1 =
      some (.error failure)) : failure.Classified := by
  unfold Subscriber.poll at failed
  cases built : (names.subscriber member).pollScript? topic with
  | error other =>
      rw [built] at failed
      cases failed
      rcases failed_bind built with built | ⟨claim, -, built⟩
      · exact (ofTopic_unreported (names.cursors_claim topic _) built).classified
      rcases failed_bind built with built | ⟨fetch, -, built⟩
      · exact (ofTopic_unreported (names.layout_fetch topic _ _ _) built).classified
      · cases built
  | ok script =>
      rw [built] at failed
      have goes := Script.journal_goes handler storage.beginIsolated.1 script state
        storage.beginIsolated.2
      dsimp only at failed
      rw [failed] at goes
      exact Member.journal_classified plain built goes
        (Script.journal_answered handler _ script state reached.beginIsolated)

theorem Member.results_classified (plain : names.Plain topic) (handler : Handler σ)
    {happened : List Amid} (polite : Polite happened) {subscription : Subscription σ}
    (reached : subscription.storage.Reached)
    (polled : .error failure ∈
      (names.subscriber member).results topic handler happened subscription) :
    failure.Classified := by
  induction happened generalizing subscription with
  | nil => cases polled
  | cons first rest ih =>
      rcases List.mem_append.mp polled with now | later
      · split at now
        · rename_i polls
          exact Member.poll_classified plain reached handler subscription.state
            (Subscriber.returned_polled polls now)
        · cases now
      · have next := polite first.1 first.2 List.mem_cons_self _
          (Subscriber.step_reached reached (names.subscriber member) topic handler first.1)
        exact ih (fun occasion others member => polite occasion others (.tail _ member)) next later

theorem Member.failures_forwarded (plain : names.Plain topic) (handler : Handler σ)
    {happened : List Amid} (polite : Polite happened) {subscription : Subscription σ}
    (reached : subscription.storage.Reached) (present : subscription.listener = .present)
    (stays : .hangUp ∉ happened.map Prod.fst)
    (polled : .error failure ∈
      (names.subscriber member).results topic handler happened subscription)
    (other : ∀ error, failure.report? = some error → ¬ error.IsLock) :
    let left := (names.subscriber member).stepsAmid topic handler happened subscription
    failure ∈ left.errors ++ left.pending := by
  intro left
  have classified := Member.results_classified plain handler polite reached polled
  have forwarded : failure ∈ Subscriber.forwarded (.error failure) := by
    simp [Subscriber.forwarded, classified.kept other]
  have told : left.errors ++ left.pending = _ := Subscriber.results_forwarded present stays
  rw [told]
  exact List.mem_append_right _ (List.mem_flatMap.mpr ⟨_, polled, forwarded⟩)

end Plain

/-! The operations on a topic. -/

/-- What an operation on a topic fails with, in a transaction of some name or in none. -/
inductive Session.Fails (session : Session) (topic : String) (failure : Failure) : Prop
  | publish (messages : List Message)
      (failed : (session.publish topic messages).1 = .error failure)
  | poll {σ : Type} (settings : SubscriberSettings) (handler : Handler σ) (state : σ)
      (failed : (session.poll settings topic handler state).1 = some (.error failure))
  | claim (name : Option String) (group : String)
      (failed : (session.claim name topic group).1 = .error failure)
  | fetch (name : Option String) (group : String)
      (failed : (session.fetch name topic group).1 = .error failure)
  | mark (name : Option String) (group : String) (offset : Int)
      (failed : (session.mark name topic group offset).1 = .error failure)
  | acknowledge (name : Option String) (group : String) (offset : Int)
      (failed : (session.acknowledge name topic group offset).1 = .error failure)

theorem Session.Usual.fails {names : Names} {topic : String} {session : Session}
    (usual : session.Usual names) (plain : names.Plain topic) {failure : Failure}
    (fails : session.Fails topic failure) : failure.Classified := by
  cases fails with
  | publish messages failed =>
      exact Publisher.publish_classified plain usual.reached usual.publisher failed
  | poll settings handler state failed =>
      obtain ⟨batchSize, codec, layout⟩ := usual.layout
      have same : session.subscriber settings = names.subscriber ⟨settings, batchSize, codec⟩ := by
        simp only [Session.subscriber, Names.subscriber, layout, usual.cursors]
      simp only [Session.poll, same] at failed
      exact Member.poll_classified plain usual.reached handler state failed
  | claim name group failed => exact usual.claim plain failed
  | fetch name group failed => exact usual.fetch plain failed
  | mark name group offset failed =>
      let upsert := Upsert.mark (session.deliveryAt offset) group
      have written : (session.write name topic upsert).1 = .error failure := failed
      exact usual.write plain written
  | acknowledge name group offset failed =>
      let upsert := Upsert.acknowledge (session.deliveryAt offset) group
      have written : (session.write name topic upsert).1 = .error failure := failed
      exact usual.write plain written

/-- The failures of all operations on a topic are told rightly, and subscriptions to it keep nothing
back but the loss of a lock. -/
structure Names.Classifies (names : Names) (topic : String) : Prop where
  fails : ∀ session : Session, session.Usual names → ∀ failure, session.Fails topic failure →
    failure.Classified
  /-- Between the statements of a poll, others may do what they like. -/
  poll : ∀ (member : Member) script journal failure,
    (names.subscriber member).pollScript? topic = .ok script →
      script.Goes journal (some (.error failure)) → journal.Answered → failure.Classified
  forwards : ∀ {σ : Type} (member : Member) (handler : Handler σ) (happened : List Amid)
    (subscription : Subscription σ), Polite happened → subscription.storage.Reached →
      subscription.listener = .present → .hangUp ∉ happened.map Prod.fst →
      ∀ failure,
        .error failure ∈ (names.subscriber member).results topic handler happened subscription →
        (∀ error, failure.report? = some error → ¬ error.IsLock) →
        let left := (names.subscriber member).stepsAmid topic handler happened subscription
        failure ∈ left.errors ++ left.pending

theorem Names.Plain.classifies {names : Names} {topic : String}
    (plain : names.Plain topic) : names.Classifies topic where
  fails _ usual _ fails := usual.fails plain fails
  poll _ _ _ _ built goes answered := Member.journal_classified plain built goes answered
  forwards _ handler _ _ polite reached present stays _ :=
    Member.failures_forwarded plain handler polite reached present stays

theorem Names.session_usual (names : Names) (clock : Timestamp) :
    (names.session { clock }).Usual names where
  layout := ⟨_, _, rfl⟩
  cursors := rfl
  publisher := ⟨_, _, rfl⟩
  reached := .start clock

theorem Names.single_missing (names : Names) {topic : String} (valid : isTopic topic = true)
    {clock : Timestamp} {name : String} {action : Action}
    (missing : Database.plan {} clock (.run action) = .error (.noTable name)) :
    (names.single { clock } topic action).1 = .error (.ofFault (.noTable name)) := by
  have executed : (Storage.execute (Storage.begin { clock }).2 (Storage.begin { clock }).1
      (.run action)).1 = .error (.noTable name) := by
    have view : (Storage.begin { clock }).2.view (Storage.begin { clock }).1 = {} := rfl
    have now : (Storage.begin { clock }).2.clock = clock := rfl
    unfold Storage.execute
    rw [view, now, missing]
  rw [single, ofTopic_valid valid]
  change ((Storage.autocommit { clock } (.run action)).1).mapError _ = _
  rw [Storage.autocommit_answer, executed]
  rfl

theorem Failure.Classified.missing {name : String}
    (told : (Failure.ofFault (.noTable name)).Classified) : tellsConflict name = false := by
  have conflict := Failure.ofFault_isConflict (.noTable name)
  have code : (Fault.noTable name).isLock = false := by simp [Fault.isLock, Fault.code]
  have kept : (Failure.ofFault (.noTable name)).isConflict = false := by
    apply told.kept
    intro error reported lock
    rw [Failure.report_ofFault] at reported
    obtain rfl := Option.some.inj reported
    rw [(Fault.noTable name).isLock_iff, code] at lock
    cases lock
  rw [kept] at conflict
  simpa [Fault.names, code] using conflict.symm

theorem Names.Classifies.plain {names : Names} {topic : String} (valid : isTopic topic = true)
    (classifies : names.Classifies topic) (clock : Timestamp) : names.Plain topic := by
  have told := classifies.fails _ (names.session_usual clock)
  let claim : Claim := ⟨.sqlite, names.cursorTable topic, ""⟩
  constructor
  · let fetch : Action := .fetch (names.messageTable topic) claim defaultBatchSize
    have built : (names.session { clock }).layout.fetch topic ""
        (names.session { clock }).cursors = ofTopic topic ⟨.sqlite, fetch⟩ :=
      names.layout_fetch topic "" defaultBatchSize .json
    have unplanned : Database.plan {} clock (.run fetch) =
      .error (.noTable (names.messageTable topic)) := rfl
    have missing := names.single_missing valid unplanned
    have fetches : ((names.session { clock }).fetch none topic "").1 =
        .error (.ofFault (.noTable (names.messageTable topic))) := by
      rw [Names.single, ← built] at missing
      simp only [Session.fetch, missing]
      rfl
    exact (told _ (.fetch none "" fetches)).missing
  · have unplanned : Database.plan {} clock (.run (.claim claim)) =
      .error (.noTable (names.cursorTable topic)) := rfl
    have missing := names.single_missing valid unplanned
    have claims : ((names.session { clock }).claim none topic "").1 =
        .error (.ofFault (.noTable (names.cursorTable topic))) := by
      simp only [claim] at missing
      simp only [names.session_claim, missing]
      rfl
    exact (told _ (.claim none "" claims)).missing

/-! The usual names. -/

theorem mem_of_occursIn {part text : List Char} (occurs : occursIn part text = true) :
    ∀ c ∈ part, c ∈ text := by
  induction text with
  | nil =>
      have empty : part = [] := by simpa [occursIn] using occurs
      simp [empty]
  | cons first rest ih =>
      intro c member
      rw [occursIn, Bool.or_eq_true] at occurs
      rcases occurs with here | later
      · exact (List.isPrefixOf_iff_prefix.mp here).subset member
      · exact List.mem_cons_of_mem first (ih later c member)

/-- A topic has no blank, so it cannot tell of a locked database. -/
theorem tells_topic {topic : String} (valid : isTopic topic = true) :
    tellsConflict topic = occursIn "deadlock".toList topic.toList := by
  have apart : occursIn "database is locked".toList topic.toList = false := by
    rw [Bool.eq_false_iff]
    intro occurs
    have blank := mem_of_occursIn occurs ' ' (by decide)
    have letters := List.all_eq_true.mp (Bool.and_eq_true_iff.mp valid).2
    exact absurd (letters _ blank) (by decide)
  rw [tellsConflict, apart, Bool.false_or]

theorem Names.usual_plain {topic : String} (valid : isTopic topic = true) :
    Namings.usual.names.Plain topic ↔ occursIn "deadlock".toList topic.toList = false := by
  have messages : tellsConflict (Namings.usual.messageTable topic) = tellsConflict topic := by
    change tellsConflict ("sqlqueue_" ++ topic) = _
    simp [tellsConflict, occursIn, List.isPrefixOf]
  have cursors : tellsConflict (Namings.usual.cursorTable topic) = tellsConflict topic := by
    change tellsConflict ("sqlqueue_offsets_" ++ topic) = _
    simp [tellsConflict, occursIn, List.isPrefixOf]
  rw [← tells_topic valid]
  constructor
  · intro plain
    exact messages.symm.trans plain.messages
  · intro plain
    exact ⟨messages.trans plain, cursors.trans plain⟩

/-- Conflicts are the losses of locks, and every other failure of a poll is forwarded, exactly for the
topics whose tables have names that read like no conflict. Under the usual names, those are the topics
in which `deadlock` does not occur. -/
theorem conflicts_are_lost_locks (names : Names) (topic : String)
    (valid : isTopic topic = true) :
    (names.Classifies topic ↔ names.Plain topic) ∧
      (Namings.usual.names.Plain topic ↔ occursIn "deadlock".toList topic.toList = false) := by
  refine ⟨⟨fun classifies => ?_, Names.Plain.classifies⟩, Names.usual_plain valid⟩
  exact classifies.plain valid newYear

theorem conflicts_are_lost_locks_orders :
    isTopic "orders" = true ∧ Namings.usual.names.Classifies "orders" := by
  have both := conflicts_are_lost_locks Namings.usual.names "orders" (by decide)
  exact ⟨by decide, both.1.mpr (both.2.mpr (by decide))⟩

def missingDeadlock : DatabaseError := ⟨some "1", "no such table: sqlqueue_offsets_deadlock"⟩

def unprepared : Subscriber :=
  Namings.usual.names.subscriber { settings := { group := "billing", initializeSchema := false } }

/-- For a topic named `deadlock`, a missing table passes for a lost race: it is no lock that was lost, yet
the failure is a conflict, and a subscription polls in vain without a word to its listener. -/
theorem missing_table_passes_for_conflict :
    let storage : Storage := { clock := newYear }
    let handler : Handler Unit := fun _ state => (some .accepted, state)
    isTopic "deadlock" = true ∧ ¬ missingDeadlock.IsLock ∧
      (unprepared.poll "deadlock" handler () storage).1 =
        some (.error (.conflict (.database missingDeadlock))) ∧
      (unprepared.run "deadlock" handler 3 () storage).result = some (.ok ()) ∧
      (unprepared.run "deadlock" handler 3 () storage).errors = [] ∧
      ¬ Namings.usual.names.Classifies "deadlock" := by
  have other : ¬ missingDeadlock.IsLock := by
    unfold DatabaseError.IsLock
    decide
  have claims : ((Namings.usual.names.session { clock := newYear }).claim none "deadlock"
      "billing").1 = .error (.conflict (.database missingDeadlock)) := rfl
  refine ⟨by decide, other, rfl, rfl, rfl, fun classifies => ?_⟩
  have told := classifies.fails _ (Namings.usual.names.session_usual newYear) _
    (.claim none "billing" claims)
  have lost := told.kept fun error reported => Option.some.inj reported ▸ other
  cases lost

end TopicLog
