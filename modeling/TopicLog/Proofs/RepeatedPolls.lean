import TopicLog.Proofs.Layouts
import TopicLog.Proofs.Repetition

/-!
What a subscription comes to. Its polls do what as many polls in a row do; the end is signalled at any
moment, by hand or because nobody is left to signal it; and who is told of failures is nothing to the
polls.
-/
namespace TopicLog

namespace Subscriber

variable {σ : Type} {subscriber : Subscriber} {topic : String} {handler : Handler σ} {state : σ}
  {storage prepared : Storage} {subscription one other : Subscription σ}

/-- How a subscription is prepared: the topic is set up if that is wanted, and unless this fails, what
the layout of cursors wants is done before the first poll. -/
inductive Prepares (subscriber : Subscriber) (topic : String) (storage : Storage) :
    Except Failure Unit → Storage → Prop where
  | failed {failure : Failure} {left : Storage}
      (wanted : subscriber.settings.initializeSchema = true)
      (failed : subscriber.setUp topic storage = (.error failure, left)) :
      Prepares subscriber topic storage (.error failure) left
  | setUp {between prepared : Storage} {result : Except Failure Unit}
      (wanted : subscriber.settings.initializeSchema = true)
      (succeeded : subscriber.setUp topic storage = (.ok (), between))
      (before : subscriber.beforeSubscribing topic between = (result, prepared)) :
      Prepares subscriber topic storage result prepared
  | unwanted {prepared : Storage} {result : Except Failure Unit}
      (unwanted : subscriber.settings.initializeSchema = false)
      (before : subscriber.beforeSubscribing topic storage = (result, prepared)) :
      Prepares subscriber topic storage result prepared

theorem prepares_iff {result : Except Failure Unit} :
    subscriber.Prepares topic storage result prepared ↔
      subscriber.prepare topic storage = (result, prepared) := by
  constructor
  · rintro (⟨wanted, failed⟩ | ⟨wanted, succeeded, before⟩ | ⟨unwanted, before⟩)
    · simp only [prepare, wanted, ↓reduceIte, failed]
    · simp only [prepare, wanted, ↓reduceIte, succeeded, before]
    · simp only [prepare, unwanted, Bool.false_eq_true, ↓reduceIte, before]
  · intro prepares
    cases wanted : subscriber.settings.initializeSchema with
    | false =>
        simp only [prepare, wanted, Bool.false_eq_true, ↓reduceIte] at prepares
        exact .unwanted wanted prepares
    | true =>
        simp only [prepare, wanted, ↓reduceIte] at prepares
        rcases set : subscriber.setUp topic storage with ⟨_ | _, between⟩
        · rw [set] at prepares
          cases prepares
          exact .failed wanted set
        · rw [set] at prepares
          exact .setUp wanted set prepares

theorem prepare_fails {failure : Failure}
    (failed : subscriber.prepare topic storage = (.error failure, prepared)) :
    ∃ cause, failure = .schema topic cause := by
  have setUp_fails {before after : Storage} {statements : Except Failure (List Statement)}
      (failed : before.setUp topic statements = (.error failure, after)) :
      ∃ cause, failure = .schema topic cause := by
    unfold Storage.setUp at failed
    repeat' split at failed
    all_goals cases failed
    all_goals exact ⟨_, rfl⟩
  unfold prepare at failed
  rcases first : (if subscriber.settings.initializeSchema then subscriber.setUp topic storage
    else (.ok (), storage)) with ⟨result, left⟩
  rw [first] at failed
  cases result with
  | error early =>
      cases failed
      by_cases wanted : subscriber.settings.initializeSchema
      · rw [if_pos wanted] at first
        exact setUp_fails first
      · rw [if_neg wanted] at first
        cases first
  | ok done =>
      simp only [beforeSubscribing] at failed
      split at failed
      · cases failed
      · exact setUp_fails failed

/-! What is left after a list of occasions. -/

theorem steps_append (before rest : List Occasion) (subscription : Subscription σ) :
    subscriber.steps topic handler (before ++ rest) subscription =
      subscriber.steps topic handler rest (subscriber.steps topic handler before subscription) :=
  List.foldl_append

theorem step_started (begun : subscription.phase ≠ .starting) (occasion : Occasion) :
    (subscriber.step topic handler subscription occasion).phase ≠ .starting := by
  cases occasion with
  | turn =>
      simp only [step, turn]
      split
      · exact absurd ‹_› begun
      · repeat' split
        all_goals simp
      · simp only [next]
        split <;> simp
      · split
        · simp
        · exact begun
      · exact begun
      · exact begun
  | wake =>
      simp only [step]
      split
      · simp
      · exact begun
  | _ =>
      simp only [step]
      split <;> exact begun

theorem turn_started (subscription : Subscription σ) :
    (subscriber.turn topic handler subscription).phase ≠ .starting := by
  by_cases begun : subscription.phase = .starting
  · simp only [turn, begun]
    split <;> simp
  · exact subscriber.step_started begun .turn

theorem steps_started {happened : List Occasion}
    (turns : .turn ∈ happened ∨ subscription.phase ≠ .starting) :
    (subscriber.steps topic handler happened subscription).phase ≠ .starting := by
  induction happened generalizing subscription with
  | nil => exact turns.resolve_left (List.not_mem_nil)
  | cons occasion rest ih =>
      apply ih
      rcases turns with member | begun
      · rcases List.mem_cons.mp member with rfl | later
        · exact .inr (turn_started subscription)
        · exact .inl later
      · exact .inr (step_started begun occasion)

theorem signals_of_signalled {happened : List Occasion} (awaited : subscription.shutdown = .awaited)
    (signalled : (subscriber.steps topic handler happened subscription).Signalled) :
    ∃ occasion ∈ happened, occasion.signals = true := by
  induction happened generalizing subscription with
  | nil => exact absurd awaited signalled
  | cons occasion rest ih =>
      by_cases signals : occasion.signals = true
      · exact ⟨occasion, List.mem_cons_self, signals⟩
      · have still : (subscriber.step topic handler subscription occasion).shutdown = .awaited := by
          cases occasion with
          | turn =>
              simp only [step, turn]
              repeat' split
              all_goals exact awaited
          | wake =>
              simp only [step]
              split <;> exact awaited
          | hangUp =>
              simp only [step]
              split <;> exact awaited
          | _ => exact absurd rfl signals
        obtain ⟨later, member, hit⟩ := ih still signalled
        exact ⟨later, List.mem_cons_of_mem _ member, hit⟩

/-! Who listens. -/

theorem step_listener {occasion : Occasion} (stays : occasion ≠ .hangUp) :
    (subscriber.step topic handler subscription occasion).listener = subscription.listener := by
  cases occasion with
  | turn =>
      simp only [step, turn]
      repeat' split
      all_goals rfl
  | hangUp => exact absurd rfl stays
  | _ =>
      simp only [step]
      split <;> rfl

theorem steps_listener {happened : List Occasion} (stays : .hangUp ∉ happened) :
    (subscriber.steps topic handler happened subscription).listener = subscription.listener := by
  induction happened generalizing subscription with
  | nil => rfl
  | cons occasion rest ih =>
      rw [List.mem_cons, not_or] at stays
      exact (ih stays.2).trans (step_listener (Ne.symm stays.1))

theorem step_unheard (subscriber : Subscriber) (topic : String) (handler : Handler σ)
    (unheard : subscription.listener ≠ .present) (occasion : Occasion) :
    (subscriber.step topic handler subscription occasion).listener ≠ .present ∧
      (subscriber.step topic handler subscription occasion).errors = subscription.errors := by
  by_cases goes : occasion = .hangUp
  · subst goes
    simp [step, unheard]
  · rw [step_listener goes]
    refine ⟨unheard, ?_⟩
    cases occasion with
    | turn =>
        simp only [step, turn]
        repeat' split
        all_goals simp_all
    | hangUp => exact absurd rfl goes
    | _ =>
        simp only [step]
        split <;> rfl

theorem steps_unheard (unheard : subscription.listener ≠ .present) (happened : List Occasion) :
    (subscriber.steps topic handler happened subscription).errors = subscription.errors := by
  induction happened generalizing subscription with
  | nil => rfl
  | cons occasion rest ih =>
      have first := subscriber.step_unheard topic handler unheard occasion
      exact (ih first.1).trans first.2

theorem steps_hangUp (before rest : List Occasion) (subscription : Subscription σ) :
    (subscriber.steps topic handler (before ++ .hangUp :: rest) subscription).errors =
      (subscriber.steps topic handler before subscription).errors := by
  generalize reached : subscriber.steps topic handler before subscription = middle
  have gone : (subscriber.step topic handler middle .hangUp).listener ≠ .present := by
    simp only [step]
    split
    · simp
    · assumption
  have silent : (subscriber.step topic handler middle .hangUp).errors = middle.errors := by
    simp only [step]
    split <;> rfl
  rw [steps_append, reached]
  exact (steps_unheard gone rest).trans silent

/-- Two subscriptions that differ in nothing but in whom they tell, and what. -/
structure Alike (one other : Subscription σ) : Prop where
  phase : one.phase = other.phase
  shutdown : one.shutdown = other.shutdown
  state : one.state = other.state
  storage : one.storage = other.storage

theorem Alike.polls (alike : Alike one other) (occasion : Occasion) :
    one.polls occasion = other.polls occasion := by
  simp only [Subscription.polls, alike.phase, alike.shutdown]

theorem Alike.step (alike : Alike one other) (occasion : Occasion) :
    Alike (subscriber.step topic handler one occasion)
      (subscriber.step topic handler other occasion) := by
  obtain ⟨phase, shutdown, listener, errors, state, storage⟩ := one
  obtain ⟨phase', shutdown', listener', errors', state', storage'⟩ := other
  obtain ⟨rfl, rfl, rfl, rfl⟩ := alike
  cases occasion with
  | turn =>
      cases phase with
      | starting =>
          simp only [Subscriber.step, turn]
          rcases subscriber.prepare topic storage with ⟨_ | _, left⟩ <;>
            exact ⟨rfl, rfl, rfl, rfl⟩
      | ready =>
          simp only [Subscriber.step, turn]
          split
          · exact ⟨rfl, rfl, rfl, rfl⟩
          · rcases subscriber.poll topic handler state storage with ⟨_ | _, after, left⟩ <;>
              exact ⟨rfl, rfl, rfl, rfl⟩
      | pausing millis =>
          simp only [Subscriber.step, turn]
          split <;> exact ⟨rfl, rfl, rfl, rfl⟩
      | _ => exact ⟨rfl, rfl, rfl, rfl⟩
  | wake => cases phase <;> exact ⟨rfl, rfl, rfl, rfl⟩
  | hangUp =>
      simp only [Subscriber.step]
      split <;> split <;> exact ⟨rfl, rfl, rfl, rfl⟩
  | _ =>
      simp only [Subscriber.step]
      split <;> exact ⟨rfl, rfl, rfl, rfl⟩

theorem alike_hangUp (subscription : Subscription σ) :
    Alike (subscriber.step topic handler subscription .hangUp) subscription := by
  simp only [step]
  split <;> exact ⟨rfl, rfl, rfl, rfl⟩

theorem Alike.trans {last : Subscription σ} (first : Alike one other) (second : Alike other last) :
    Alike one last :=
  ⟨first.phase.trans second.phase, first.shutdown.trans second.shutdown,
    first.state.trans second.state, first.storage.trans second.storage⟩

theorem Alike.steps (alike : Alike one other) (happened : List Occasion) :
    Alike (subscriber.steps topic handler happened one)
      (subscriber.steps topic handler (happened.filter (· ≠ .hangUp)) other) ∧
    subscriber.did topic handler happened one =
      subscriber.did topic handler (happened.filter (· ≠ .hangUp)) other := by
  induction happened generalizing one other with
  | nil => exact ⟨alike, rfl⟩
  | cons occasion rest ih =>
      by_cases goes : occasion = .hangUp
      · subst goes
        have idle : one.polls .hangUp = false := polls_only_turns (by simp)
        have gone : Alike (subscriber.step topic handler one .hangUp) one := alike_hangUp one
        obtain ⟨left, did⟩ := ih (gone.trans alike)
        simp only [Subscriber.did, idle]
        exact ⟨left, did⟩
      · have next : Alike (subscriber.step topic handler one occasion)
            (subscriber.step topic handler other occasion) := alike.step occasion
        obtain ⟨left, did⟩ := ih next
        rw [List.filter_cons_of_pos (by simpa using goes)]
        refine ⟨left, ?_⟩
        rw [Subscriber.did, Subscriber.did, alike.polls occasion, alike.state, alike.storage, did]

/-! As many polls as one likes. -/

theorem steps_hung {happened : List Occasion} (hung : subscription.phase = .hung)
    (quiet : ∀ occasion ∈ happened, occasion = .turn ∨ occasion = .wake) :
    subscriber.steps topic handler happened subscription = subscription := by
  induction happened with
  | nil => rfl
  | cons occasion rest ih =>
      have still : subscriber.step topic handler subscription occasion = subscription := by
        rcases quiet occasion List.mem_cons_self with rfl | rfl
        · simp [step, turn, hung]
        · simp [step, hung]
      have later := ih fun occasion member => quiet occasion (List.mem_cons_of_mem _ member)
      rw [steps, List.foldl_cons, still]
      exact later

theorem round_ready {result : Except Failure Nat} {after : σ} {left : Storage}
    (ready : subscription.phase = .ready) (awaited : subscription.shutdown = .awaited)
    (present : subscription.listener = .present)
    (polled : subscriber.poll topic handler subscription.state subscription.storage =
      (some result, after, left)) :
    subscriber.steps topic handler [.turn, .turn, .wake] subscription =
      { subscription with
        errors := subscription.errors ++ forwarded result, state := after, storage := left } := by
  rcases subscriber.next_continues result with next | ⟨millis, next⟩ <;>
    simp [steps, step, turn, ready, awaited, present, polled, next]

theorem rounds_ready (count : Nat) (ready : subscription.phase = .ready)
    (awaited : subscription.shutdown = .awaited) (present : subscription.listener = .present) :
    let repeated := subscriber.polls topic handler count subscription.state subscription.storage
    subscriber.steps topic handler (List.replicate count [.turn, .turn, .wake]).flatten subscription =
      { subscription with
        phase := if repeated.result.isSome then .ready else .hung
        errors := subscription.errors ++ repeated.errors
        state := repeated.state, storage := repeated.storage } := by
  induction count generalizing subscription with
  | zero => simp [steps, polls, ← ready]
  | succ count ih =>
      intro repeated
      rw [List.replicate_succ, List.flatten_cons, steps_append]
      rcases polled : subscriber.poll topic handler subscription.state subscription.storage with
        ⟨result, after, left⟩
      cases result with
      -- A handler that never returns leaves the other rounds nothing to do.
      | none =>
          have hangs : repeated = { result := none, state := after, storage := left } := by
            simp only [repeated, polls, polled]
          have hung : subscriber.steps topic handler [.turn, .turn, .wake] subscription =
              { subscription with phase := .hung, state := after, storage := left } := by
            simp [steps, step, turn, ready, awaited, polled]
          rw [hung, steps_hung rfl (by simp [List.mem_flatten, List.mem_replicate]), hangs]
          simp
      | some result =>
          have more : repeated = { subscriber.polls topic handler count after left with
              errors := forwarded result ++
                (subscriber.polls topic handler count after left).errors } := polls_cons polled
          have later := @ih
            { subscription with
              errors := subscription.errors ++ forwarded result, state := after, storage := left }
            ready awaited present
          rw [round_ready ready awaited present polled, later, more]
          simp

theorem failed_steps {failure : Failure} (handler : Handler σ) (listener : Listener) (state : σ)
    (happened : List Occasion)
    (failed : subscriber.prepare topic storage = (.error failure, prepared)) :
    let begun : Subscription σ := { listener, state, storage }
    let left := subscriber.steps topic handler happened begun
    subscriber.started topic handler happened begun = 0 ∧
      subscriber.did topic handler happened begun = [] ∧ left.state = state ∧ left.errors = [] ∧
      (.turn ∈ happened → left.phase = .ended (.error failure) ∧ left.storage = prepared) := by
  intro begun left
  have course := (Course.starting rfl rfl rfl rfl :
    subscriber.Course topic handler state storage 0 [] begun).steps happened
  rw [Nat.zero_add, List.nil_append] at course
  generalize subscriber.started topic handler happened begun = count at course
  generalize subscriber.did topic handler happened begun = journal at course
  cases course with
  | starting phase kept untouched silent =>
      refine ⟨rfl, rfl, kept, silent, fun turns => ?_⟩
      exact absurd phase (steps_started (.inl turns))
  | failed unprepared phase kept silent =>
      cases failed.symm.trans unprepared
      exact ⟨rfl, rfl, kept, silent, fun _ => ⟨phase, rfl⟩⟩
  | following ready follows => cases failed.symm.trans ready

theorem run_failed {failure : Failure}
    (failed : subscriber.prepare topic storage = (.error failure, prepared)) (count : Nat) :
    subscriber.run topic handler count state storage =
      { result := some (.error failure), state, storage := prepared } := by
  have turns : .turn ∈ occasions count := by cases count <;> simp [occasions]
  obtain ⟨-, -, kept, silent, ended⟩ :=
    failed_steps handler .present state (occasions count) failed
  obtain ⟨phase, left⟩ := ended turns
  simp only [run, phase, kept, silent, left]

theorem polls_hung {count : Nat}
    (hung : (subscriber.polls topic handler count state storage).result = none) :
    subscriber.polls topic handler (count + 1) state storage =
      subscriber.polls topic handler count state storage := by
  induction count generalizing state storage with
  | zero => cases hung
  | succ count ih =>
      rcases first : subscriber.poll topic handler state storage with ⟨result, after, left⟩
      cases result with
      | none => simp only [polls, first]
      | some result =>
          rw [polls_cons first] at hung
          rw [polls_cons first, polls_cons first, ih hung]

theorem run_prepared (ready : subscriber.prepare topic storage = (.ok (), prepared)) (count : Nat) :
    subscriber.run topic handler count state storage =
      subscriber.polls topic handler count state prepared := by
  cases count with
  | zero => simp [run, occasions, steps, step, turn, ready, polls]
  | succ count =>
      let begun : Subscription σ :=
        { phase := .ready, listener := .present, state, storage := prepared }
      have first : subscriber.steps topic handler (occasions (count + 1))
          { listener := .present, state, storage } =
          subscriber.steps topic handler [.turn, .signal, .turn, .turn]
            (subscriber.steps topic handler
              (List.replicate count [.turn, .turn, .wake]).flatten begun) := by
        rw [occasions, List.cons_append, steps, List.foldl_cons, List.foldl_append]
        simp [step, turn, ready, begun, steps]
      -- All rounds but the last are full ones; in the last one the end is signalled during the poll.
      rw [run, first, rounds_ready count rfl rfl rfl]
      rcases polls_result count state prepared with hung | returned
      · rw [polls_hung hung]
        cases same : subscriber.polls topic handler count state prepared
        simp only [same] at hung
        simp [begun, hung, steps, step, turn]
      · have goes : (subscriber.polls topic handler count state prepared).result ≠ none := by
          simp [returned]
        rcases polled : subscriber.poll topic handler
          (subscriber.polls topic handler count state prepared).state
          (subscriber.polls topic handler count state prepared).storage with ⟨result, after, left⟩
        rw [polls_snoc goes polled]
        cases result with
        | none => simp [begun, returned, steps, step, turn, polled]
        | some result =>
            rcases subscriber.next_continues result with next | ⟨millis, next⟩ <;>
              simp [begun, returned, steps, step, turn, polled, next]

/-! The whole of a subscription. -/

theorem prepared_follows (handler : Handler σ) (listener : Listener) (state : σ)
    {happened : List Occasion} (ready : subscriber.prepare topic storage = (.ok (), prepared))
    (turns : .turn ∈ happened) :
    let begun : Subscription σ := { listener, state, storage }
    subscriber.Follows topic handler state prepared
      (subscriber.started topic handler happened begun)
      (subscriber.did topic handler happened begun)
      (subscriber.steps topic handler happened begun) := by
  intro begun
  have course := (Course.starting rfl rfl rfl rfl :
    subscriber.Course topic handler state storage 0 [] begun).steps happened
  rw [Nat.zero_add, List.nil_append] at course
  generalize subscriber.started topic handler happened begun = count at course ⊢
  generalize subscriber.did topic handler happened begun = journal at course ⊢
  cases course with
  | starting phase => exact absurd phase (steps_started (.inl turns))
  | failed unprepared => cases ready.symm.trans unprepared
  | following prepares follows =>
      cases ready.symm.trans prepares
      exact follows

/-- No poll is begun once the end is signalled, and two turns later nothing goes on. -/
theorem signalled_steps {occasion : Occasion} (signals : occasion.signals = true)
    (before rest : List Occasion) (subscription : Subscription σ) :
    let left := subscriber.steps topic handler (before ++ occasion :: rest) subscription
    subscriber.started topic handler (before ++ occasion :: rest) subscription =
        subscriber.started topic handler before subscription ∧
      (2 ≤ rest.count .turn → left.phase = .hung ∨ ∃ result, left.phase = .ended result) := by
  intro left
  have signalled : (subscriber.step topic handler
      (subscriber.steps topic handler before subscription) occasion).Signalled :=
    signalled_of_signals subscriber topic handler signals
  constructor
  · have silent : occasion ≠ .turn := by
      rintro rfl
      cases signals
    rw [started_append, started, polls_only_turns silent,
      started_signalled subscriber topic handler signalled rest]
    rfl
  · intro turns
    have less := subscriber.steps_turnsLeft topic handler signalled rest
    have few (phase : Phase) : phase.turnsLeft ≤ 2 := by cases phase <;> simp [Phase.turnsLeft]
    have last : left.phase.turnsLeft = 0 := by
      have split : left = subscriber.steps topic handler rest (subscriber.step topic handler
          (subscriber.steps topic handler before subscription) occasion) :=
        steps_append before (occasion :: rest) subscription
      have most := few (subscriber.step topic handler
        (subscriber.steps topic handler before subscription) occasion).phase
      rw [split]
      omega
    cases phase : left.phase with
    | ended result => exact .inr ⟨result, rfl⟩
    | hung => exact .inl rfl
    | _ => simp [phase, Phase.turnsLeft] at last

/-- For the occasions that happen to a subscription, whichever they are.

First, if the set-up fails then that failure, which names the topic, is the result, and nothing is polled.
Second, if it succeeds then all that is left is what the begun polls leave in a row, no poll but a
signal ends the subscription, and a listener who stays is told of the failures of these polls, all but
the conflicts, each once and in order. Third, no poll is begun after the signal, none at all if it came
before the first, and the subscription ends, unless a handler never returns. The rest is about listeners:
one who goes away is told nothing more, one who is not there is told nothing, and neither makes a
difference to anything else. -/
theorem run_repeats_polls (subscriber : Subscriber) (topic : String) (handler : Handler σ)
    (listener : Listener) (state : σ) (storage : Storage) (happened : List Occasion) :
    let begun : Subscription σ := { listener, state, storage }
    let left := subscriber.steps topic handler happened begun
    let count := subscriber.started topic handler happened begun
    let did := subscriber.did topic handler happened begun
    (∃ result prepared, subscriber.Prepares topic storage result prepared) ∧
    (∀ failure prepared, subscriber.Prepares topic storage (.error failure) prepared →
      (∃ cause, failure = .schema topic cause) ∧ count = 0 ∧ did = [] ∧ left.state = state ∧
        left.errors = [] ∧
        (.turn ∈ happened → left.phase = .ended (.error failure) ∧ left.storage = prepared)) ∧
    (∀ prepared, subscriber.Prepares topic storage (.ok ()) prepared → .turn ∈ happened →
      let repeated := subscriber.polls topic handler count state prepared
      let results := subscriber.pollResults topic handler count state prepared
      left.state = repeated.state ∧ left.storage = repeated.storage ∧
        did = subscriber.pollsJournal topic handler count state prepared ∧
        (left.phase = .hung ↔ repeated.result = none) ∧
        (∀ result, left.phase = .ended result →
          result = .ok () ∧ ∃ occasion ∈ happened, occasion.signals = true) ∧
        (listener = .present → .hangUp ∉ happened → ∃ told, results = told ++ left.returned ∧
          left.errors = (failures told).filter fun failure => !failure.isConflict)) ∧
    (∀ before occasion rest, happened = before ++ occasion :: rest → occasion.signals = true →
      count = subscriber.started topic handler before begun ∧
        (before.count .turn ≤ 1 → count = 0) ∧
        (2 ≤ rest.count .turn →
          left.phase = .hung ∨ ∃ result, left.phase = .ended result)) ∧
    (∀ before rest, happened = before ++ .hangUp :: rest →
      left.errors = (subscriber.steps topic handler before begun).errors) ∧
    (listener ≠ .present → left.errors = []) ∧
    (∀ otherwise again, again.filter (· ≠ .hangUp) = happened.filter (· ≠ .hangUp) →
      let same := subscriber.steps topic handler again { listener := otherwise, state, storage }
      same.phase = left.phase ∧ same.state = left.state ∧ same.storage = left.storage ∧
        subscriber.did topic handler again { listener := otherwise, state, storage } = did) ∧
    ∀ polls,
      (∀ failure prepared, subscriber.Prepares topic storage (.error failure) prepared →
        subscriber.run topic handler polls state storage =
          { result := some (.error failure), state, storage := prepared }) ∧
      ∀ prepared, subscriber.Prepares topic storage (.ok ()) prepared →
        let repeated := subscriber.polls topic handler polls state prepared
        let results := subscriber.pollResults topic handler polls state prepared
        subscriber.run topic handler polls state storage =
          { repeated with
            errors := (failures results).filter fun failure => !failure.isConflict } := by
  intro begun left count did
  refine ⟨⟨_, _, prepares_iff.mpr rfl⟩, ?_, ?_, ?_, ?_, ?_, ?_, ?_⟩
  · intro failure prepared failed
    have failed := prepares_iff.mp failed
    exact ⟨prepare_fails failed, failed_steps handler listener state happened failed⟩
  · intro prepared ready turns repeated results
    have following := prepared_follows handler listener state (prepares_iff.mp ready) turns
    refine ⟨following.kept, following.stored, following.written, following.hung, ?_, ?_⟩
    · intro result ended
      obtain ⟨done, signalled⟩ := following.ended result ended
      exact ⟨done, signals_of_signalled rfl signalled⟩
    · intro present stays
      obtain ⟨told, whole, errors⟩ := following.told
      rw [flatMap_forwarded] at errors
      exact ⟨told, whole, errors ((steps_listener stays).trans present)⟩
  · rintro before occasion rest rfl signals
    obtain ⟨stops, ends⟩ := signalled_steps signals before rest begun
    refine ⟨stops, fun early => ?_, ends⟩
    have fewer : subscriber.started topic handler before begun ≤ before.count .turn - 1 :=
      started_starting subscriber topic handler before rfl
    omega
  · rintro before rest rfl
    exact steps_hangUp before rest begun
  · intro unheard
    exact steps_unheard unheard happened
  · intro otherwise again same
    -- Both are compared with what happens without a listener.
    let alone : Subscription σ := { listener := .nobody, state, storage }
    have alike (who : Listener) : Alike { listener := who, state, storage } alone :=
      ⟨rfl, rfl, rfl, rfl⟩
    obtain ⟨mine, did_mine⟩ := (alike listener).steps happened
    obtain ⟨theirs, did_theirs⟩ := (alike otherwise).steps again
    rw [same] at theirs did_theirs
    exact ⟨theirs.phase.trans mine.phase.symm, theirs.state.trans mine.state.symm,
      theirs.storage.trans mine.storage.symm, did_theirs.trans did_mine.symm⟩
  · intro polls
    constructor
    · intro failure prepared failed
      exact run_failed (prepares_iff.mp failed) polls
    · intro prepared ready repeated results
      rw [run_prepared (prepares_iff.mp ready), ← flatMap_forwarded, ← polls_errors]

def stocked : Storage :=
  let publisher : Publisher := { layout := Namings.usual.layout defaultBatchSize .json }
  let member : Member := { settings := { group := "billing" } }
  let published := publisher.publish "orders" [{ payload := [1] }, { payload := [2] }]
    { clock := newYear }
  ((member.subscriber .usual).setUp "orders" published.2.2).2

def refuseOnce : Handler Nat := fun _ calls =>
  (some (if calls = 0 then .refused "no stock" else .accepted), calls + 1)

theorem run_repeats_polls_refused :
    let subscriber := Member.subscriber { settings := { group := "billing" } } .usual
    let begun : Subscription Nat := { listener := .present, state := 0, storage := stocked }
    let happened : List Occasion := [.turn, .turn, .turn, .wake, .turn, .signal, .turn, .turn]
    let left := subscriber.steps "orders" refuseOnce happened begun
    let prepared := (subscriber.setUp "orders" stocked).2
    subscriber.Prepares "orders" stocked (.ok ()) prepared ∧ .turn ∈ happened ∧
      .hangUp ∉ happened ∧ subscriber.started "orders" refuseOnce happened begun = 2 ∧
      left.phase = .ended (.ok ()) ∧ left.errors = [.handler 1 (.other "no stock")] ∧
      left.storage = (subscriber.polls "orders" refuseOnce 2 0 prepared).storage := by
  intro subscriber begun happened left prepared
  have set : (subscriber.setUp "orders" stocked).1.isOk = true := by decide +kernel
  have prepares : subscriber.Prepares "orders" stocked (.ok ()) prepared := by
    cases ready : (subscriber.setUp "orders" stocked).1 with
    | error failure =>
        rw [ready] at set
        cases set
    | ok done => exact .setUp rfl (Prod.ext ready rfl) rfl
  have count : subscriber.started "orders" refuseOnce happened begun = 2 := by decide +kernel
  have returns : (subscriber.polls "orders" refuseOnce 2 0 prepared).result.isSome = true := by
    decide +kernel
  have failed : failures (subscriber.pollResults "orders" refuseOnce 2 0 prepared) =
      [.handler 1 (.other "no stock")] := by decide +kernel
  obtain ⟨-, -, ready, signalled, -⟩ :=
    run_repeats_polls subscriber "orders" refuseOnce .present 0 stocked happened
  obtain ⟨-, stored, -, hung, ends, told⟩ := ready prepared prepares (by decide)
  obtain ⟨-, -, ending⟩ :=
    signalled [.turn, .turn, .turn, .wake, .turn] .signal [.turn, .turn] rfl rfl
  rw [count] at stored hung told
  have phase : left.phase = .ended (.ok ()) := by
    rcases ending (by decide) with stuck | ⟨result, ended⟩
    · rw [hung.mp stuck] at returns
      cases returns
    · rw [ended, (ends result ended).1]
  obtain ⟨all, results, errors⟩ := told rfl (by decide)
  have nothing : left.returned = [] := by simp only [Subscription.returned, phase]
  rw [nothing, List.append_nil] at results
  rw [← results, failed] at errors
  exact ⟨prepares, by decide, by decide, count, phase, errors, stored⟩

end Subscriber

end TopicLog
