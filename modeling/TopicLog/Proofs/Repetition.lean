import TopicLog.Proofs.Subscription

/-!
A subscription against its polls in a row. It is followed one occasion at a time: at each moment it
stands where as many polls as it has begun would have ended, whatever they gave and whenever the end is
signalled.
-/
namespace TopicLog

namespace Subscriber

variable {σ : Type}

/-- A prepared subscription that stands where so many polls in a row end. -/
structure Follows (subscriber : Subscriber) (topic : String) (handler : Handler σ) (state : σ)
    (prepared : Storage) (count : Nat) (journal : Journal) (subscription : Subscription σ) :
    Prop where
  started : subscription.phase ≠ .starting
  kept : subscription.state = (subscriber.polls topic handler count state prepared).state
  stored : subscription.storage = (subscriber.polls topic handler count state prepared).storage
  written : journal = subscriber.pollsJournal topic handler count state prepared
  hung : subscription.phase = .hung ↔
    (subscriber.polls topic handler count state prepared).result = none
  ended : ∀ result, subscription.phase = .ended result → result = .ok () ∧ subscription.Signalled
  told : ∃ told, subscriber.pollResults topic handler count state prepared =
      told ++ subscription.returned ∧
    (subscription.listener = .present → subscription.errors = told.flatMap forwarded)

/-- Where a subscription may stand that began with a state and a storage. -/
inductive Course (subscriber : Subscriber) (topic : String) (handler : Handler σ) (state : σ)
    (storage : Storage) : Nat → Journal → Subscription σ → Prop where
  | starting {subscription : Subscription σ} (phase : subscription.phase = .starting)
      (kept : subscription.state = state) (untouched : subscription.storage = storage)
      (silent : subscription.errors = []) :
      Course subscriber topic handler state storage 0 [] subscription
  | failed {subscription : Subscription σ} {failure : Failure}
      (unprepared : subscriber.prepare topic storage = (.error failure, subscription.storage))
      (phase : subscription.phase = .ended (.error failure)) (kept : subscription.state = state)
      (silent : subscription.errors = []) :
      Course subscriber topic handler state storage 0 [] subscription
  | following {subscription : Subscription σ} {prepared : Storage} {count : Nat} {journal : Journal}
      (ready : subscriber.prepare topic storage = (.ok (), prepared))
      (follows : subscriber.Follows topic handler state prepared count journal subscription) :
      Course subscriber topic handler state storage count journal subscription

variable {subscriber : Subscriber} {topic : String} {handler : Handler σ} {state : σ}
  {storage prepared : Storage} {count : Nat} {journal : Journal}
  {subscription after : Subscription σ}

/-! One occasion. -/

theorem Follows.still
    (follows : subscriber.Follows topic handler state prepared count journal subscription)
    (kept : after.state = subscription.state) (untouched : after.storage = subscription.storage)
    (started : after.phase ≠ .starting) (hung : after.phase = .hung ↔ subscription.phase = .hung)
    (ended : ∀ result, after.phase = .ended result → result = .ok () ∧ after.Signalled)
    (told : ∃ told, subscription.returned = told ++ after.returned ∧
      (after.listener = .present → subscription.listener = .present ∧
        after.errors = subscription.errors ++ told.flatMap forwarded)) :
    subscriber.Follows topic handler state prepared count journal after where
  started := started
  kept := kept.trans follows.kept
  stored := untouched.trans follows.stored
  written := follows.written
  hung := hung.trans follows.hung
  ended := ended
  told := by
    obtain ⟨early, results, errors⟩ := follows.told
    obtain ⟨more, left, next⟩ := told
    refine ⟨early ++ more, by rw [results, left, List.append_assoc], fun present => ?_⟩
    rw [(next present).2, errors (next present).1, List.flatMap_append]

theorem Follows.poll
    (follows : subscriber.Follows topic handler state prepared count journal subscription)
    (ready : subscription.phase = .ready) (awaited : subscription.shutdown = .awaited) :
    subscriber.Follows topic handler state prepared (count + 1)
      (journal ++ subscriber.journal topic handler subscription.state subscription.storage)
      (subscriber.turn topic handler subscription) := by
  have returned : (subscriber.polls topic handler count state prepared).result ≠ none := by
    intro hung
    cases ready.symm.trans (follows.hung.mpr hung)
  obtain ⟨told, results, errors⟩ := follows.told
  simp only [Subscription.returned, ready, List.append_nil] at results
  have more := pollResults_snoc returned
  -- The polls in a row are counted from the front, a subscription adds one at the end.
  have journals := follows.written ▸ pollsJournal_snoc returned
  rw [← follows.kept, ← follows.stored] at journals
  rcases polled : subscriber.poll topic handler subscription.state subscription.storage with
    ⟨result, later, left⟩
  have same := polled
  rw [follows.kept, follows.stored] at same
  have next := polls_snoc returned same
  cases result with
  | none =>
      have turned : subscriber.turn topic handler subscription =
          { subscription with phase := .hung, state := later, storage := left } := by
        simp [turn, ready, awaited, polled]
      rw [turned]
      exact
        { started := by simp
          kept := by rw [next]
          stored := by rw [next]
          written := journals.symm
          hung := by simp [next]
          ended := by simp
          told := ⟨told, by simp [more, same, results, Subscription.returned], errors⟩ }
  | some result =>
      have turned : subscriber.turn topic handler subscription =
          { subscription with phase := .polled result, state := later, storage := left } := by
        simp [turn, ready, awaited, polled]
      rw [turned]
      exact
        { started := by simp
          kept := by rw [next]
          stored := by rw [next]
          written := journals.symm
          hung := by simp [next]
          ended := by simp
          told := ⟨told, by simp [more, same, results, Subscription.returned], errors⟩ }

theorem next_continues (subscriber : Subscriber) (result : Except Failure Nat) :
    subscriber.next result = .ready ∨ ∃ millis, subscriber.next result = .pausing millis := by
  unfold next
  split
  · exact .inr ⟨_, rfl⟩
  · exact .inl rfl
  · exact .inr ⟨_, rfl⟩

theorem Follows.goOn
    (follows : subscriber.Follows topic handler state prepared count journal subscription)
    {result : Except Failure Nat} (polled : subscription.phase = .polled result) :
    subscriber.Follows topic handler state prepared count journal
      (subscriber.turn topic handler subscription) := by
  have turned : subscriber.turn topic handler subscription =
      { subscription with
        phase := subscriber.next result
        errors := subscription.errors ++
          if subscription.listener = .present then forwarded result else [] } := by
    simp [turn, polled]
  rw [turned]
  rcases subscriber.next_continues result with next | ⟨millis, next⟩
  all_goals
    refine follows.still rfl rfl ?_ ?_ ?_ ?_
    · simp [next]
    · simp [next, polled]
    · simp [next]
    · refine ⟨[result], by simp [Subscription.returned, next, polled], fun present => ?_⟩
      have present : subscription.listener = .present := present
      exact ⟨present, by simp [present]⟩

theorem Follows.stop
    (follows : subscriber.Follows topic handler state prepared count journal subscription)
    (waiting : subscription.phase = .ready ∨ ∃ millis, subscription.phase = .pausing millis)
    (signalled : subscription.Signalled) :
    subscriber.Follows topic handler state prepared count journal
      (subscriber.turn topic handler subscription) := by
  have turned : subscriber.turn topic handler subscription =
      { subscription with phase := .ended (.ok ()) } := by
    rcases waiting with ready | ⟨millis, pausing⟩
    · simp [turn, ready, signalled]
    · simp [turn, pausing, signalled]
  have quiet : subscription.returned = [] := by
    rcases waiting with ready | ⟨millis, pausing⟩
    · simp [Subscription.returned, ready]
    · simp [Subscription.returned, pausing]
  rw [turned]
  refine follows.still rfl rfl (by simp) ?_ ?_ ?_
  · rcases waiting with ready | ⟨millis, pausing⟩
    · simp [ready]
    · simp [pausing]
  · rintro result ⟨⟩
    exact ⟨rfl, signalled⟩
  · exact ⟨[], quiet, fun present => ⟨present, by simp⟩⟩

theorem Follows.turn
    (follows : subscriber.Follows topic handler state prepared count journal subscription) :
    subscriber.Follows topic handler state prepared
      (count + if subscription.polls .turn then 1 else 0)
      (journal ++ if subscription.polls .turn then
        subscriber.journal topic handler subscription.state subscription.storage else [])
      (subscriber.turn topic handler subscription) := by
  cases phase : subscription.phase with
  | starting => exact absurd phase follows.started
  | ready =>
      by_cases awaited : subscription.shutdown = .awaited
      · have polls : subscription.polls .turn = true := by
          simp [Subscription.polls, phase, awaited]
        rw [if_pos polls, if_pos polls]
        exact follows.poll phase awaited
      · have idle : subscription.polls .turn = false := by
          simp [Subscription.polls, phase, awaited]
        simpa [idle] using follows.stop (.inl phase) awaited
  | polled result => simpa [Subscription.polls, phase] using follows.goOn phase
  | pausing millis =>
      by_cases awaited : subscription.shutdown = .awaited
      · simpa [Subscription.polls, phase, Subscriber.turn, awaited] using follows
      · simpa [Subscription.polls, phase] using follows.stop (.inr ⟨millis, phase⟩) awaited
  | ended result => simpa [Subscription.polls, phase, Subscriber.turn] using follows
  | hung => simpa [Subscription.polls, phase, Subscriber.turn] using follows

theorem Follows.wake
    (follows : subscriber.Follows topic handler state prepared count journal subscription) :
    subscriber.Follows topic handler state prepared count journal
      (subscriber.step topic handler subscription .wake) := by
  cases phase : subscription.phase with
  | pausing millis =>
      have woken : subscriber.step topic handler subscription .wake =
          { subscription with phase := .ready } := by simp [step, phase]
      rw [woken]
      refine follows.still rfl rfl (by simp) ?_ ?_ ?_
      · simp [phase]
      · rintro result ⟨⟩
      · exact ⟨[], by simp [Subscription.returned, phase], fun present => ⟨present, by simp⟩⟩
  | _ => simpa [step, phase] using follows

theorem Follows.outside
    (follows : subscriber.Follows topic handler state prepared count journal subscription)
    {occasion : Occasion} (outside : occasion ≠ .turn ∧ occasion ≠ .wake) :
    subscriber.Follows topic handler state prepared count journal
      (subscriber.step topic handler subscription occasion) := by
  cases occasion with
  | turn => exact absurd rfl outside.1
  | wake => exact absurd rfl outside.2
  | signal =>
      simp only [step]
      split
      · exact follows.still rfl rfl follows.started Iff.rfl
          (fun result ended => ⟨(follows.ended result ended).1, by simp [Subscription.Signalled]⟩)
          ⟨[], rfl, fun present => ⟨present, by simp⟩⟩
      · exact follows
  | abandon =>
      simp only [step]
      split
      · exact follows.still rfl rfl follows.started Iff.rfl
          (fun result ended => ⟨(follows.ended result ended).1, by simp [Subscription.Signalled]⟩)
          ⟨[], rfl, fun present => ⟨present, by simp⟩⟩
      · exact follows
  | hangUp =>
      simp only [step]
      split
      · exact follows.still rfl rfl follows.started Iff.rfl follows.ended ⟨[], rfl, by simp⟩
      · exact follows

theorem polls_only_turns {occasion : Occasion} (other : occasion ≠ .turn) :
    subscription.polls occasion = false := by
  unfold Subscription.polls
  split
  · exact absurd rfl other
  · rfl

theorem Follows.step
    (follows : subscriber.Follows topic handler state prepared count journal subscription)
    (occasion : Occasion) :
    subscriber.Follows topic handler state prepared
      (count + if subscription.polls occasion then 1 else 0)
      (journal ++ if subscription.polls occasion then
        subscriber.journal topic handler subscription.state subscription.storage else [])
      (subscriber.step topic handler subscription occasion) := by
  by_cases turns : occasion = .turn
  · subst turns
    exact follows.turn
  · have idle : subscription.polls occasion = false := polls_only_turns turns
    by_cases wakes : occasion = .wake
    · subst wakes
      simpa [idle] using follows.wake
    · simpa [idle] using follows.outside ⟨turns, wakes⟩

theorem prepared_course (phase : subscription.phase = .starting) (kept : subscription.state = state)
    (untouched : subscription.storage = storage) (silent : subscription.errors = []) :
    subscriber.Course topic handler state storage 0 []
      (subscriber.turn topic handler subscription) := by
  rcases ready : subscriber.prepare topic storage with ⟨result, left⟩
  cases result with
  | error failure =>
      have turned : subscriber.turn topic handler subscription =
          { subscription with phase := .ended (.error failure), storage := left } := by
        simp [turn, phase, untouched, ready]
      rw [turned]
      exact .failed ready rfl kept silent
  | ok done =>
      have turned : subscriber.turn topic handler subscription =
          { subscription with phase := .ready, storage := left } := by
        simp [turn, phase, untouched, ready]
      rw [turned]
      exact .following ready
        { started := by simp
          kept := kept
          stored := rfl
          written := rfl
          hung := by simp [polls]
          ended := by simp
          told := ⟨[], rfl, fun _ => silent⟩ }

theorem Course.step
    (course : subscriber.Course topic handler state storage count journal subscription)
    (occasion : Occasion) :
    subscriber.Course topic handler state storage
      (count + if subscription.polls occasion then 1 else 0)
      (journal ++ if subscription.polls occasion then
        subscriber.journal topic handler subscription.state subscription.storage else [])
      (subscriber.step topic handler subscription occasion) := by
  cases course with
  | starting phase kept untouched silent =>
      have idle : subscription.polls occasion = false := by simp [Subscription.polls, phase]
      simp only [idle, Bool.false_eq_true, if_false, Nat.add_zero, List.append_nil]
      cases occasion with
      | turn => exact prepared_course phase kept untouched silent
      | wake =>
          simp only [Subscriber.step, phase]
          exact .starting phase kept untouched silent
      | _ =>
          simp only [Subscriber.step]
          split <;> exact .starting phase kept untouched silent
  | failed unprepared phase kept silent =>
      have idle : subscription.polls occasion = false := by simp [Subscription.polls, phase]
      simp only [idle, Bool.false_eq_true, if_false, Nat.add_zero, List.append_nil]
      cases occasion with
      | turn =>
          simp only [Subscriber.step, Subscriber.turn, phase]
          exact .failed unprepared phase kept silent
      | wake =>
          simp only [Subscriber.step, phase]
          exact .failed unprepared phase kept silent
      | _ =>
          simp only [Subscriber.step]
          split <;> exact .failed unprepared phase kept silent
  | following ready follows => exact .following ready (follows.step occasion)

/-! A whole run. -/

theorem Course.steps
    (course : subscriber.Course topic handler state storage count journal subscription)
    (happened : List Occasion) :
    subscriber.Course topic handler state storage
      (count + subscriber.started topic handler happened subscription)
      (journal ++ subscriber.did topic handler happened subscription)
      (subscriber.steps topic handler happened subscription) := by
  induction happened generalizing count journal subscription with
  | nil => simpa [started, did, Subscriber.steps] using course
  | cons occasion rest ih =>
      have later := ih (course.step occasion)
      rwa [Nat.add_assoc, List.append_assoc] at later

end Subscriber

end TopicLog
