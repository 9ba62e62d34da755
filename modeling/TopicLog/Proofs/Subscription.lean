import TopicLog.Subscriber.Run
import TopicLog.Proofs.Delivery

/-!
A subscription does what its polls do, one after another. Only the signal ends it, and a poll that has
begun is finished. Who listens makes no difference to anything but what the listener is told.
-/
namespace TopicLog

namespace Subscription

variable {σ : Type}

/-- Whether a subscription begins a poll on an occasion. -/
def polls (subscription : Subscription σ) (occasion : Occasion) : Bool :=
  match subscription.phase, occasion with
  | .ready, .turn => subscription.shutdown = .awaited
  | _, _ => false

def pending (subscription : Subscription σ) : List Failure :=
  match subscription.phase with
  | .polled result => Subscriber.forwarded result
  | _ => []

/-- The result of a poll of which nothing was made yet. -/
def returned (subscription : Subscription σ) : List (Except Failure Nat) :=
  match subscription.phase with
  | .polled result => [result]
  | _ => []

abbrev Signalled (subscription : Subscription σ) : Prop := subscription.shutdown ≠ .awaited

end Subscription

def Occasion.signals : Occasion → Bool
  | .signal | .abandon => true
  | _ => false

/-- How many turns a subscription takes at most that was told to end. -/
def Phase.turnsLeft : Phase → Nat
  | .starting | .polled _ => 2
  | .ready | .pausing _ => 1
  | .ended _ | .hung => 0

namespace Subscriber

variable {σ : Type} (subscriber : Subscriber) (topic : String) (handler : Handler σ)

def started : List Occasion → Subscription σ → Nat
  | [], _ => 0
  | occasion :: rest, subscription =>
      (if subscription.polls occasion then 1 else 0) +
        started rest (subscriber.step topic handler subscription occasion)

/-- What a subscription does in all its polls. -/
def did : List Occasion → Subscription σ → Journal
  | [], _ => []
  | occasion :: rest, subscription =>
      (if subscription.polls occasion then
          subscriber.journal topic handler subscription.state subscription.storage
        else []) ++
        did rest (subscriber.step topic handler subscription occasion)

def pollsJournal : Nat → σ → Storage → Journal
  | 0, _, _ => []
  | count + 1, state, storage =>
      subscriber.journal topic handler state storage ++
        match subscriber.poll topic handler state storage with
        | (none, _, _) => []
        | (some _, state, storage) => pollsJournal count state storage

/-- What so many polls give, one after another, as far as they return. -/
def pollResults : Nat → σ → Storage → List (Except Failure Nat)
  | 0, _, _ => []
  | count + 1, state, storage =>
      match subscriber.poll topic handler state storage with
      | (none, _, _) => []
      | (some result, state, storage) => result :: pollResults count state storage

def failures (results : List (Except Failure Nat)) : List Failure :=
  results.filterMap fun result => match result with
    | .ok _ => none
    | .error failure => some failure

theorem flatMap_forwarded (results : List (Except Failure Nat)) :
    results.flatMap forwarded = (failures results).filter fun failure => !failure.isConflict := by
  induction results with
  | nil => rfl
  | cons result rest ih =>
      rw [List.flatMap_cons, ih]
      cases result with
      | ok count => rfl
      | error failure =>
          cases conflict : failure.isConflict <;> simp [forwarded, failures, conflict]

variable {subscriber topic handler}

/-! One more poll. -/

section Polls

variable {count : Nat} {state after : σ} {storage left : Storage} {result : Except Failure Nat}

theorem polls_result (count : Nat) (state : σ) (storage : Storage) :
    (subscriber.polls topic handler count state storage).result = none ∨
      (subscriber.polls topic handler count state storage).result = some (.ok ()) := by
  induction count generalizing state storage with
  | zero => exact .inr rfl
  | succ count ih =>
      rcases polled : subscriber.poll topic handler state storage with ⟨result, after, left⟩
      cases result with
      | none => simp [polls, polled]
      | some result =>
          simp only [polls, polled]
          exact ih after left

theorem polls_cons {early : Except Failure Nat} {middle : σ} {between : Storage}
    (first : subscriber.poll topic handler state storage = (some early, middle, between)) :
    subscriber.polls topic handler (count + 1) state storage =
      { subscriber.polls topic handler count middle between with
        errors := forwarded early ++
          (subscriber.polls topic handler count middle between).errors } := by
  simp only [polls, first]

theorem pollResults_cons {early : Except Failure Nat} {middle : σ} {between : Storage}
    (first : subscriber.poll topic handler state storage = (some early, middle, between)) :
    subscriber.pollResults topic handler (count + 1) state storage =
      early :: subscriber.pollResults topic handler count middle between := by
  simp only [pollResults, first]

theorem pollsJournal_cons {early : Except Failure Nat} {middle : σ} {between : Storage}
    (first : subscriber.poll topic handler state storage = (some early, middle, between)) :
    subscriber.pollsJournal topic handler (count + 1) state storage =
      subscriber.journal topic handler state storage ++
        subscriber.pollsJournal topic handler count middle between := by
  simp only [pollsJournal, first]

theorem returned_first
    (returned : (subscriber.polls topic handler (count + 1) state storage).result ≠ none) :
    ∃ early middle between,
      subscriber.poll topic handler state storage = (some early, middle, between) := by
  rcases first : subscriber.poll topic handler state storage with ⟨early, middle, between⟩
  cases early with
  | none =>
      simp only [polls, first] at returned
      exact absurd rfl returned
  | some early => exact ⟨early, middle, between, rfl⟩

theorem polls_snoc {result : PollResult}
    (returned : (subscriber.polls topic handler count state storage).result ≠ none)
    (polled : subscriber.poll topic handler
      (subscriber.polls topic handler count state storage).state
      (subscriber.polls topic handler count state storage).storage = (result, after, left)) :
    subscriber.polls topic handler (count + 1) state storage =
      { result := result.map fun _ => .ok ()
        errors := (subscriber.polls topic handler count state storage).errors ++
          result.toList.flatMap forwarded
        state := after, storage := left } := by
  induction count generalizing state storage with
  | zero =>
      have first : subscriber.poll topic handler state storage = (result, after, left) := polled
      cases result with
      | none => simp [polls, first]
      | some early => simp [polls, first]
  | succ count ih =>
      obtain ⟨early, middle, between, first⟩ := returned_first returned
      rw [polls_cons first] at returned polled
      rw [polls_cons first, polls_cons first, ih returned polled, List.append_assoc]

theorem pollsJournal_snoc
    (returned : (subscriber.polls topic handler count state storage).result ≠ none) :
    subscriber.pollsJournal topic handler (count + 1) state storage =
      subscriber.pollsJournal topic handler count state storage ++
        subscriber.journal topic handler
          (subscriber.polls topic handler count state storage).state
          (subscriber.polls topic handler count state storage).storage := by
  induction count generalizing state storage with
  | zero =>
      rcases first : subscriber.poll topic handler state storage with ⟨early, middle, between⟩
      cases early <;> simp [pollsJournal, polls, first]
  | succ count ih =>
      obtain ⟨early, middle, between, first⟩ := returned_first returned
      rw [polls_cons first] at returned
      rw [pollsJournal_cons first, pollsJournal_cons first, polls_cons first, ih returned,
        List.append_assoc]

theorem pollResults_snoc
    (returned : (subscriber.polls topic handler count state storage).result ≠ none) :
    subscriber.pollResults topic handler (count + 1) state storage =
      subscriber.pollResults topic handler count state storage ++
        (subscriber.poll topic handler
          (subscriber.polls topic handler count state storage).state
          (subscriber.polls topic handler count state storage).storage).1.toList := by
  induction count generalizing state storage with
  | zero =>
      rcases first : subscriber.poll topic handler state storage with ⟨early, middle, between⟩
      cases early <;> simp [pollResults, polls, first]
  | succ count ih =>
      obtain ⟨early, middle, between, first⟩ := returned_first returned
      rw [polls_cons first] at returned
      rw [pollResults_cons first, pollResults_cons first, polls_cons first, ih returned,
        List.cons_append]

theorem polls_errors (count : Nat) (state : σ) (storage : Storage) :
    (subscriber.polls topic handler count state storage).errors =
      (subscriber.pollResults topic handler count state storage).flatMap forwarded := by
  induction count generalizing state storage with
  | zero => rfl
  | succ count ih =>
      rcases first : subscriber.poll topic handler state storage with ⟨early, middle, between⟩
      cases early with
      | none => simp only [polls, pollResults, first, List.flatMap_nil]
      | some early => rw [polls_cons first, pollResults_cons first, List.flatMap_cons, ih]

end Polls

/-! The end of a subscription. -/

section Ending

variable (subscriber topic handler) {subscription : Subscription σ} {occasion : Occasion}
  {before rest : List Occasion}

theorem started_append (before rest : List Occasion) (subscription : Subscription σ) :
    subscriber.started topic handler (before ++ rest) subscription =
      subscriber.started topic handler before subscription +
        subscriber.started topic handler rest
          (subscriber.steps topic handler before subscription) := by
  induction before generalizing subscription with
  | nil => simp [started, steps]
  | cons occasion before ih =>
      simp only [List.cons_append, started, ih, steps, List.foldl_cons]
      omega

theorem started_le (happened : List Occasion) (subscription : Subscription σ) :
    subscriber.started topic handler happened subscription ≤ happened.count .turn := by
  induction happened generalizing subscription with
  | nil => simp [started]
  | cons occasion rest ih =>
      have later := ih (subscriber.step topic handler subscription occasion)
      have first : (if subscription.polls occasion then 1 else 0) ≤
          if occasion = .turn then 1 else 0 := by
        cases occasion <;> cases phase : subscription.phase <;> simp [Subscription.polls, phase]
        split <;> decide
      rw [started, List.count_cons]
      simp only [beq_iff_eq]
      omega

/-- The first turn is no poll yet. -/
theorem started_starting (happened : List Occasion) (starting : subscription.phase = .starting) :
    subscriber.started topic handler happened subscription ≤ happened.count .turn - 1 := by
  induction happened generalizing subscription with
  | nil => simp [started]
  | cons occasion rest ih =>
      have unpolled : subscription.polls occasion = false := by simp [Subscription.polls, starting]
      rw [started, unpolled, if_neg Bool.false_ne_true, Nat.zero_add]
      by_cases turns : occasion = .turn
      · subst turns
        have later := subscriber.started_le topic handler rest
          (subscriber.step topic handler subscription .turn)
        simpa using later
      · have still : (subscriber.step topic handler subscription occasion).phase = .starting := by
          cases occasion <;> simp_all [step] <;> split <;> simp [starting]
        rw [List.count_cons_of_ne turns]
        exact ih still

theorem step_signalled (signalled : subscription.Signalled) (occasion : Occasion) :
    (subscriber.step topic handler subscription occasion).Signalled := by
  cases occasion with
  | turn =>
      simp only [step, turn]
      repeat' split
      all_goals exact signalled
  | wake =>
      simp only [step]
      split <;> exact signalled
  | signal =>
      simp only [step]
      split
      · simp [Subscription.Signalled]
      · exact signalled
  | abandon =>
      simp only [step]
      split
      · simp [Subscription.Signalled]
      · exact signalled
  | hangUp =>
      simp only [step]
      split <;> exact signalled

theorem signalled_of_signals (signals : occasion.signals = true) :
    (subscriber.step topic handler subscription occasion).Signalled := by
  cases occasion <;> simp only [Occasion.signals] at signals <;> try cases signals
  all_goals
    simp only [step]
    split
    · simp [Subscription.Signalled]
    · assumption

theorem started_signalled (signalled : subscription.Signalled) (rest : List Occasion) :
    subscriber.started topic handler rest subscription = 0 := by
  induction rest generalizing subscription with
  | nil => rfl
  | cons occasion rest ih =>
      have unpolled : subscription.polls occasion = false := by
        unfold Subscription.polls
        split
        · exact decide_eq_false signalled
        · rfl
      rw [started, unpolled, if_neg Bool.false_ne_true, Nat.zero_add,
        ih (subscriber.step_signalled topic handler signalled occasion)]

theorem step_turnsLeft (signalled : subscription.Signalled) (occasion : Occasion) :
    (subscriber.step topic handler subscription occasion).phase.turnsLeft ≤
      subscription.phase.turnsLeft - if occasion = .turn then 1 else 0 := by
  cases occasion with
  | turn =>
      cases phase : subscription.phase with
      | starting =>
          simp only [step, turn, phase]
          split <;> simp [Phase.turnsLeft]
      | polled result =>
          simp only [step, turn, phase, next]
          split <;> simp [Phase.turnsLeft]
      | ready => simp [step, turn, phase, signalled, Phase.turnsLeft]
      | pausing millis => simp [step, turn, phase, signalled, Phase.turnsLeft]
      | ended result => simp [step, turn, phase, Phase.turnsLeft]
      | hung => simp [step, turn, phase, Phase.turnsLeft]
  | wake =>
      simp only [step]
      split
      · simp_all [Phase.turnsLeft]
      · simp
  | signal => simp [step, signalled]
  | abandon => simp [step, signalled]
  | hangUp =>
      simp only [step]
      split <;> simp

theorem steps_turnsLeft (signalled : subscription.Signalled) (rest : List Occasion) :
    (subscriber.steps topic handler rest subscription).phase.turnsLeft ≤
      subscription.phase.turnsLeft - rest.count .turn := by
  induction rest generalizing subscription with
  | nil => simp [steps]
  | cons occasion rest ih =>
      have first := subscriber.step_turnsLeft topic handler signalled occasion
      have later := ih (subscriber.step_signalled topic handler signalled occasion)
      rw [steps, List.foldl_cons, List.count_cons]
      simp only [beq_iff_eq, steps] at later ⊢
      omega

end Ending

end Subscriber

end TopicLog
