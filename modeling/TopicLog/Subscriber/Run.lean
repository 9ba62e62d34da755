import TopicLog.Subscriber

/-!
Subscribing to a topic: set it up if that is wanted, then poll until the end is signalled. Whatever a
poll gives, the next one follows, at once if there was something to acknowledge and else after a pause;
failures other than conflicts are forwarded to whoever listens. The signal ends a pause, but never a
poll.
-/
namespace TopicLog

inductive Shutdown where
  | awaited
  | sent
  /-- Nobody is left who could signal it. -/
  | dropped
  deriving DecidableEq, Repr

inductive Listener where
  | nobody
  | present
  | gone
  deriving DecidableEq, Repr

inductive Phase where
  | starting
  /-- The next thing is to see whether the end was signalled, and to poll if not. -/
  | ready
  /-- A poll has ended, and nothing was made of its result yet. -/
  | polled (result : Except Failure Nat)
  | pausing (millis : Nat)
  | ended (result : Except Failure Unit)
  | hung

structure Subscription (σ : Type) where
  phase : Phase := .starting
  shutdown : Shutdown := .awaited
  listener : Listener
  errors : List Failure := []
  state : σ
  storage : Storage

/-- What happens to a subscription from one moment to the next. -/
inductive Occasion where
  | turn
  | wake
  | signal
  /-- The last one who could signal the end is gone. -/
  | abandon
  | hangUp
  deriving DecidableEq, Repr

namespace Subscriber

variable {σ : Type}

structure Run (σ : Type) where
  /-- Nothing if a handler did not return. -/
  result : Option (Except Failure Unit)
  errors : List Failure := []
  state : σ
  storage : Storage

def forwarded : Except Failure Nat → List Failure
  | .ok _ => []
  | .error failure => if failure.isConflict then [] else [failure]

def polls (subscriber : Subscriber) (topic : String) (handler : Handler σ) :
    Nat → σ → Storage → Run σ
  | 0, state, storage => { result := some (.ok ()), state, storage }
  | count + 1, state, storage =>
      match subscriber.poll topic handler state storage with
      | (none, state, storage) => { result := none, state, storage }
      | (some result, state, storage) =>
          let later := subscriber.polls topic handler count state storage
          { later with errors := forwarded result ++ later.errors }

def prepare (subscriber : Subscriber) (topic : String) (storage : Storage) :
    Except Failure Unit × Storage :=
  let (ready, storage) :=
    if subscriber.settings.initializeSchema then subscriber.setUp topic storage
    else (.ok (), storage)
  match ready with
  | .error failure => (.error failure, storage)
  | .ok () => subscriber.beforeSubscribing topic storage

/-- What follows a poll: a pause, unless messages were acknowledged. -/
def next (subscriber : Subscriber) : Except Failure Nat → Phase
  | .ok 0 => .pausing subscriber.settings.pollMillis
  | .ok _ => .ready
  | .error _ => .pausing subscriber.settings.retryMillis

def turn (subscriber : Subscriber) (topic : String) (handler : Handler σ)
    (subscription : Subscription σ) : Subscription σ :=
  match subscription.phase with
  | .starting =>
      match subscriber.prepare topic subscription.storage with
      | (.error failure, storage) =>
          { subscription with phase := .ended (.error failure), storage }
      | (.ok (), storage) => { subscription with phase := .ready, storage }
  | .ready =>
      if subscription.shutdown ≠ .awaited then { subscription with phase := .ended (.ok ()) }
      else match subscriber.poll topic handler subscription.state subscription.storage with
        | (none, state, storage) => { subscription with phase := .hung, state, storage }
        | (some result, state, storage) =>
            { subscription with phase := .polled result, state, storage }
  | .polled result =>
      { subscription with
        phase := subscriber.next result
        errors := subscription.errors ++
          if subscription.listener = .present then forwarded result else [] }
  | .pausing _ =>
      if subscription.shutdown ≠ .awaited then { subscription with phase := .ended (.ok ()) }
      else subscription
  | .ended _ => subscription
  | .hung => subscription

def step (subscriber : Subscriber) (topic : String) (handler : Handler σ)
    (subscription : Subscription σ) : Occasion → Subscription σ
  | .turn => subscriber.turn topic handler subscription
  | .wake =>
      match subscription.phase with
      | .pausing _ => { subscription with phase := .ready }
      | _ => subscription
  | .signal =>
      if subscription.shutdown = .awaited then { subscription with shutdown := .sent }
      else subscription
  | .abandon =>
      if subscription.shutdown = .awaited then { subscription with shutdown := .dropped }
      else subscription
  | .hangUp =>
      if subscription.listener = .present then { subscription with listener := .gone }
      else subscription

def steps (subscriber : Subscriber) (topic : String) (handler : Handler σ)
    (occasions : List Occasion) (subscription : Subscription σ) : Subscription σ :=
  occasions.foldl (subscriber.step topic handler) subscription

/-- The occasions up to the end of a subscription of so many polls. The end is signalled during the last
poll, or before the start if there is none. -/
def occasions : Nat → List Occasion
  | 0 => [.signal, .turn, .turn]
  | count + 1 =>
      .turn :: (List.replicate count [.turn, .turn, .wake]).flatten ++
        [.turn, .signal, .turn, .turn]

def run (subscriber : Subscriber) (topic : String) (handler : Handler σ) (count : Nat)
    (state : σ) (storage : Storage) : Run σ :=
  let subscription := subscriber.steps topic handler (occasions count)
    { listener := .present, state, storage }
  { result := match subscription.phase with
      | .ended result => some result
      | _ => none
    errors := subscription.errors
    state := subscription.state
    storage := subscription.storage }

end Subscriber
end TopicLog
