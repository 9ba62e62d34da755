import TopicLog.Proofs.Batches
import TopicLog.Proofs.Undisturbed

/-!
Databases that agree on something. Where every statement of an operation answers alike in databases
that agree, and leaves them agreeing, the whole operation does; where every statement leaves a database
in agreement with what it agreed with before, the operation might as well not have been. Both hold of
transactions that no other one disturbs.
-/
namespace TopicLog

/-- Databases that agree are not told apart by more than look-ups. -/
def Stable (agree : Database → Database → Prop) : Prop :=
  ∀ first second one other : Database, first.Same one → second.Same other → agree first second →
    agree one other

/-- A statement that databases which agree answer alike, and that leaves them in agreement. -/
def Action.Respects (agree : Database → Database → Prop) (action : Action) : Prop :=
  ∀ now first second, agree first second →
    (first.answer now (.run action)).1.map Effect.told =
        (second.answer now (.run action)).1.map Effect.told ∧
      agree (first.answer now (.run action)).2 (second.answer now (.run action)).2

/-- A statement that leaves a database in agreement with all that it agreed with. -/
def Action.Spares (agree : Database → Database → Prop) (action : Action) : Prop :=
  ∀ now first second, agree first second → agree (first.answer now (.run action)).2 second

def Command.IsRun (allowed : Action → Prop) (command : Command) : Prop :=
  ∃ action, command = .run action ∧ allowed action

namespace Script

variable {α σ : Type} {agree : Database → Database → Prop}

/-- A script that goes on in the same way after answers that tell the same. -/
def Blind : Script α → Prop
  | .done _ => True
  | .execute _ next =>
      (∀ first second : Except Fault Effect,
        first.map Effect.told = second.map Effect.told → next first = next second) ∧
        ∀ answer, (next answer).Blind
  | .hand _ next => ∀ verdict, (next verdict).Blind
  | .commit next => next.Blind
  | .rollback next => next.Blind

theorem runs_weaken {allowed wider : Command → Prop} (wide : ∀ command, allowed command → wider command)
    {script : Script α} (runs : script.Runs allowed) : script.Runs wider := by
  induction script with
  | done result => trivial
  | execute command next ih => exact ⟨wide command runs.1, fun answer => ih answer (runs.2 answer)⟩
  | hand delivery next ih => exact fun verdict => ih verdict (runs verdict)
  | commit next ih => exact ih runs
  | rollback next ih => exact ih runs

theorem stated_of_runs {allowed : Action → Prop} {script : Script α}
    (runs : script.Runs (Command.IsRun allowed)) : script.IsStated :=
  runs_weaken (fun _ ⟨action, same, _⟩ => ⟨action, same⟩) runs

structure Coincide (agree : Database → Database → Prop) (first second : Outcome α σ) : Prop where
  result : first.result = second.result
  state : first.state = second.state
  handed : first.handed = second.handed
  database : agree first.database second.database

theorem alone_respects (handler : Handler σ) (now : Timestamp) {script : Script α}
    (blind : script.Blind) (runs : script.Runs (Command.IsRun (Action.Respects agree))) (state : σ)
    {committed view committed' view' : Database} (outside : agree committed committed')
    (inside : agree view view') :
    Coincide agree (script.alone handler now state committed view)
      (script.alone handler now state committed' view') := by
  -- What is committed and what is seen agree at every step; a commit and a rollback trade one for the
  -- other.
  induction script generalizing state committed view committed' view' with
  | done result => exact ⟨rfl, rfl, rfl, outside⟩
  | execute command next ih =>
      obtain ⟨⟨action, rfl, respects⟩, later⟩ := runs
      obtain ⟨same, left⟩ := respects now view view' inside
      have rest := ih (view.answer now (.run action)).1 (blind.2 _) (later _) state outside left
      simp only [alone]
      rw [← blind.1 _ _ same]
      exact rest
  | hand delivery next ih =>
      cases judged : handler delivery state with
      | mk verdict after =>
          cases verdict with
          | none =>
              simp only [alone, judged]
              exact ⟨rfl, rfl, rfl, outside⟩
          | some verdict =>
              have rest := ih verdict (blind verdict) (runs verdict) after outside inside
              simp only [alone, judged]
              exact ⟨rest.result, rest.state, congrArg ((delivery, some verdict) :: ·) rest.handed,
                rest.database⟩
  | commit next ih => exact ih blind runs state inside inside
  | rollback next ih => exact ih blind runs state outside outside

theorem alone_spares (handler : Handler σ) (now : Timestamp) {script : Script α}
    (runs : script.Runs (Command.IsRun (Action.Spares agree))) (state : σ)
    {committed view other : Database} (outside : agree committed other) (inside : agree view other) :
    agree (script.alone handler now state committed view).database other := by
  induction script generalizing state committed view with
  | done result => exact outside
  | execute command next ih =>
      obtain ⟨⟨action, rfl, spares⟩, later⟩ := runs
      exact ih _ (later _) state outside (spares now view other inside)
  | hand delivery next ih =>
      cases judged : handler delivery state with
      | mk verdict after =>
          cases verdict with
          | none =>
              simp only [alone, judged]
              exact outside
          | some verdict =>
              simp only [alone, judged]
              exact ih verdict (runs verdict) after outside inside
  | commit next ih => exact ih runs state inside inside
  | rollback next ih => exact ih runs state outside outside

/-! Scripts that are blind. -/

theorem told_cases {ε : Type} {first second : Except ε Effect}
    (told : first.map Effect.told = second.map Effect.told) :
    (∃ fault, first = .error fault ∧ second = .error fault) ∨
      ∃ effect other : Effect, first = .ok effect ∧ second = .ok other ∧ effect.told = other.told := by
  cases first with
  | error fault =>
      cases second with
      | error other =>
          cases told
          exact .inl ⟨fault, rfl, rfl⟩
      | ok effect => cases told
  | ok effect =>
      cases second with
      | error fault => cases told
      | ok other => exact .inr ⟨effect, other, rfl, rfl, Except.ok.inj told⟩

theorem statement_blind {statement : Statement} {next : Effect → Script (Except Failure α)}
    (same : ∀ first second : Effect, first.told = second.told → next first = next second)
    (blind : ∀ effect, (next effect).Blind) : (Script.statement statement next).Blind := by
  constructor
  · intro first second told
    rcases told_cases told with ⟨fault, rfl, rfl⟩ | ⟨effect, other, rfl, rfl, alike⟩
    · rfl
    · exact same effect other alike
  · intro answer
    cases answer with
    | error fault => trivial
    | ok effect => exact blind effect

theorem require_blind {β : Type} {wanted : Except Failure β} {next : β → Script (Except Failure α)}
    (blind : ∀ value, (next value).Blind) : (Script.require wanted next).Blind := by
  cases wanted with
  | error failure => trivial
  | ok value => exact blind value

theorem all_blind (statements : List Statement) : (Script.all statements).Blind := by
  induction statements with
  | nil => trivial
  | cons first rest ih => exact statement_blind (fun _ _ _ => rfl) fun _ => ih

theorem single_blind (command : Command) : (Script.single command).Blind := by
  constructor
  · intro first second told
    rcases told_cases told with ⟨fault, rfl, rfl⟩ | ⟨effect, other, rfl, rfl, alike⟩
    · rfl
    · simp only [alike]
  · intro answer
    cases answer <;> trivial

end Script

namespace Subscriber

theorem deliver_blind (subscriber : Subscriber) (topic : String) (rows : List (List Value))
    (count : Nat) : (subscriber.deliver topic rows count).Blind := by
  induction rows generalizing count with
  | nil => trivial
  | cons columns rest ih =>
      unfold deliver
      cases subscriber.layout.decode (.ofColumns columns) with
      | error failure => trivial
      | ok delivery =>
          apply Script.require_blind
          intro mark
          apply Script.statement_blind (fun _ _ _ => rfl)
          intro _ verdict
          cases verdict with
          | refused text => trivial
          | accepted =>
              exact Script.require_blind fun statement =>
                Script.statement_blind (fun _ _ _ => rfl) fun _ => ih (count + 1)

theorem poll_blind {subscriber : Subscriber} {topic : String} {script : Script (Except Failure Nat)}
    (built : subscriber.pollScript? topic = .ok script) : script.Blind := by
  obtain ⟨claim, fetch, -, -, rfl⟩ := pollScript_built built
  have rows {first second : Effect} (told : first.told = second.told) : first.rows = second.rows :=
    congrArg Prod.fst told
  apply Script.statement_blind
  · intro first second told
    simp only [Script.scalar, rows told]
  · intro claimed
    apply Script.require_blind
    intro _
    apply Script.statement_blind
    · intro first second told
      rw [rows told]
    · intro fetched
      exact deliver_blind subscriber topic fetched.rows 0

end Subscriber

/-! Storages. -/

/-- Storages without open transactions, at the same time, whose databases agree. -/
structure Storage.Agrees (agree : Database → Database → Prop) (first second : Storage) : Prop where
  closed : first.holds = []
  closedToo : second.holds = []
  clock : first.clock = second.clock
  committed : agree first.committed second.committed

section Storage

variable {α σ : Type} {agree : Database → Database → Prop} {first second : Storage}

theorem Storage.Agrees.settle (agrees : first.Agrees agree second) :
    first.settle.Agrees agree second.settle :=
  ⟨agrees.closed, agrees.closedToo, agrees.clock, agrees.committed⟩

theorem Storage.Agrees.perform (stable : Stable agree) (agrees : first.Agrees agree second)
    {script : Script α} (ends : script.Ends) (blind : script.Blind)
    (runs : script.Runs (Command.IsRun (Action.Respects agree))) :
    (first.perform script).1 = (second.perform script).1 ∧
      (first.perform script).2.Agrees agree (second.perform script).2 := by
  have stated := Script.stated_of_runs runs
  obtain ⟨result, same, closed, clock⟩ := Storage.perform_alone ends stated agrees.closed
  obtain ⟨resultToo, sameToo, closedToo, clockToo⟩ :=
    Storage.perform_alone ends stated agrees.closedToo
  have both := Script.alone_respects (fun _ _ => (none, ())) first.clock blind runs ()
    agrees.committed agrees.committed
  rw [← agrees.clock] at resultToo sameToo clockToo
  refine ⟨result.trans (both.result.trans resultToo.symm), closed, closedToo, ?_, ?_⟩
  · exact clock.trans clockToo.symm
  · exact stable _ _ _ _ same.symm sameToo.symm both.database

theorem Storage.Agrees.perform_spared (stable : Stable agree) (agrees : first.Agrees agree second)
    {script : Script α} (ends : script.Ends)
    (runs : script.Runs (Command.IsRun (Action.Spares agree))) :
    (first.perform script).2.Agrees agree second := by
  obtain ⟨-, same, closed, clock⟩ :=
    Storage.perform_alone ends (Script.stated_of_runs runs) agrees.closed
  have spared := Script.alone_spares (fun _ _ => (none, ())) first.clock runs ()
    agrees.committed agrees.committed
  exact ⟨closed, agrees.closedToo, clock.trans agrees.clock,
    stable _ _ _ _ same.symm (.refl _) spared⟩

theorem Storage.Agrees.autocommit (stable : Stable agree) (agrees : first.Agrees agree second)
    {action : Action} (respects : action.Respects agree) :
    (first.autocommit (.run action)).1.map Effect.told =
        (second.autocommit (.run action)).1.map Effect.told ∧
      (first.autocommit (.run action)).2.Agrees agree (second.autocommit (.run action)).2 := by
  have both := agrees.perform stable (Script.single_ends _) (Script.single_blind (.run action))
    (Script.single_runs ⟨action, rfl, respects⟩)
  rw [Storage.perform_single, Storage.perform_single] at both
  exact ⟨Option.some.inj both.1, both.2⟩

theorem Storage.Agrees.autocommit_spared (stable : Stable agree)
    (agrees : first.Agrees agree second) {action : Action} (spares : action.Spares agree) :
    (first.autocommit (.run action)).2.Agrees agree second := by
  have spared := agrees.perform_spared stable (Script.single_ends (.run action))
    (Script.single_runs ⟨action, rfl, spares⟩)
  rw [Storage.perform_single] at spared
  exact spared

theorem Script.all_runs_of {allowed : Action → Prop} {statements : List Statement}
    (each : ∀ statement ∈ statements, allowed statement.action) :
    (Script.all statements).Runs (Command.IsRun allowed) :=
  Script.all_runs fun statement member => ⟨_, rfl, each statement member⟩

theorem Storage.Agrees.setUp (stable : Stable agree) (agrees : first.Agrees agree second)
    (topic : String) {statements : Except Failure (List Statement)}
    (each : ∀ list, statements = .ok list → ∀ statement ∈ list, statement.action.Respects agree) :
    (first.setUp topic statements).1 = (second.setUp topic statements).1 ∧
      (first.setUp topic statements).2.Agrees agree (second.setUp topic statements).2 := by
  cases statements with
  | error failure => exact ⟨rfl, agrees⟩
  | ok list =>
      obtain ⟨same, left⟩ := agrees.perform stable (Script.all_ends list) (Script.all_blind list)
        (Script.all_runs_of (each list rfl))
      rw [Storage.setUp_performed, Storage.setUp_performed]
      exact ⟨congrArg (Storage.readiness topic) same, left⟩

theorem Storage.Agrees.setUp_spared (stable : Stable agree) (agrees : first.Agrees agree second)
    (topic : String) {statements : Except Failure (List Statement)}
    (each : ∀ list, statements = .ok list → ∀ statement ∈ list, statement.action.Spares agree) :
    (first.setUp topic statements).2.Agrees agree second := by
  cases statements with
  | error failure => exact agrees
  | ok list =>
      have left := agrees.perform_spared stable (Script.all_ends list)
        (Script.all_runs_of (each list rfl))
      rw [Storage.setUp_performed]
      exact left

theorem Storage.Agrees.poll (stable : Stable agree) (agrees : first.Agrees agree second)
    {subscriber : Subscriber} {topic : String}
    (runs : subscriber.Runs topic (Command.IsRun (Action.Respects agree))) (handler : Handler σ)
    (state : σ) :
    (subscriber.poll topic handler state first).1 = (subscriber.poll topic handler state second).1 ∧
      (subscriber.poll topic handler state first).2.1 =
        (subscriber.poll topic handler state second).2.1 ∧
      (subscriber.journal topic handler state first).handed =
        (subscriber.journal topic handler state second).handed ∧
      (subscriber.poll topic handler state first).2.2.Agrees agree
        (subscriber.poll topic handler state second).2.2 := by
  cases built : subscriber.pollScript? topic with
  | error failure =>
      simp only [Subscriber.poll, Subscriber.journal, built]
      exact ⟨trivial, trivial, trivial, agrees⟩
  | ok script =>
      have allowed := Subscriber.poll_runs runs built
      have stated := Script.stated_of_runs allowed
      have reached := Subscriber.poll_alone built stated handler state agrees.closed
      have reachedToo := Subscriber.poll_alone built stated handler state agrees.closedToo
      rw [← agrees.clock] at reachedToo
      have both := Script.alone_respects handler first.clock (Subscriber.poll_blind built) allowed
        state agrees.committed agrees.committed
      refine ⟨reached.result.trans (both.result.trans reachedToo.result.symm),
        reached.state.trans (both.state.trans reachedToo.state.symm),
        reached.handed.trans (both.handed.trans reachedToo.handed.symm), reached.closed,
        reachedToo.closed, ?_, stable _ _ _ _ reached.database.symm reachedToo.database.symm
          both.database⟩
      rw [Subscriber.poll_clock, Subscriber.poll_clock, agrees.clock]

theorem Storage.Agrees.poll_spared (stable : Stable agree) (agrees : first.Agrees agree second)
    {subscriber : Subscriber} {topic : String}
    (runs : subscriber.Runs topic (Command.IsRun (Action.Spares agree))) (handler : Handler σ)
    (state : σ) : (subscriber.poll topic handler state first).2.2.Agrees agree second := by
  cases built : subscriber.pollScript? topic with
  | error failure =>
      simp only [Subscriber.poll, built]
      exact agrees
  | ok script =>
      have allowed := Subscriber.poll_runs runs built
      have reached := Subscriber.poll_alone built (Script.stated_of_runs allowed) handler state
        agrees.closed
      have spared := Script.alone_spares handler first.clock allowed state agrees.committed
        agrees.committed
      refine ⟨reached.closed, agrees.closedToo, ?_, stable _ _ _ _ reached.database.symm (.refl _)
        spared⟩
      rw [Subscriber.poll_clock, agrees.clock]

end Storage

/-! Publishers. -/

/-- Publishers that do the same for a topic. -/
structure Publisher.Matches (topic : String) (first second : Publisher) : Prop where
  layout : first.layout = second.layout
  settings : first.settings = second.settings
  knows : first.initialized.contains topic = second.initialized.contains topic

section Publisher

variable {agree : Database → Database → Prop} {first second : Storage} {topic : String}
  {publisher other : Publisher} {messages : List Message}

theorem Publisher.Matches.learn (same : publisher.Matches topic other) (learned : String) :
    Publisher.Matches topic { publisher with initialized := learned :: publisher.initialized }
      { other with initialized := learned :: other.initialized } where
  layout := same.layout
  settings := same.settings
  knows := by simp only [List.contains_cons, same.knows]

theorem Publisher.Matches.learn_other (same : publisher.Matches topic other) {learned : String}
    (apart : learned ≠ topic) :
    Publisher.Matches topic { publisher with initialized := learned :: publisher.initialized }
      other where
  layout := same.layout
  settings := same.settings
  knows := by
    rw [← same.knows, List.contains_cons, beq_false_of_ne (Ne.symm apart), Bool.false_or]

/-- Making sure of a topic adds at most that topic to what a publisher knows. -/
theorem Publisher.ensureInitialized_next (publisher : Publisher) (topic : String)
    (storage : Storage) :
    (publisher.ensureInitialized topic storage).2.1 = publisher ∨
      (publisher.ensureInitialized topic storage).2.1 =
        { publisher with initialized := topic :: publisher.initialized } := by
  unfold ensureInitialized
  repeat' split
  · exact .inl rfl
  · exact .inr rfl
  · exact .inl rfl

theorem Publisher.ensureInitialized_layout (publisher : Publisher) (topic : String)
    (storage : Storage) :
    (publisher.ensureInitialized topic storage).2.1.layout = publisher.layout := by
  rcases publisher.ensureInitialized_next topic storage with same | learned
  · rw [same]
  · rw [learned]

theorem Publisher.publish_next (publisher : Publisher) (topic : String) (messages : List Message)
    (storage : Storage) :
    (publisher.publish topic messages storage).2.1 = publisher ∨
      (publisher.publish topic messages storage).2.1 =
        { publisher with initialized := topic :: publisher.initialized } := by
  have next := publisher.ensureInitialized_next topic storage
  unfold publish
  cases validateTopic topic with
  | error failure => exact .inl rfl
  | ok valid =>
      cases messages.isEmpty with
      | true => exact .inl rfl
      | false =>
          cases publisher.settings.autoInitialize with
          | false => exact .inl rfl
          | true =>
              simp only [Bool.false_eq_true, ↓reduceIte]
              rcases ensured : publisher.ensureInitialized topic storage with ⟨result, after, middle⟩
              rw [ensured] at next
              cases result with
              | error failure => exact next
              | ok done => exact next

theorem Publisher.publish_layout (publisher : Publisher) (topic : String) (messages : List Message)
    (storage : Storage) :
    (publisher.publish topic messages storage).2.1.layout = publisher.layout := by
  rcases publisher.publish_next topic messages storage with same | learned
  · rw [same]
  · rw [learned]

theorem Storage.Agrees.ensureInitialized (stable : Stable agree)
    (agrees : first.Agrees agree second) (same : publisher.Matches topic other)
    (each : ∀ list, publisher.layout.setup topic = .ok list →
      ∀ statement ∈ list, statement.action.Respects agree) :
    (publisher.ensureInitialized topic first).1 = (other.ensureInitialized topic second).1 ∧
      (publisher.ensureInitialized topic first).2.1.Matches topic
        (other.ensureInitialized topic second).2.1 ∧
      (publisher.ensureInitialized topic first).2.2.Agrees agree
        (other.ensureInitialized topic second).2.2 := by
  unfold Publisher.ensureInitialized
  rw [← same.knows]
  cases known : publisher.initialized.contains topic with
  | true => exact ⟨rfl, same, agrees⟩
  | false =>
      obtain ⟨results, left⟩ := agrees.setUp stable topic each
      have setups : other.setUp topic second = second.setUp topic (publisher.layout.setup topic) := by
        rw [Publisher.setUp, same.layout]
      simp only [Bool.false_eq_true, ↓reduceIte]
      rw [setups, Publisher.setUp]
      rcases ran : first.setUp topic (publisher.layout.setup topic) with ⟨result, after⟩
      rcases ranToo : second.setUp topic (publisher.layout.setup topic) with ⟨result', after'⟩
      rw [ran, ranToo] at results left
      obtain rfl : result = result' := results
      cases result with
      | error failure => exact ⟨rfl, same, left⟩
      | ok done => exact ⟨rfl, same.learn topic, left⟩

theorem Storage.Agrees.append (stable : Stable agree) (agrees : first.Agrees agree second)
    (same : publisher.Matches topic other)
    (each : ∀ statement, publisher.layout.append topic messages = .ok statement →
      statement.action.Respects agree) :
    (publisher.append topic messages first).1 = (other.append topic messages second).1 ∧
      (publisher.append topic messages first).2.Agrees agree
        (other.append topic messages second).2 := by
  unfold Publisher.append
  rw [← same.layout]
  cases built : publisher.layout.append topic messages with
  | error failure => exact ⟨rfl, agrees⟩
  | ok statement =>
      obtain ⟨told, left⟩ := agrees.autocommit stable (each statement built)
      dsimp only
      rcases ran : first.autocommit (.run statement.action) with ⟨answer, after⟩
      rcases ranToo : second.autocommit (.run statement.action) with ⟨answer', after'⟩
      rw [ran, ranToo] at told left
      rcases Script.told_cases told with ⟨fault, failed, failedToo⟩ | ⟨effect, done, ok, okToo, -⟩
      · cases failed
        cases failedToo
        exact ⟨rfl, left⟩
      · cases ok
        cases okToo
        exact ⟨rfl, left⟩

theorem Storage.Agrees.publish (stable : Stable agree) (agrees : first.Agrees agree second)
    (same : publisher.Matches topic other)
    (setups : ∀ list, publisher.layout.setup topic = .ok list →
      ∀ statement ∈ list, statement.action.Respects agree)
    (appends : ∀ statement, publisher.layout.append topic messages = .ok statement →
      statement.action.Respects agree) :
    (publisher.publish topic messages first).1 = (other.publish topic messages second).1 ∧
      (publisher.publish topic messages first).2.1.Matches topic
        (other.publish topic messages second).2.1 ∧
      (publisher.publish topic messages first).2.2.Agrees agree
        (other.publish topic messages second).2.2 := by
  unfold Publisher.publish
  cases validateTopic topic with
  | error failure => exact ⟨rfl, same, agrees⟩
  | ok valid =>
      cases messages.isEmpty with
      | true => exact ⟨rfl, same, agrees⟩
      | false =>
          simp only [Bool.false_eq_true, ↓reduceIte, ← same.settings]
          cases publisher.settings.autoInitialize with
          | false =>
              obtain ⟨results, left⟩ := agrees.append stable same appends
              exact ⟨results, same, left⟩
          | true =>
              simp only [↓reduceIte]
              obtain ⟨results, matching, left⟩ := agrees.ensureInitialized stable same setups
              have layout := publisher.ensureInitialized_layout topic first
              rcases ran : publisher.ensureInitialized topic first with ⟨result, next, middle⟩
              rcases ranToo : other.ensureInitialized topic second with ⟨result', next', middle'⟩
              rw [ran, ranToo] at results matching left
              rw [ran] at layout
              obtain rfl : result = result' := results
              cases result with
              | error failure => exact ⟨rfl, matching, left⟩
              | ok done =>
                  obtain ⟨results, left⟩ := left.append stable matching (layout ▸ appends)
                  exact ⟨results, matching, left⟩

theorem Storage.Agrees.append_spared (stable : Stable agree) (agrees : first.Agrees agree second)
    (each : ∀ statement, publisher.layout.append topic messages = .ok statement →
      statement.action.Spares agree) :
    (publisher.append topic messages first).2.Agrees agree second := by
  unfold Publisher.append
  cases built : publisher.layout.append topic messages with
  | error failure => exact agrees
  | ok statement =>
      have left := agrees.autocommit_spared stable (each statement built)
      dsimp only
      rcases ran : first.autocommit (.run statement.action) with ⟨answer, after⟩
      rw [ran] at left
      cases answer with
      | error fault => exact left
      | ok effect => exact left

theorem Storage.Agrees.publish_spared (stable : Stable agree) (agrees : first.Agrees agree second)
    (setups : ∀ list, publisher.layout.setup topic = .ok list →
      ∀ statement ∈ list, statement.action.Spares agree)
    (appends : ∀ statement, publisher.layout.append topic messages = .ok statement →
      statement.action.Spares agree) :
    (publisher.publish topic messages first).2.2.Agrees agree second := by
  unfold Publisher.publish
  cases validateTopic topic with
  | error failure => exact agrees
  | ok valid =>
      cases messages.isEmpty with
      | true => exact agrees
      | false =>
          simp only [Bool.false_eq_true, ↓reduceIte]
          cases publisher.settings.autoInitialize with
          | false => exact agrees.append_spared stable appends
          | true =>
              simp only [↓reduceIte]
              have left : (publisher.ensureInitialized topic first).2.2.Agrees agree second := by
                have made : (publisher.setUp topic first).2.Agrees agree second :=
                  agrees.setUp_spared stable topic setups
                unfold Publisher.ensureInitialized
                split
                · exact agrees
                · split <;> (rename_i ran; rw [ran] at made; exact made)
              have layout := publisher.ensureInitialized_layout topic first
              rcases ran : publisher.ensureInitialized topic first with ⟨result, next, middle⟩
              rw [ran] at left layout
              cases result with
              | error failure => exact left
              | ok done => exact left.append_spared stable (layout ▸ appends)

end Publisher

end TopicLog
