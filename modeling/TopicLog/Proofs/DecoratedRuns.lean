import TopicLog.Proofs.AlikeLayouts

/-!
A publisher and subscribers at work over one layout, each step by itself: calls and polls between each
other's steps, set-ups, and subscriptions. Over a layout that was decorated with replacements that agree
with it they have the same history, whatever happens.
-/
namespace TopicLog

structure Staff (σ : Type) where
  publishing : PublisherSettings := {}
  cursors : Nat → CursorLayout
  settings : Nat → SubscriberSettings
  handler : Nat → Handler σ

/-- A piece of work that was begun, and how far it has come. -/
inductive Work (σ : Type) where
  | call (call : Call)
  | setUp (topic : String) (handle : Handle) (script : Script (Except Failure Unit))
      (journal : Journal)
  | poll (isolation : Isolation) (handle : Handle) (script : Script (Except Failure Nat))
      (journal : Journal)
  | subscription (member : Nat) (topic : String) (subscription : Subscription σ)
  | refused (failure : Failure)
  | dropped

structure Workshop (σ : Type) where
  storage : Storage
  initialized : List String := []
  works : List (Work σ) := []

inductive WorkEvent (σ : Type) where
  | call (task : Task)
  /-- The publisher does a task with nobody in between. -/
  | perform (task : Task)
  | setUp (member : Nat) (topic : String)
  | beforeSubscribing (member : Nat) (topic : String)
  | poll (member : Nat) (topic : String)
  | subscribe (member : Nat) (topic : String) (listener : Listener) (state : σ)
  /-- A piece of work takes its next step; a handler that is at work returns this verdict. -/
  | advance (work : Nat) (verdict : Verdict)
  | occasion (work : Nat) (occasion : Occasion)
  | drop (work : Nat)
  | pause (clock : Timestamp)

def Work.handle? {σ : Type} : Work σ → Option Handle
  | .call current => current.phase.handle?
  | .setUp _ handle _ _ | .poll _ handle _ _ => some handle
  | _ => none

/-- Whether a batch waits for its topic to be set up. No other batch is begun in the meantime. -/
def Work.holdsTopics {σ : Type} : Work σ → Bool
  | .call current => match current.task, current.phase with
      | .publish _ _, .inside .setUp _ _ => true
      | _, _ => false
  | _ => false

namespace Workshop

variable {σ : Type} (workshop : Workshop σ)

def beginWork (work : Work σ) (storage : Storage) : Workshop σ :=
  { workshop with storage, works := workshop.works ++ [work] }

def putWork (number : Nat) (work : Work σ) (storage : Storage) : Workshop σ :=
  { workshop with storage, works := workshop.works.set number work }

def beginSetUp (topic : String) : Except Failure (List Statement) → Workshop σ
  | .error failure => workshop.beginWork (.refused (.schema topic failure)) workshop.storage
  | .ok statements =>
      let (handle, storage) := workshop.storage.begin
      workshop.beginWork (.setUp topic handle (Script.all statements) []) storage

def mayCall : Task → Bool
  | .setUp _ => true
  | .publish _ _ => !workshop.works.any Work.holdsTopics

end Workshop

namespace Staff

variable {σ : Type} (staff : Staff σ) (layout : MessageLayout)

def publisher (initialized : List String) : Publisher := ⟨layout, staff.publishing, initialized⟩

def subscriber (member : Nat) : Subscriber := ⟨layout, staff.cursors member, staff.settings member⟩

def Uses (cursors : CursorLayout) : Prop := ∃ member, staff.cursors member = cursors

def call (task : Task) (workshop : Workshop σ) : Workshop σ :=
  let (phase, storage) :=
    (staff.publisher layout workshop.initialized).beginCall workshop.storage task
  workshop.beginWork (.call { task, phase, before := workshop.initialized }) storage

def perform (task : Task) (workshop : Workshop σ) : Workshop σ :=
  let (result, publisher, storage) :=
    (staff.publisher layout workshop.initialized).perform workshop.storage task
  let call : Call :=
    { task, phase := .ended result, before := workshop.initialized, after := publisher.initialized }
  { workshop.beginWork (.call call) storage with initialized := publisher.initialized }

def poll (member : Nat) (topic : String) (workshop : Workshop σ) : Workshop σ :=
  match (staff.subscriber layout member).pollScript? topic with
  | .error failure => workshop.beginWork (.refused failure) workshop.storage
  | .ok script =>
      let (handle, storage) := workshop.storage.beginIsolated
      workshop.beginWork (.poll layout.isolation handle script []) storage

def advance (number : Nat) (verdict : Verdict) (workshop : Workshop σ) : Work σ → Workshop σ
  | .call call =>
      let publisher := staff.publisher layout workshop.initialized
      let next := call.phase.advance publisher workshop.storage call.task
      { workshop.putWork number (.call (call.next workshop.storage next)) next.storage with
        initialized := next.publisher.initialized }
  | .setUp topic handle script journal =>
      let stepped := script.advance handle verdict workshop.storage
      workshop.putWork number
        (.setUp topic handle stepped.script (journal ++ stepped.journal)) stepped.storage
  | .poll isolation handle script journal =>
      let stepped := script.advance handle verdict workshop.storage
      workshop.putWork number
        (.poll isolation handle stepped.script (journal ++ stepped.journal)) stepped.storage
  | _ => workshop

/-- A subscription is in the storage that everybody uses. -/
def occasion (number : Nat) (occasion : Occasion) (workshop : Workshop σ) : Work σ → Workshop σ
  | .subscription member topic subscription =>
      let next := (staff.subscriber layout member).step topic (staff.handler member)
        { subscription with storage := workshop.storage } occasion
      workshop.putWork number (.subscription member topic next) next.storage
  | _ => workshop

def step (workshop : Workshop σ) : WorkEvent σ → Workshop σ
  | .call task => if workshop.mayCall task then staff.call layout task workshop else workshop
  | .perform task => if workshop.mayCall task then staff.perform layout task workshop else workshop
  | .setUp member topic =>
      workshop.beginSetUp topic ((staff.subscriber layout member).tables topic)
  | .beforeSubscribing member topic =>
      match (staff.cursors member).beforeSubscribing topic (staff.settings member).group with
      | .ok [] => workshop
      | statements => workshop.beginSetUp topic statements
  | .poll member topic => staff.poll layout member topic workshop
  | .subscribe member topic listener state =>
      let subscription : Subscription σ := { listener, state, storage := workshop.storage }
      workshop.beginWork (.subscription member topic subscription) workshop.storage
  | .advance number verdict => match workshop.works[number]? with
      | some work => staff.advance layout number verdict workshop work
      | none => workshop
  | .occasion number occasion => match workshop.works[number]? with
      | some work => staff.occasion layout number occasion workshop work
      | none => workshop
  | .drop number => match workshop.works[number]?.bind Work.handle? with
      | some handle => workshop.putWork number .dropped (workshop.storage.rollback handle)
      | none => workshop
  | .pause clock => { workshop with storage := { workshop.storage with clock }.settle }

/-- The workshop before the first event and after each. -/
def history : List (WorkEvent σ) → Workshop σ → List (Workshop σ)
  | [], workshop => [workshop]
  | event :: rest, workshop => workshop :: history rest (staff.step layout workshop event)

variable {staff layout} {base : MessageLayout} (alike : layout.Alike staff.Uses base)
include alike

theorem call_alike (task : Task) (workshop : Workshop σ) :
    staff.call layout task workshop = staff.call base task workshop := by
  have same : (staff.publisher layout workshop.initialized).beginCall workshop.storage task =
      (staff.publisher base workshop.initialized).beginCall workshop.storage task :=
    (staff.publisher base workshop.initialized).beginCall_withLayout alike workshop.storage task
  simp only [call, same]

theorem perform_alike (task : Task) (workshop : Workshop σ) :
    staff.perform layout task workshop = staff.perform base task workshop := by
  have same : (staff.publisher layout workshop.initialized).perform workshop.storage task = _ :=
    (staff.publisher base workshop.initialized).perform_withLayout alike workshop.storage task
  simp only [perform, same]
  rfl

theorem poll_alike (member : Nat) (topic : String) (workshop : Workshop σ) :
    staff.poll layout member topic workshop = staff.poll base member topic workshop := by
  have same : (staff.subscriber layout member).pollScript? topic =
      (staff.subscriber base member).pollScript? topic :=
    (staff.subscriber base member).pollScript_withLayout alike ⟨member, rfl⟩ topic
  simp only [poll, same, alike.isolation]

theorem advance_alike (number : Nat) (verdict : Verdict) (workshop : Workshop σ) (work : Work σ) :
    staff.advance layout number verdict workshop work =
      staff.advance base number verdict workshop work := by
  cases work with
  | call call =>
      have same : call.phase.advance (staff.publisher layout workshop.initialized) workshop.storage
          call.task = _ :=
        (staff.publisher base workshop.initialized).advance_withLayout alike workshop.storage
          call.task call.phase
      simp only [advance, same]
      rfl
  | _ => rfl

theorem occasion_alike (number : Nat) (occasion : Occasion) (workshop : Workshop σ)
    (work : Work σ) :
    staff.occasion layout number occasion workshop work =
      staff.occasion base number occasion workshop work := by
  cases work with
  | subscription member topic subscription =>
      have same : (staff.subscriber layout member).step topic (staff.handler member) =
          (staff.subscriber base member).step topic (staff.handler member) := by
        funext begun occasion
        exact (staff.subscriber base member).step_withLayout alike ⟨member, rfl⟩ topic _ begun
          occasion
      simp only [Staff.occasion, same]
  | _ => rfl

theorem step_alike (workshop : Workshop σ) (event : WorkEvent σ) :
    staff.step layout workshop event = staff.step base workshop event := by
  cases event with
  | call task => simp only [step, call_alike alike]
  | perform task => simp only [step, perform_alike alike]
  | setUp member topic =>
      have same : (staff.subscriber layout member).tables topic =
          (staff.subscriber base member).tables topic :=
        (staff.subscriber base member).tables_withLayout alike topic
      simp only [step, same]
  | poll member topic => exact poll_alike alike member topic workshop
  | advance number verdict => simp only [step, advance_alike alike]
  | occasion number occasion => simp only [step, occasion_alike alike]
  | _ => rfl

theorem history_alike (events : List (WorkEvent σ)) (workshop : Workshop σ) :
    staff.history layout events workshop = staff.history base events workshop := by
  induction events generalizing workshop with
  | nil => rfl
  | cons event rest ih => rw [history, history, step_alike alike, ih]

end Staff

/-- A layout with levels around it does, of each operation, what the outermost level that replaces it
made of it last, or else what the base does; a replacement changes no other operation, and none changes the
isolation. So where all replacements agree with the base on what they are asked for, a publisher and
subscribers do the same over the whole as over the base, step by step. -/
theorem decoration_transparent (base : MessageLayout) (levels : List (List Change)) :
    base.Layered levels ∧
    (∀ change outer before after inner, levels = outer ++ (before ++ change :: after) :: inner →
      change.Spares (base.decorated levels)
        (base.decorated (outer ++ (before ++ after) :: inner))) ∧
    ∀ {σ : Type} (staff : Staff σ),
      (∀ changes ∈ levels, ∀ change ∈ changes, change.Agrees staff.Uses base) →
      ∀ events workshop,
        staff.history (base.decorated levels) events workshop =
          staff.history base events workshop := by
  refine ⟨base.layered levels, ?_, ?_⟩
  · rintro change outer before after inner rfl
    exact change.spares_others base outer inner before after
  · intro σ staff agree events workshop
    exact Staff.history_alike (MessageLayout.decorated_alike agree) events workshop

/-- Reads rows like a layout, but for those that no database returns. They are told by the fault in their
first column. -/
def MessageLayout.decodeReturned (base : MessageLayout) (row : Row) : Except Failure Delivery :=
  match row.int 0 with
  | .error (.scan _ (.other _)) => .error .emptyBatch
  | _ => base.decode row

theorem MessageLayout.decodeReturned_columns (base : MessageLayout) (columns : List Value) :
    base.decodeReturned (.ofColumns columns) = base.decode (.ofColumns columns) := by
  simp only [decodeReturned, Row.ofColumns]
  cases columns[0]? with
  | none => rfl
  | some first => cases first <;> rfl

/-- Replacements may differ from the base on rows that no database returns, and no history shows it. -/
theorem unreturned_rows_unseen :
    let base : MessageLayout := MessageSettings.layout { dialect := .sqlite }
    let levels : List (List Change) :=
      [[.append base.append, .setup base.setup], [], [.decode base.decodeReturned, .fetch base.fetch]]
    (base.decorated levels).decode (.ofValues []) ≠ base.decode (.ofValues []) ∧
      ∀ (staff : Staff Unit) events workshop,
        staff.history (base.decorated levels) events workshop =
          staff.history base events workshop := by
  intro base levels
  refine ⟨by decide, fun staff => (decoration_transparent base levels).2.2 staff ?_⟩
  have outer : ∀ change ∈ [Change.append base.append, .setup base.setup],
      change.Agrees staff.Uses base :=
    List.forall_mem_cons.mpr ⟨fun _ _ => rfl, List.forall_mem_singleton.mpr fun _ => rfl⟩
  have inner : ∀ change ∈ [Change.decode base.decodeReturned, .fetch base.fetch],
      change.Agrees staff.Uses base :=
    List.forall_mem_cons.mpr
      ⟨base.decodeReturned_columns, List.forall_mem_singleton.mpr fun _ _ _ _ => rfl⟩
  exact List.forall_mem_cons.mpr
    ⟨outer, List.forall_mem_cons.mpr ⟨List.forall_mem_nil _, List.forall_mem_singleton.mpr inner⟩⟩

end TopicLog
