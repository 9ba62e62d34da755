import TopicLog.MessageLayout.Decorated

/-!
Layouts decorated again and again. A level replaces some operations of the layout inside it, in any order
and any number of times. An operation of the whole is what the outermost level that replaces it made of it
last, or else that of the layout at the bottom; the isolation always is the one at the bottom.
-/
namespace TopicLog

/-- One replacement of an operation. -/
inductive Change where
  | setup (f : String → Except Failure (List Statement))
  | append (f : String → List Message → Except Failure Statement)
  | fetch (f : String → String → CursorLayout → Except Failure Statement)
  | decode (f : Row → Except Failure Delivery)

namespace Change

def setup? : Change → Option (String → Except Failure (List Statement))
  | .setup f => some f
  | _ => none

def append? : Change → Option (String → List Message → Except Failure Statement)
  | .append f => some f
  | _ => none

def fetch? : Change → Option (String → String → CursorLayout → Except Failure Statement)
  | .fetch f => some f
  | _ => none

def decode? : Change → Option (Row → Except Failure Delivery)
  | .decode f => some f
  | _ => none

end Change

def Decorated.change (decorated : Decorated) : Change → Decorated
  | .setup f => decorated.withSetup f
  | .append f => decorated.withAppend f
  | .fetch f => decorated.withFetch f
  | .decode f => decorated.withDecode f

namespace MessageLayout

/-- A level around a layout, with its replacements in the order in which they were made. -/
def level (inner : MessageLayout) (changes : List Change) : MessageLayout :=
  (changes.foldl Decorated.change { inner }).layout

/-- A layout with levels around it, the outermost first. -/
def decorated (base : MessageLayout) (levels : List (List Change)) : MessageLayout :=
  levels.foldr (fun changes inner => inner.level changes) base

end MessageLayout

def lastChange {β : Type} (kind : Change → Option β) (changes : List Change) : Option β :=
  changes.reverse.findSome? kind

/-- The last of the replacements of one kind on the outermost level that has one. -/
def outermostChange {β : Type} (kind : Change → Option β) (levels : List (List Change)) : Option β :=
  levels.findSome? (lastChange kind)

/-- An operation of a layout, with where a decoration keeps its replacement and which changes set it. -/
structure Aspect (β : Type) where
  get : MessageLayout → β
  kept : Decorated → Option β
  kind : Change → Option β
  bare : ∀ inner, kept { inner } = none
  set : ∀ decorated change, kept (decorated.change change) = (kind change).or (kept decorated)
  used : ∀ decorated, get decorated.layout = (kept decorated).getD (get decorated.inner)

namespace Aspect

def setup : Aspect (String → Except Failure (List Statement)) where
  get := (·.setup)
  kept := (·.setup)
  kind := Change.setup?
  bare _ := rfl
  set _ change := by cases change <;> rfl
  used _ := rfl

def append : Aspect (String → List Message → Except Failure Statement) where
  get := (·.append)
  kept := (·.append)
  kind := Change.append?
  bare _ := rfl
  set _ change := by cases change <;> rfl
  used _ := rfl

def fetch : Aspect (String → String → CursorLayout → Except Failure Statement) where
  get := (·.fetch)
  kept := (·.fetch)
  kind := Change.fetch?
  bare _ := rfl
  set _ change := by cases change <;> rfl
  used _ := rfl

def decode : Aspect (Row → Except Failure Delivery) where
  get := (·.decode)
  kept := (·.decode)
  kind := Change.decode?
  bare _ := rfl
  set _ change := by cases change <;> rfl
  used _ := rfl

/-- No change is one of the isolation. -/
def isolation : Aspect Isolation where
  get := (·.isolation)
  kept _ := none
  kind _ := none
  bare _ := rfl
  set _ _ := rfl
  used _ := rfl

variable {β : Type} (aspect : Aspect β)

theorem kept_changes (decorated : Decorated) (changes : List Change) :
    aspect.kept (changes.foldl Decorated.change decorated) =
      (lastChange aspect.kind changes).or (aspect.kept decorated) := by
  -- Each change replaces what was kept, so among them the last one counts.
  induction changes generalizing decorated with
  | nil => rfl
  | cons change rest ih =>
      rw [List.foldl_cons, ih, aspect.set, lastChange, lastChange, List.reverse_cons,
        List.findSome?_append, Option.or_assoc]
      simp

theorem inner_changes (decorated : Decorated) (changes : List Change) :
    (changes.foldl Decorated.change decorated).inner = decorated.inner := by
  induction changes generalizing decorated with
  | nil => rfl
  | cons change rest ih =>
      rw [List.foldl_cons, ih]
      cases change <;> rfl

theorem get_level (inner : MessageLayout) (changes : List Change) :
    aspect.get (inner.level changes) = (lastChange aspect.kind changes).getD (aspect.get inner) := by
  rw [MessageLayout.level, aspect.used, kept_changes, aspect.bare, inner_changes, Option.or_none]

theorem get_decorated (base : MessageLayout) (levels : List (List Change)) :
    aspect.get (base.decorated levels) =
      (outermostChange aspect.kind levels).getD (aspect.get base) := by
  induction levels with
  | nil => rfl
  | cons changes inner ih =>
      have outer := aspect.get_level (base.decorated inner) changes
      rw [ih] at outer
      refine outer.trans ?_
      simp only [outermostChange, List.findSome?_cons]
      cases lastChange aspect.kind changes <;> rfl

theorem lastChange_skip {change : Change} (other : aspect.kind change = none)
    (before after : List Change) :
    lastChange aspect.kind (before ++ change :: after) =
      lastChange aspect.kind (before ++ after) := by
  simp [lastChange, List.findSome?_append, other]

theorem get_skip {change : Change} (other : aspect.kind change = none) (base : MessageLayout)
    (outer inner : List (List Change)) (before after : List Change) :
    aspect.get (base.decorated (outer ++ (before ++ change :: after) :: inner)) =
      aspect.get (base.decorated (outer ++ (before ++ after) :: inner)) := by
  simp only [get_decorated, outermostChange, List.findSome?_append, List.findSome?_cons,
    aspect.lastChange_skip other]

/-- What is true of an operation of the base and of all its replacements is true of the whole. -/
theorem get_keeps {base : MessageLayout} {levels : List (List Change)} (holds : β → Prop)
    (bottom : holds (aspect.get base))
    (each : ∀ changes ∈ levels, ∀ change ∈ changes, ∀ f, aspect.kind change = some f → holds f) :
    holds (aspect.get (base.decorated levels)) := by
  rw [get_decorated]
  cases found : outermostChange aspect.kind levels with
  | none => exact bottom
  | some f =>
      obtain ⟨changes, level, last⟩ := List.exists_of_findSome?_eq_some found
      obtain ⟨change, member, sets⟩ := List.exists_of_findSome?_eq_some last
      exact each changes level change (List.mem_reverse.mp member) f sets

end Aspect

def Change.Spares (one other : MessageLayout) : Change → Prop
  | .setup _ => one.append = other.append ∧ one.fetch = other.fetch ∧ one.decode = other.decode
  | .append _ => one.setup = other.setup ∧ one.fetch = other.fetch ∧ one.decode = other.decode
  | .fetch _ => one.setup = other.setup ∧ one.append = other.append ∧ one.decode = other.decode
  | .decode _ => one.setup = other.setup ∧ one.append = other.append ∧ one.fetch = other.fetch

/-- What a layout with levels around it does. -/
structure MessageLayout.Layered (base : MessageLayout) (levels : List (List Change)) : Prop where
  setup : ∀ topic, (base.decorated levels).setup topic =
    (outermostChange Change.setup? levels).getD base.setup topic
  append : ∀ topic messages, (base.decorated levels).append topic messages =
    (outermostChange Change.append? levels).getD base.append topic messages
  fetch : ∀ topic group cursors, (base.decorated levels).fetch topic group cursors =
    (outermostChange Change.fetch? levels).getD base.fetch topic group cursors
  decode : ∀ row, (base.decorated levels).decode row =
    (outermostChange Change.decode? levels).getD base.decode row
  isolation : (base.decorated levels).isolation = base.isolation

theorem MessageLayout.layered (base : MessageLayout) (levels : List (List Change)) :
    base.Layered levels where
  setup topic := congrFun (Aspect.setup.get_decorated base levels) topic
  append topic messages :=
    congrFun (congrFun (Aspect.append.get_decorated base levels) topic) messages
  fetch topic group cursors :=
    congrFun (congrFun (congrFun (Aspect.fetch.get_decorated base levels) topic) group) cursors
  decode row := congrFun (Aspect.decode.get_decorated base levels) row
  isolation := by
    have same := Aspect.isolation.get_decorated base levels
    have none : outermostChange Aspect.isolation.kind levels = none := by
      simp [outermostChange, lastChange, Aspect.isolation, List.findSome?_eq_none_iff]
    rwa [none] at same

theorem Change.spares_others (change : Change) (base : MessageLayout)
    (outer inner : List (List Change)) (before after : List Change) :
    change.Spares (base.decorated (outer ++ (before ++ change :: after) :: inner))
      (base.decorated (outer ++ (before ++ after) :: inner)) := by
  have apart {β : Type} (aspect : Aspect β) (other : aspect.kind change = none) :=
    aspect.get_skip other base outer inner before after
  cases change with
  | setup f => exact ⟨apart .append rfl, apart .fetch rfl, apart .decode rfl⟩
  | append f => exact ⟨apart .setup rfl, apart .fetch rfl, apart .decode rfl⟩
  | fetch f => exact ⟨apart .setup rfl, apart .append rfl, apart .decode rfl⟩
  | decode f => exact ⟨apart .setup rfl, apart .append rfl, apart .fetch rfl⟩

end TopicLog
