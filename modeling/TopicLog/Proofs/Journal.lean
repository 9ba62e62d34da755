import TopicLog.Script
import TopicLog.Proofs.Scene

/-!
What a script does, as a journal: the statements it ran with their answers, the deliveries it handed
over with their verdicts, and how its transaction ended. A script that makes no tables goes in a
storage as it goes in the scene of its transaction.
-/
namespace TopicLog

inductive Happening where
  | executed (command : Command) (answer : Except Fault Effect)
  /-- A delivery was handed over. There is no verdict if the handler did not return. -/
  | handed (delivery : Delivery) (verdict : Option Verdict)
  | committed
  | rolledBack

abbrev Journal := List Happening

namespace Journal

def claimed (journal : Journal) : Bool :=
  journal.any fun
    | .executed (.run (.claim _)) (.ok _) => true
    | _ => false

def marked (journal : Journal) : List Int :=
  journal.filterMap fun
    | .executed (.run (.markConsumed _ _ offset)) (.ok _) => some offset
    | _ => none

def acknowledged (journal : Journal) : List Int :=
  journal.filterMap fun
    | .executed (.run (.acknowledge _ _ offset)) (.ok _) => some offset
    | _ => none

/-- What was handed over, and the verdicts. -/
def handed (journal : Journal) : List (Delivery × Option Verdict) :=
  journal.filterMap fun
    | .handed delivery verdict => some (delivery, verdict)
    | _ => none

def isCommitted (journal : Journal) : Bool :=
  journal.any fun
    | .committed => true
    | _ => false

variable (before after : Journal)

@[simp]
theorem claimed_append : (before ++ after : Journal).claimed = (before.claimed || after.claimed) :=
  List.any_append

@[simp]
theorem marked_append : (before ++ after : Journal).marked = before.marked ++ after.marked :=
  List.filterMap_append

@[simp]
theorem acknowledged_append :
    (before ++ after : Journal).acknowledged = before.acknowledged ++ after.acknowledged :=
  List.filterMap_append

@[simp]
theorem handed_append : (before ++ after : Journal).handed = before.handed ++ after.handed :=
  List.filterMap_append

@[simp]
theorem isCommitted_append :
    (before ++ after : Journal).isCommitted = (before.isCommitted || after.isCommitted) :=
  List.any_append

/-! The first entry of a journal. -/

variable (command : Command) (answer : Except Fault Effect) (delivery : Delivery)
  (verdict : Option Verdict) (rest : Journal)

@[simp]
theorem handed_nil : handed [] = [] := rfl

@[simp]
theorem handed_cons_executed :
    handed (.executed command answer :: rest) = rest.handed := rfl

@[simp]
theorem handed_cons_handed :
    handed (.handed delivery verdict :: rest) = (delivery, verdict) :: rest.handed := rfl

@[simp]
theorem isCommitted_cons_executed :
    isCommitted (.executed command answer :: rest) = rest.isCommitted := rfl

@[simp]
theorem isCommitted_cons_handed :
    isCommitted (.handed delivery verdict :: rest) = rest.isCommitted := rfl

end Journal

structure Played (α σ : Type) where
  result : Option α
  state : σ
  scene : Scene
  journal : Journal

structure Stepped (α : Type) where
  script : Script α
  storage : Storage
  journal : Journal

namespace Script

variable {α σ : Type}

/-- Takes one step of a script. The verdict is the handler's, where the step is that it returns. -/
def advance (handle : Handle) (verdict : Verdict) (storage : Storage) :
    Script α → Stepped α
  | .done result => ⟨.done result, storage, []⟩
  | .execute command next =>
      let (answer, storage) := storage.execute handle command
      ⟨next answer, storage, [.executed command answer]⟩
  | .hand delivery next => ⟨next verdict, storage, [.handed delivery (some verdict)]⟩
  | .commit next => ⟨next, storage.commit handle, [.committed]⟩
  | .rollback next => ⟨next, storage.rollback handle, [.rolledBack]⟩

def handing? : Script α → Option Delivery
  | .hand delivery _ => some delivery
  | _ => none

def commits : Script α → Bool
  | .commit _ => true
  | _ => false

theorem hand_of_handing {script : Script α} {delivery : Delivery}
    (handing : script.handing? = some delivery) : ∃ next, script = .hand delivery next := by
  cases script with
  | hand given next =>
      cases handing
      exact ⟨next, rfl⟩
  | _ => cases handing

theorem commit_of_commits {script : Script α} (commits : script.commits = true) :
    ∃ next, script = .commit next := by
  cases script with
  | commit next => exact ⟨next, rfl⟩
  | _ => cases commits

def journal (handler : Handler σ) (handle : Handle) : Script α → σ → Storage → Journal
  | .done _, _, _ => []
  | .execute command next, state, storage =>
      let (answer, storage) := storage.execute handle command
      .executed command answer :: journal handler handle (next answer) state storage
  | .hand delivery next, state, storage =>
      match handler delivery state with
      | (some verdict, state) =>
          .handed delivery (some verdict) :: journal handler handle (next verdict) state storage
      | (none, _) => [.handed delivery none, .rolledBack]
  | .commit next, state, storage =>
      .committed :: journal handler handle next state (storage.commit handle)
  | .rollback next, state, storage =>
      .rolledBack :: journal handler handle next state (storage.rollback handle)

def play (handler : Handler σ) : Script α → σ → Scene → Played α σ
  | .done result, state, scene => ⟨some result, state, scene, []⟩
  | .execute command next, state, scene =>
      let (answer, scene) := scene.execute command
      let played := play handler (next answer) state scene
      { played with journal := .executed command answer :: played.journal }
  | .hand delivery next, state, scene =>
      match handler delivery state with
      | (some verdict, state) =>
          let played := play handler (next verdict) state scene
          { played with journal := .handed delivery (some verdict) :: played.journal }
      | (none, state) => ⟨none, state, scene.rollback, [.handed delivery none, .rolledBack]⟩
  | .commit next, state, scene =>
      let played := play handler next state scene.commit
      { played with journal := .committed :: played.journal }
  | .rollback next, state, scene =>
      let played := play handler next state scene.rollback
      { played with journal := .rolledBack :: played.journal }

def Runs (allowed : Command → Prop) : Script α → Prop
  | .done _ => True
  | .execute command next => allowed command ∧ ∀ answer, (next answer).Runs allowed
  | .hand _ next => ∀ verdict, (next verdict).Runs allowed
  | .commit next => next.Runs allowed
  | .rollback next => next.Runs allowed

abbrev Plain (script : Script α) : Prop := script.Runs fun command => command.makes = false

/-- A script that ends its transaction, and does nothing after that. -/
def Ends : Script α → Prop
  | .done _ => False
  | .execute _ next => ∀ answer, (next answer).Ends
  | .hand _ next => ∀ verdict, (next verdict).Ends
  | .commit (.done _) => True
  | .rollback (.done _) => True
  | _ => False

theorem advance_elsewhere (script : Script α) (handle : Handle) (verdict : Verdict)
    (storage : Storage) :
    Storage.Elsewhere handle storage (script.advance handle verdict storage).storage := by
  cases script with
  | done result => exact Storage.elsewhere_refl handle storage
  | execute command next => exact Storage.elsewhere_execute handle command storage
  | hand delivery next => exact Storage.elsewhere_refl handle storage
  | commit next => exact Storage.elsewhere_commit handle storage
  | rollback next => exact Storage.elsewhere_rollback handle storage

theorem advance_consistent {storage : Storage} (consistent : storage.Consistent)
    (script : Script α) (handle : Handle) (verdict : Verdict) :
    (script.advance handle verdict storage).storage.Consistent := by
  cases script with
  | done result => exact consistent
  | execute command next => exact Storage.consistent_execute consistent
  | hand delivery next => exact consistent
  | commit next => exact Storage.consistent_commit consistent
  | rollback next => exact Storage.consistent_rollback consistent

theorem advance_committed (script : Script α) (handle : Handle) (verdict : Verdict)
    (storage : Storage)
    (unended : (script.advance handle verdict storage).journal.isCommitted = false) :
    (script.advance handle verdict storage).storage.committed = storage.committed := by
  cases script with
  | done result => rfl
  | execute command next => exact (storage.execute_frame handle command).1
  | hand delivery next => rfl
  | commit next => cases unended
  | rollback next => exact (storage.rollback_frame handle).1

theorem run_play (handler : Handler σ) {handle : Handle} (script : Script α) (plain : script.Plain)
    (state : σ) (storage : Storage) (unprimed : storage.Unprimed handle) :
    let ran := script.run handler handle state storage
    (⟨ran.1, ran.2.1, ran.2.2.scene handle, script.journal handler handle state storage⟩ :
      Played α σ) = script.play handler state (storage.scene handle) := by
  induction script generalizing state storage with
  | done result => rfl
  | execute command next ih =>
      obtain ⟨answered, left⟩ := Storage.execute_scene unprimed plain.1
      have later := ih (storage.execute handle command).1 (plain.2 _) state _
        (Storage.unprimed_execute unprimed plain.1)
      simp only [run, journal, play, ← answered, ← left, ← later]
  | hand delivery next ih =>
      cases judged : handler delivery state with
      | mk verdict after =>
          cases verdict with
          | none => simp [run, journal, play, judged, Storage.rollback_scene]
          | some verdict =>
              have later := ih verdict (plain verdict) after storage unprimed
              simp only [run, journal, play, judged, ← later]
  | commit next ih =>
      have later := ih plain state _ (Storage.unprimed_commit storage handle)
      simp only [run, journal, play, ← Storage.commit_scene, ← later]
  | rollback next ih =>
      have later := ih plain state _ (Storage.unprimed_rollback storage handle)
      simp only [run, journal, play, ← Storage.rollback_scene, ← later]

end Script
end TopicLog
