import TopicLog.Proofs.Delivery
import TopicLog.Proofs.Layouts

/-!
A poll during which no other transaction takes a step. What it does depends on no handle and no
connection; it leaves what the others hold, and without a commit it leaves no trace.
-/
namespace TopicLog

/-! A poll ends its transaction. -/

namespace Subscriber

variable {subscriber : Subscriber} {topic : String}

theorem statement_ends {statement : Statement} {next : Effect → Script (Except Failure Nat)}
    (ends : ∀ effect, (next effect).Ends) : (Script.statement statement next).Ends := by
  intro answer
  cases answer with
  | error fault => trivial
  | ok effect => exact ends effect

theorem require_ends {β : Type} {wanted : Except Failure β}
    {next : β → Script (Except Failure Nat)} (ends : ∀ value, (next value).Ends) :
    (Script.require wanted next).Ends := by
  cases wanted with
  | error failure => trivial
  | ok value => exact ends value

theorem deliver_ends (subscriber : Subscriber) (topic : String) (rows : List (List Value))
    (count : Nat) : (subscriber.deliver topic rows count).Ends := by
  induction rows generalizing count with
  | nil => trivial
  | cons columns rest ih =>
      unfold deliver
      cases subscriber.layout.decode (.ofColumns columns) with
      | error failure => trivial
      | ok delivery =>
          apply require_ends
          intro mark
          apply statement_ends
          intro _ verdict
          cases verdict with
          | refused text => trivial
          | accepted => exact require_ends fun statement => statement_ends fun _ => ih (count + 1)

theorem poll_ends {script : Script (Except Failure Nat)}
    (built : subscriber.pollScript? topic = .ok script) : script.Ends := by
  obtain ⟨claim, fetch, -, -, rfl⟩ := pollScript_built built
  exact statement_ends fun _ => require_ends fun _ => statement_ends fun _ =>
    deliver_ends subscriber topic _ 0

end Subscriber

namespace Storage

/-- Storages that differ at most in handles and connections. -/
structure Alike (before after : Storage) : Prop where
  committed : after.committed = before.committed
  version : after.version = before.version
  clock : after.clock = before.clock
  holds : after.holds = before.holds

theorem alike_refl (storage : Storage) : storage.Alike storage := ⟨rfl, rfl, rfl, rfl⟩

theorem Alike.trans {a b c : Storage} (first : a.Alike b) (second : b.Alike c) : a.Alike c where
  committed := second.committed.trans first.committed
  version := second.version.trans first.version
  clock := second.clock.trans first.clock
  holds := second.holds.trans first.holds

/-- What may be done to a storage between two polls without a look at handles and connections. -/
structure Outward (repair : Storage → Storage) : Prop where
  fresh : ∀ storage, storage.Fresh → (repair storage).Fresh
  alike : ∀ before after, before.Fresh → after.Fresh → before.Alike after →
    (repair before).Alike (repair after)

def outset (storage : Storage) : Scene where
  committed := storage.committed
  version := storage.version
  clock := storage.clock
  locked := storage.holds.any fun (_, hold) => isWriting hold
  hold := some .idle

theorem begin_others {storage : Storage} (fresh : storage.Fresh) :
    storage.begin.2.holds.filter (fun entry => entry.1 ≠ storage.fresh) = storage.holds := by
  change (storage.holds ++ [(storage.fresh, Hold.idle)]).filter
    (fun entry => entry.1 ≠ storage.fresh) = storage.holds
  rw [List.filter_append, List.filter_eq_self.mpr]
  · simp
  · intro entry member
    have apart : entry.1 ≠ storage.fresh := Nat.ne_of_lt (fresh entry member)
    simpa using apart

theorem begin_outset {storage : Storage} (fresh : storage.Fresh) :
    storage.beginIsolated.2.scene storage.fresh = storage.outset := by
  have idle : storage.beginIsolated.2.held? storage.fresh = some .idle :=
    held_begin_self fresh
  have locked : storage.beginIsolated.2.lockedFor storage.fresh =
      storage.holds.any fun (_, hold) => isWriting hold := by
    change (storage.holds ++ [(storage.fresh, Hold.idle)]).any _ = _
    rw [List.any_append]
    have others : storage.holds.any
        (fun (other, hold) => other ≠ storage.fresh && isWriting hold) =
        storage.holds.any fun (_, hold) => isWriting hold := by
      rw [Bool.eq_iff_iff, List.any_eq_true, List.any_eq_true]
      constructor
      · rintro ⟨entry, member, writing⟩
        exact ⟨entry, member, (Bool.and_eq_true_iff.mp writing).2⟩
      · rintro ⟨entry, member, writing⟩
        have apart : entry.1 ≠ storage.fresh := Nat.ne_of_lt (fresh entry member)
        exact ⟨entry, member, by simp [apart, writing]⟩
    rw [others]
    simp [isWriting]
  simp only [scene, outset, idle, locked]
  rfl

theorem outset_alike {before after : Storage} (alike : before.Alike after) :
    after.outset = before.outset := by
  simp only [outset, alike.committed, alike.version, alike.clock, alike.holds]

end Storage

namespace Subscriber

variable {σ : Type} {subscriber : Subscriber} {topic : String} {storage : Storage}

structure Runs (subscriber : Subscriber) (topic : String) (allowed : Command → Prop) : Prop where
  claim : ∀ claim, subscriber.cursors.claim topic subscriber.group = .ok claim →
    allowed (.run claim.statement.action)
  fetch : ∀ statement,
    subscriber.layout.fetch topic subscriber.group subscriber.cursors = .ok statement →
    allowed (.run statement.action)
  mark : ∀ delivery statement,
    subscriber.cursors.markConsumed topic delivery subscriber.group = .ok statement →
    allowed (.run statement.action)
  acknowledge : ∀ delivery statement,
    subscriber.cursors.acknowledge topic delivery subscriber.group = .ok statement →
    allowed (.run statement.action)

abbrev Plain (subscriber : Subscriber) (topic : String) : Prop :=
  subscriber.Runs topic fun command => command.makes = false

variable {allowed : Command → Prop}

theorem statement_runs {statement : Statement} {next : Effect → Script (Except Failure Nat)}
    (own : allowed (.run statement.action)) (later : ∀ effect, (next effect).Runs allowed) :
    (Script.statement statement next).Runs allowed := by
  constructor
  · exact own
  · intro answer
    cases answer with
    | error fault => trivial
    | ok effect => exact later effect

theorem require_runs {β : Type} {wanted : Except Failure β}
    {next : β → Script (Except Failure Nat)}
    (later : ∀ value, wanted = .ok value → (next value).Runs allowed) :
    (Script.require wanted next).Runs allowed := by
  cases wanted with
  | error failure => trivial
  | ok value => exact later value rfl

theorem deliver_runs (runs : subscriber.Runs topic allowed) (rows : List (List Value))
    (count : Nat) : (subscriber.deliver topic rows count).Runs allowed := by
  induction rows generalizing count with
  | nil => trivial
  | cons columns rest ih =>
      unfold deliver
      cases subscriber.layout.decode (.ofColumns columns) with
      | error failure => trivial
      | ok delivery =>
          apply require_runs
          intro mark marks
          apply statement_runs (runs.mark delivery mark marks)
          intro _ verdict
          cases verdict with
          | refused text => trivial
          | accepted =>
              exact require_runs fun statement acknowledges =>
                statement_runs (runs.acknowledge delivery statement acknowledges)
                  fun _ => ih (count + 1)

theorem poll_runs {script : Script (Except Failure Nat)} (runs : subscriber.Runs topic allowed)
    (built : subscriber.pollScript? topic = .ok script) : script.Runs allowed := by
  obtain ⟨claim, fetch, claims, fetches, rfl⟩ := pollScript_built built
  exact statement_runs (runs.claim claim claims) fun _ => require_runs fun _ _ =>
    statement_runs (runs.fetch fetch fetches) fun rows => deliver_runs runs rows.rows 0

theorem poll_holds (subscriber : Subscriber) (topic : String) (handler : Handler σ) (state : σ)
    (fresh : storage.Fresh) :
    (subscriber.poll topic handler state storage).2.2.holds = storage.holds := by
  unfold poll
  cases built : subscriber.pollScript? topic with
  | error failure => rfl
  | ok script =>
      apply (Script.run_holds script (poll_ends built) state storage.beginIsolated.2).trans
      exact Storage.begin_others fresh

theorem poll_fresh (subscriber : Subscriber) (topic : String) (handler : Handler σ) (state : σ)
    (fresh : storage.Fresh) : (subscriber.poll topic handler state storage).2.2.Fresh := by
  have holds := poll_holds subscriber topic handler state fresh
  unfold poll at *
  cases built : subscriber.pollScript? topic with
  | error failure => exact fresh
  | ok script =>
      rw [built] at holds
      intro entry member
      have given : (script.run handler storage.beginIsolated.1 state
          storage.beginIsolated.2).2.2.fresh = storage.fresh + 1 :=
        (Script.run_frame handler storage.beginIsolated.1 script state storage.beginIsolated.2).2
      rw [holds] at member
      change entry.1 < _
      rw [given]
      exact Nat.lt_succ_of_lt (fresh entry member)

/-- What a poll does and leaves depends on no handle and no connection. -/
theorem poll_alike {before after : Storage} (plain : subscriber.Plain topic)
    (handler : Handler σ) (state : σ) (alike : before.Alike after) (fresh : before.Fresh)
    (afterFresh : after.Fresh) :
    (subscriber.poll topic handler state after).1 =
        (subscriber.poll topic handler state before).1 ∧
      (subscriber.poll topic handler state after).2.1 =
        (subscriber.poll topic handler state before).2.1 ∧
      subscriber.journal topic handler state after =
        subscriber.journal topic handler state before ∧
      (subscriber.poll topic handler state before).2.2.Alike
        (subscriber.poll topic handler state after).2.2 := by
  have holds := (poll_holds subscriber topic handler state afterFresh).trans
    (alike.holds.trans (poll_holds subscriber topic handler state fresh).symm)
  unfold poll journal at *
  cases built : subscriber.pollScript? topic with
  | error failure => exact ⟨rfl, rfl, rfl, alike⟩
  | ok script =>
      rw [built] at holds
      have first := Script.run_play handler script (poll_runs plain built) state
        before.beginIsolated.2 (Storage.unprimed_begin before)
      have second := Script.run_play handler script (poll_runs plain built) state
        after.beginIsolated.2 (Storage.unprimed_begin after)
      have scenes : after.beginIsolated.2.scene after.beginIsolated.1 =
          before.beginIsolated.2.scene before.beginIsolated.1 :=
        (Storage.begin_outset afterFresh).trans
          ((Storage.outset_alike alike).trans (Storage.begin_outset fresh).symm)
      rw [scenes, ← first] at second
      obtain ⟨results, states, lastScenes, journals⟩ := Played.mk.inj second
      obtain ⟨committed, version, clock, -, -⟩ := Scene.mk.inj lastScenes
      exact ⟨results, states, journals, committed, version, clock, holds⟩

/-- A storage after a poll of which nothing is left: what was committed and what other transactions
hold is as before, and whatever is repaired meanwhile, every next poll goes as if this one had not
been. -/
structure Traceless (before after : Storage) : Prop where
  alike : before.Alike after
  next : ∀ {τ : Type} {repair : Storage → Storage}, Storage.Outward repair →
    ∀ {other : Subscriber} {topic : String}, other.Plain topic → ∀ (handler : Handler τ) (state : τ),
      (other.poll topic handler state (repair after)).1 =
          (other.poll topic handler state (repair before)).1 ∧
        (other.poll topic handler state (repair after)).2.1 =
          (other.poll topic handler state (repair before)).2.1 ∧
        other.journal topic handler state (repair after) =
          other.journal topic handler state (repair before) ∧
        (other.poll topic handler state (repair before)).2.2.Alike
          (other.poll topic handler state (repair after)).2.2

theorem traceless_of_alike {before after : Storage} (fresh : before.Fresh) (afterFresh : after.Fresh)
    (alike : before.Alike after) : Traceless before after where
  alike := alike
  next outward _ _ plain handler state :=
    poll_alike plain handler state (outward.alike before after fresh afterFresh alike)
      (outward.fresh before fresh) (outward.fresh after afterFresh)

theorem poll_uncommitted {handler : Handler σ} {state : σ} (fresh : storage.Fresh)
    (unended : (subscriber.journal topic handler state storage).isCommitted = false) :
    Traceless storage (subscriber.poll topic handler state storage).2.2 := by
  have holds := poll_holds subscriber topic handler state fresh
  have afterFresh := poll_fresh subscriber topic handler state fresh
  unfold poll journal at *
  cases built : subscriber.pollScript? topic with
  | error failure => exact traceless_of_alike fresh fresh (Storage.alike_refl storage)
  | ok script =>
      rw [built] at holds unended
      rw [built] at afterFresh
      have kept := Script.run_uncommitted script state storage.beginIsolated.2 unended
      have frame := Script.run_frame handler storage.beginIsolated.1 script state
        storage.beginIsolated.2
      exact traceless_of_alike fresh afterFresh ⟨kept.1, kept.2, frame.1, holds⟩

end Subscriber

theorem Names.runs (names : Names) (member : Member) (topic : String)
    {allowed : Command → Prop}
    (claims : allowed (.run (.claim
      ⟨.sqlite, names.cursorTable topic, member.settings.group⟩)))
    (fetches : ∀ limit, allowed (.run (.fetch (names.messageTable topic)
      ⟨.sqlite, names.cursorTable topic, member.settings.group⟩ limit)))
    (marks : ∀ offset, allowed
      (.run (.markConsumed (names.cursorTable topic) member.settings.group offset)))
    (acknowledges : ∀ offset, allowed
      (.run (.acknowledge (names.cursorTable topic) member.settings.group offset))) :
    (names.subscriber member).Runs topic allowed := by
  constructor
  · intro claim built
    rw [← ofTopic_built (names.cursors_claim topic member.settings.group) built]
    exact claims
  · intro statement built
    rw [← ofTopic_built (names.layout_fetch topic member.settings.group _ _) built]
    exact fetches _
  · intro delivery statement built
    rw [← ofTopic_built (names.cursors_mark topic member.settings.group delivery) built]
    exact marks _
  · intro delivery statement built
    rw [← ofTopic_built (names.cursors_acknowledge topic member.settings.group delivery) built]
    exact acknowledges _

theorem Member.runs (member : Member) (namings : Namings) (topic : String)
    {allowed : Command → Prop}
    (claims : allowed (.run (.claim
      ⟨.sqlite, namings.cursorTable topic, member.settings.group⟩)))
    (fetches : ∀ limit, allowed (.run (.fetch (namings.messageTable topic)
      ⟨.sqlite, namings.cursorTable topic, member.settings.group⟩ limit)))
    (marks : ∀ offset, allowed
      (.run (.markConsumed (namings.cursorTable topic) member.settings.group offset)))
    (acknowledges : ∀ offset, allowed
      (.run (.acknowledge (namings.cursorTable topic) member.settings.group offset))) :
    (member.subscriber namings).Runs topic allowed :=
  namings.names.runs member topic claims fetches marks acknowledges

theorem Member.plain (member : Member) (namings : Namings) (topic : String) :
    (member.subscriber namings).Plain topic :=
  member.runs namings topic rfl (fun _ => rfl) (fun _ => rfl) fun _ => rfl

end TopicLog
