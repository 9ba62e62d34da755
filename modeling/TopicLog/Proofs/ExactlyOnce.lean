import TopicLog.Proofs.Invariant

/-!
Nothing is lost and nothing is acknowledged twice, however publishers and the polls of any number of
members take their steps in between each other.
-/
namespace TopicLog

/-- A storage in which nothing was published to a topic, no cursor was written and no transaction is
open. Its tables may or may not be there. -/
structure Namings.Blank (namings : Namings) (topic : String) (storage : Storage) : Prop where
  closed : storage.holds = []
  messages : ∀ contents, storage.committed.contents? (namings.messageTable topic) = some contents →
    contents = .log {}
  cursors : ∀ contents, storage.committed.contents? (namings.cursorTable topic) = some contents →
    contents = .cursors []

namespace Namings.Blank

variable {namings : Namings} {topic : String} {storage : Storage}

theorem log_empty (blank : namings.Blank topic storage) :
    namings.log topic storage.committed = {} := by
  rw [log, Database.logOf]
  cases held : storage.committed.contents? (namings.messageTable topic) with
  | none => rfl
  | some contents => rw [blank.messages contents held]

theorem cursors_empty (blank : namings.Blank topic storage) :
    namings.cursorRows topic storage.committed = [] := by
  rw [cursorRows, Database.cursorsOf]
  cases held : storage.committed.contents? (namings.cursorTable topic) with
  | none => rfl
  | some contents => rw [blank.cursors contents held]

theorem acked_zero (blank : namings.Blank topic storage) (group : String) :
    namings.acked topic storage.committed group = 0 := by
  rw [acked, blank.cursors_empty]
  rfl

theorem sound (blank : namings.Blank topic storage) :
    namings.Sound topic storage.committed where
  messages contents held := ⟨{}, blank.messages contents held⟩
  cursors contents held := ⟨[], blank.cursors contents held⟩
  ordered := blank.log_empty ▸ Log.ordered_empty
  bound group := by
    rw [blank.acked_zero, blank.cursors_empty]
    rfl
  within group := by
    rw [blank.acked_zero, blank.log_empty]
    exact ⟨Int.le_refl 0, Int.le_refl 0⟩

theorem invariant (blank : namings.Blank topic storage) :
    Invariant namings topic { storage } where
  consistent := Storage.consistent_of_closed blank.closed
  sound := blank.sound
  polls _ _ found := by cases found
  others handle view changed _ held := by
    rw [Storage.held?, blank.closed] at held
    cases held
  account := by
    constructor
    · intro group
      change [] = ((namings.log topic storage.committed).upTo _).map LogRow.offset
      rw [blank.log_empty]
      rfl
    · intro poll member
      cases member

end Namings.Blank

theorem upTo_ascending {log : Log} (ordered : log.Ordered) (bound : Int) :
    ((log.upTo bound).map LogRow.offset).Pairwise (· < ·) :=
  List.pairwise_map.mpr (ordered.ascending.sublist List.filter_sublist)

/-- What the committed polls of a group acknowledged, one poll after another, are the rows of the topic
up to the bound of the group, in ascending order and each once. Each of them was accepted in the poll
that acknowledged it, which handed over no other. -/
theorem rows_acknowledged_once (namings : Namings) {topic : String}
    (valid : isTopic topic = true) {storage : Storage} (blank : namings.Blank topic storage)
    (events : List Event) :
    let system := System.run namings topic events { storage }
    let log := namings.log topic system.storage.committed
    (∀ group,
      acknowledgedBy group system.committed =
        (log.rows.filter fun row => 0 < row.offset ∧
          row.offset ≤ namings.acked topic system.storage.committed group).map LogRow.offset ∧
      (acknowledgedBy group system.committed).Pairwise (· < ·)) ∧
    ∀ poll ∈ system.committed, ∃ rows : List LogRow,
      (∀ row ∈ rows, row ∈ log.rows) ∧
      poll.journal.acknowledged = rows.map LogRow.offset ∧
      poll.journal.handed.map (fun (delivery, verdict) => (Except.ok delivery, verdict)) =
        rows.map fun row => (poll.member.decode row, some Verdict.accepted) := by
  intro system log
  have invariant : Invariant namings topic system := blank.invariant.run valid events
  constructor
  · intro group
    have history := invariant.account.history group
    refine ⟨history, ?_⟩
    rw [history]
    exact upTo_ascending invariant.sound.ordered _
  · intro poll member
    obtain ⟨rows, fulfilled⟩ := invariant.account.fulfilled poll member
    exact ⟨rows, fulfilled.stored, fulfilled.acknowledged, fulfilled.handed⟩

theorem blank_new (namings : Namings) (topic : String) (clock : Timestamp) :
    namings.Blank topic { clock } := ⟨rfl, nofun, nofun⟩

/-- Two members of a group claim the same bound. The one that marks first delivers both messages; the
other cannot mark any, and leaves. -/
def race : List Event :=
  let member : Member := { settings := { group := "billing" } }
  let first := Event.advance 3 .accepted
  let second := Event.advance 4 .accepted
  [.setUp member, .publish .json {} [] [{ payload := [1] }, { payload := [2] }],
    .begin member, .begin member, first, second, first, second, first, second, first, first, first,
    first, first, first, second]

theorem rows_acknowledged_once_race :
    isTopic "orders" = true ∧ Namings.usual.Blank "orders" { clock := newYear } ∧
      let system := System.run Namings.usual "orders" race { storage := { clock := newYear } }
      acknowledgedBy "billing" system.committed = [1, 2] ∧
      acknowledgedBy "billing" system.committed =
        ((Namings.usual.log "orders" system.storage.committed).rows.filter fun row =>
          0 < row.offset ∧ row.offset ≤
            Namings.usual.acked "orders" system.storage.committed "billing").map LogRow.offset :=
  ⟨by decide, blank_new _ _ _, by decide +kernel,
    ((rows_acknowledged_once Namings.usual (by decide) (blank_new _ _ newYear) race).1 "billing").1⟩

end TopicLog
