import TopicLog.Subscriber.Run
import TopicLog.Proofs.Arrangement
import TopicLog.Proofs.Acceptance
import TopicLog.Proofs.SideSteps

/-!
Rows that cannot be decoded. Once such a row is the next one for a group, every poll of the group stops
at it and changes nothing, and neither publishing nor other groups make another row the next one.
-/
namespace TopicLog

theorem Member.failed_decode {member : Member} {row : LogRow} {failure : Failure}
    (failed : member.decode row = .error failure) :
    (∃ index cause, failure = .scan index cause) ∨
      ∃ reason cause, failure = .decode (some row.offset) reason cause := by
  have first : (Row.ofColumns (Log.columns row)).int 0 = .ok row.offset := rfl
  rcases Row.failed_delivery failed with scan | ⟨offset, read, decode⟩
  · exact .inl scan
  · cases first.symm.trans read
    exact .inr decode

theorem Member.effectiveBatchSize_positive (member : Member) : 0 < member.effectiveBatchSize := by
  unfold Member.effectiveBatchSize
  split
  · decide
  · omega

namespace Namings

variable {namings : Namings} {topic group : String} {row : LogRow} {database : Database} {log : Log}
  {cursors : List CursorRow}

theorem Tables.put_log (valid : isTopic topic = true)
    (tables : namings.Tables topic database log cursors) (after : Log) :
    namings.Tables topic (database.put (namings.messageTable topic) (.log after)) after cursors where
  messages := Database.contents_put_held _ tables.messages
  cursors := (database.contents_put_other (.log after) (namings.apart topic valid)).trans
    tables.cursors

theorem Tables.put_cursors (valid : isTopic topic = true)
    (tables : namings.Tables topic database log cursors) (after : List CursorRow) :
    namings.Tables topic (database.put (namings.cursorTable topic) (.cursors after)) log after where
  messages := (database.contents_put_other (.cursors after) (apart_cursors namings valid)).trans
    tables.messages
  cursors := Database.contents_put_held _ tables.cursors

/-- The next row for a group is this one: it has the smallest offset above the bound of the group. -/
structure Next (namings : Namings) (topic group : String) (row : LogRow) (database : Database) :
    Prop where
  found : ∃ log cursors bound, namings.Tables topic database log cursors ∧
    Cursors.bound group cursors = .int bound ∧ row ∈ log.rows ∧ bound < row.offset ∧
      ∀ other ∈ log.rows, bound < other.offset → row.offset ≤ other.offset

/-- Statements that neither take rows from a topic nor move the bound of a group. -/
def spares (namings : Namings) (topic group : String) : Action → Bool
  | .claim _ | .fetch _ _ _ => true
  | .markConsumed table _ _ => table = namings.cursorTable topic
  | .acknowledge table other _ => table = namings.cursorTable topic ∧ other ≠ group
  | action => namings.publishes topic action

theorem leaves_create {name : String} {made contents : Contents} {plan : Plan}
    (holds : database.contents? name = some contents)
    (planned : database.create name made = .ok plan) :
    (Storage.leaves database plan).after = database := by
  obtain ⟨table, found, -⟩ := Option.map_eq_some_iff.mp holds
  unfold Database.create at planned
  rw [found] at planned
  split at planned
  all_goals cases planned
  rfl

theorem leaves_claim {claim : Claim} {now : Timestamp} {plan : Plan}
    (planned : database.plan now (.run (.claim claim)) = .ok plan) :
    (Storage.leaves database plan).after = database := by
  simp only [Database.plan, Database.planAction] at planned
  cases bounded : database.bound claim with
  | error fault =>
      rw [bounded] at planned
      cases planned
  | ok bound =>
      rw [bounded] at planned
      cases planned
      rfl

theorem leaves_fetch {table : String} {claim : Claim} {limit : Nat} {now : Timestamp} {plan : Plan}
    (planned : database.plan now (.run (.fetch table claim limit)) = .ok plan) :
    (Storage.leaves database plan).after = database := by
  simp only [Database.plan, Database.planAction, Database.fetch, bind, Except.bind, pure,
    Except.pure] at planned
  repeat' split at planned
  all_goals cases planned
  · rfl
  · rfl

theorem Next.append (valid : isTopic topic = true)
    (next : namings.Next topic group row database) (arranged : database.Arranged) {now : Timestamp}
    {records : List Record} {plan : Plan}
    (planned : database.append now (namings.messageTable topic) records = .ok plan) :
    namings.Next topic group row (Storage.leaves database plan).after := by
  obtain ⟨log, cursors, bound, tables, bounded, inLog, above, smallest⟩ := next.found
  obtain ⟨table, shape⟩ := Database.append_of_log now records tables.messages
  rw [shape] at planned
  cases planned
  cases appended : log.append table now records with
  | error fault => exact next
  | ok after =>
      have before : log.Arranged := arranged.contents tables.messages
      obtain ⟨-, grown⟩ := Log.append_extends before appended
      obtain ⟨added, rows, later⟩ := grown.rows
      refine ⟨after, cursors, bound, tables.put_log valid after, bounded, ?_, above, ?_⟩
      · rw [rows]
        exact List.mem_append_left _ inLog
      · intro other member high
        rw [rows] at member
        -- What was added lies above every offset that was used, and so above the row.
        rcases List.mem_append.mp member with old | new
        · exact smallest other old high
        · exact Int.le_trans (before.used row inLog) (Int.le_of_lt (later other new))

theorem Next.onCursors (valid : isTopic topic = true)
    (next : namings.Next topic group row database) {column : String}
    {change : List CursorRow → List CursorRow} {plan : Plan}
    (stays : ∀ rows, Cursors.bound group (change rows) = Cursors.bound group rows)
    (planned : database.onCursors (namings.cursorTable topic) column change = .ok plan) :
    namings.Next topic group row (Storage.leaves database plan).after := by
  obtain ⟨log, cursors, bound, tables, bounded, inLog, above, smallest⟩ := next.found
  rw [Database.onCursors_of_cursors tables.cursors] at planned
  cases planned
  exact ⟨log, change cursors, bound, tables.put_cursors valid _, (stays cursors).trans bounded,
    inLog, above, smallest⟩

theorem Next.spares (valid : isTopic topic = true) {action : Action}
    (allowed : namings.spares topic group action = true)
    (next : namings.Next topic group row database) (arranged : database.Arranged) {now : Timestamp}
    {plan : Plan} (planned : database.plan now (.run action) = .ok plan) :
    namings.Next topic group row (Storage.leaves database plan).after := by
  obtain ⟨log, cursors, bound, tables, -⟩ := next.found
  cases action with
  | createLog table =>
      have named : table = namings.messageTable topic := by
        simpa [Namings.spares, publishes] using allowed
      subst named
      rw [leaves_create tables.messages planned]
      exact next
  | createCursors table =>
      have named : table = namings.cursorTable topic := by
        simpa [Namings.spares, publishes] using allowed
      subst named
      rw [leaves_create tables.cursors planned]
      exact next
  | append table records =>
      have named : table = namings.messageTable topic := by
        simpa [Namings.spares, publishes] using allowed
      subst named
      exact next.append valid arranged planned
  | claim claim =>
      rw [leaves_claim planned]
      exact next
  | fetch table claim limit =>
      rw [leaves_fetch planned]
      exact next
  | markConsumed table other offset =>
      have named : table = namings.cursorTable topic := by
        simpa [Namings.spares] using allowed
      subst named
      exact next.onCursors valid (Cursors.bound_mark other group offset) planned
  | acknowledge table other offset =>
      obtain ⟨named, apart⟩ : table = namings.cursorTable topic ∧ other ≠ group := by
        simpa [Namings.spares] using allowed
      subst named
      exact next.onCursors valid (Cursors.bound_acknowledge_other apart.symm offset) planned
  | _ => simp [Namings.spares, publishes] at allowed

/-- A storage in which a row is the next one for a group, whoever looks. -/
structure Stuck (namings : Namings) (topic group : String) (row : LogRow) (storage : Storage) :
    Prop where
  fresh : storage.Fresh
  everywhere : storage.Everywhere fun database =>
    database.Arranged ∧ namings.Next topic group row database

variable {storage : Storage}

theorem Stuck.alike {after : Storage} (stuck : namings.Stuck topic group row storage)
    (alike : storage.Alike after) (fresh : after.Fresh) : namings.Stuck topic group row after where
  fresh := fresh
  everywhere := by
    refine ⟨alike.committed ▸ stuck.everywhere.committed, ?_⟩
    rw [alike.holds]
    exact stuck.everywhere.held

theorem keeps_next (valid : isTopic topic = true) {view : Database} {now : Timestamp}
    {action : Action} {plan : Plan} (allowed : namings.spares topic group action = true)
    (before : view.Arranged ∧ namings.Next topic group row view)
    (planned : view.plan now (.run action) = .ok plan) :
    (Storage.leaves view plan).after.Arranged ∧
      namings.Next topic group row (Storage.leaves view plan).after :=
  ⟨Database.arranged_leaves before.1 planned, before.2.spares valid allowed before.1 planned⟩

theorem stuck_survives (valid : isTopic topic = true) :
    namings.Survives topic (fun _ => True) (namings.Stuck topic group row) where
  begin storage stuck := ⟨trivial, Storage.fresh_begin stuck.fresh, stuck.everywhere.begin⟩
  execute storage handle action stuck _ publishes := by
    have allowed : namings.spares topic group action = true := by
      cases action with
      | createLog table => exact publishes
      | createCursors table => exact publishes
      | append table records => exact publishes
      | _ => cases publishes
    exact ⟨Storage.fresh_execute stuck.fresh, stuck.everywhere.execute fun plan planned =>
      keeps_next valid allowed (stuck.everywhere.view handle) planned⟩
  commit storage handle stuck _ :=
    ⟨Storage.fresh_commit stuck.fresh, stuck.everywhere.commit handle⟩
  rollback storage handle stuck _ :=
    ⟨Storage.fresh_rollback stuck.fresh, stuck.everywhere.rollback handle⟩

theorem Stuck.other_poll {σ : Type} (valid : isTopic topic = true)
    (stuck : namings.Stuck topic group row storage) (other : Member)
    (apart : other.settings.group ≠ group) (handler : Handler σ) (state : σ) :
    namings.Stuck topic group row
      ((other.subscriber namings).poll topic handler state storage).2.2 where
  fresh := Subscriber.poll_fresh _ topic handler state stuck.fresh
  everywhere := by
    have runs : (other.subscriber namings).Runs topic fun command =>
        ∃ action, command = .run action ∧ namings.spares topic group action = true := by
      apply other.runs namings topic ⟨_, rfl, rfl⟩ (fun _ => ⟨_, rfl, rfl⟩)
      · intro offset
        exact ⟨_, rfl, by simp [Namings.spares]⟩
      · intro offset
        exact ⟨_, rfl, by simp [Namings.spares, apart]⟩
    unfold Subscriber.poll
    cases built : (other.subscriber namings).pollScript? topic with
    | error failure => exact stuck.everywhere
    | ok script =>
        refine script.run_everywhere ?_ (Subscriber.poll_runs runs built) state
          ⟨stuck.everywhere.begin.committed, stuck.everywhere.begin.held⟩
        rintro view now command plan ⟨action, rfl, allowed⟩ before planned
        exact keeps_next valid allowed before planned

/-- A poll whose next row cannot be decoded fails for that row, whatever other transactions hold. -/
theorem Stuck.poll {σ : Type} {member : Member} {failure : Failure} (handler : Handler σ) (state : σ)
    (valid : isTopic topic = true) (undecodable : member.decode row = .error failure)
    (size : member.effectiveBatchSize ≤ Value.greatestInteger)
    (stuck : namings.Stuck topic member.group row storage) :
    ((member.subscriber namings).poll topic handler state storage).1 = some (.error failure) ∧
      ((member.subscriber namings).poll topic handler state storage).2.1 = state ∧
      ((member.subscriber namings).journal topic handler state storage).handed = [] ∧
      storage.Alike ((member.subscriber namings).poll topic handler state storage).2.2 ∧
      namings.Stuck topic member.group row
        ((member.subscriber namings).poll topic handler state storage).2.2 := by
  obtain ⟨arranged, next⟩ := stuck.everywhere.committed
  obtain ⟨log, cursors, bound, tables, bounded, inLog, above, smallest⟩ := next.found
  have ordered : log.Arranged := arranged.contents tables.messages
  obtain ⟨rest, first⟩ := Log.after_first ordered.ascending member.effectiveBatchSize_positive
    inLog above smallest
  obtain ⟨entries, unhanded, comes⟩ :=
    poll_play handler state valid stuck.fresh tables bounded size
  -- The batch begins with the row, so nothing is marked and the lock is not asked for.
  rw [first] at comes
  have plays : Plays member (namings.cursorTable topic) handler (row :: rest) 0 cursors state
      storage.snapshot ((member.subscriber namings).played topic handler state storage) := by
    rw [comes]
    exact (Plays.of_undecodable undecodable).following unhanded
  have left := plays.kept (Member.decodable_undecodable undecodable)
  have alike : storage.Alike
      ((member.subscriber namings).poll topic handler state storage).2.2 :=
    ⟨congrArg Scene.committed left, congrArg Scene.version left, congrArg Scene.clock left,
      Subscriber.poll_holds _ topic handler state stuck.fresh⟩
  refine ⟨?_, ?_, ?_, alike, ?_⟩
  · rw [← Member.ending_undecodable undecodable]
    exact plays.result
  · have after := plays.state
    rw [Member.deliveries_undecodable undecodable] at after
    exact after
  · have handed := plays.handed
    rw [Member.deliveries_undecodable undecodable] at handed
    exact handed
  · exact stuck.alike alike (Subscriber.poll_fresh _ topic handler state stuck.fresh)

theorem Stuck.polls {σ : Type} {member : Member} {failure : Failure} (handler : Handler σ) (state : σ)
    (count : Nat) (valid : isTopic topic = true)
    (undecodable : member.decode row = .error failure)
    (size : member.effectiveBatchSize ≤ Value.greatestInteger)
    (stuck : namings.Stuck topic member.group row storage) :
    ((member.subscriber namings).polls topic handler count state storage).result = some (.ok ()) ∧
      ((member.subscriber namings).polls topic handler count state storage).errors =
        List.replicate count failure ∧
      ((member.subscriber namings).polls topic handler count state storage).state = state ∧
      storage.Alike
        ((member.subscriber namings).polls topic handler count state storage).storage := by
  have forwards : Subscriber.forwarded (.error failure) = [failure] := by
    rcases Member.failed_decode undecodable with ⟨index, cause, rfl⟩ | ⟨reason, cause, rfl⟩
    · rfl
    · rfl
  induction count generalizing storage with
  | zero => exact ⟨rfl, rfl, rfl, storage.alike_refl⟩
  | succ count ih =>
      obtain ⟨result, kept, -, alike, still⟩ := stuck.poll handler state valid undecodable size
      rcases polled : (member.subscriber namings).poll topic handler state storage with
        ⟨polledResult, polledState, after⟩
      rw [polled] at result kept alike still
      simp only at result kept alike still
      subst result kept
      obtain ⟨ended, errors, unmoved, laterAlike⟩ := ih still
      simp only [Subscriber.polls, polled]
      refine ⟨ended, ?_, unmoved, alike.trans laterAlike⟩
      rw [errors, forwards]
      rfl

/-- What may happen at a topic after a poll of a group: more is published, the tables are made, other
transactions of that kind take single steps, and the group and other groups poll again. -/
inductive Further (namings : Namings) (topic group : String) (codec : Codec) (start : Storage) :
    Storage → Prop where
  | here : Further namings topic group codec start start
  | publish {storage : Storage} {publisher : Publisher} {batchSize : Nat} {other : Codec}
      (before : Further namings topic group codec start storage)
      (usual : publisher.layout = namings.layout batchSize other) (messages : List Message) :
      Further namings topic group codec start (publisher.publish topic messages storage).2.2
  | setUp {storage : Storage} (before : Further namings topic group codec start storage)
      (member : Member) :
      Further namings topic group codec start ((member.subscriber namings).setUp topic storage).2
  | begin {storage : Storage} (before : Further namings topic group codec start storage) :
      Further namings topic group codec start storage.begin.2
  | execute {storage : Storage} (before : Further namings topic group codec start storage)
      (handle : Handle) {action : Action} (allowed : namings.publishes topic action = true) :
      Further namings topic group codec start (storage.execute handle (.run action)).2
  | commit {storage : Storage} (before : Further namings topic group codec start storage)
      (handle : Handle) : Further namings topic group codec start (storage.commit handle)
  | rollback {storage : Storage} (before : Further namings topic group codec start storage)
      (handle : Handle) : Further namings topic group codec start (storage.rollback handle)
  | poll {storage : Storage} {σ : Type}
      (before : Further namings topic group codec start storage) (member : Member)
      (same : member.group = group →
        member.codec = codec ∧ member.effectiveBatchSize ≤ Value.greatestInteger)
      (handler : Handler σ) (state : σ) :
      Further namings topic group codec start
        ((member.subscriber namings).poll topic handler state storage).2.2

theorem Stuck.further {member : Member} {failure : Failure} {later : Storage}
    (valid : isTopic topic = true) (undecodable : member.decode row = .error failure)
    (stuck : namings.Stuck topic member.group row storage)
    (further : namings.Further topic member.group member.codec storage later) :
    namings.Stuck topic member.group row later := by
  have survives : namings.Survives topic (fun _ => True)
      (namings.Stuck topic member.group row) := stuck_survives valid
  induction further with
  | here => exact stuck
  | publish _ usual messages before => exact survives.publish valid before usual
  | setUp _ other before => exact survives.subscriber_setUp before
  | begin _ before => exact (survives.begin _ before).2
  | execute _ handle allowed before => exact survives.execute _ handle _ before trivial allowed
  | commit _ handle before => exact survives.commit _ handle before trivial
  | rollback _ handle before => exact survives.rollback _ handle before trivial
  | poll _ other same handler state before =>
      by_cases own : other.group = member.group
      · obtain ⟨codec, size⟩ := same own
        have again : other.decode row = .error failure := by
          rw [Member.decode, codec]
          exact undecodable
        rw [← own] at before ⊢
        exact (before.poll handler state valid again size).2.2.2.2
      · exact before.other_poll valid other own handler state

end Namings

end TopicLog
