import TopicLog.Proofs.Batches

/-!
A topic is a log of whole batches that only grows. Whatever publishers, set-ups and polls did so far, a
batch is appended behind all rows there ever were, or nothing of it is; and polls and set-ups leave
every row as it is.
-/
namespace TopicLog

namespace Namings

variable {namings : Namings} {topic : String}

theorem Prepared.logged {before after : Database} (prepared : namings.Prepared topic before after)
    (logged : namings.Logged topic before) : namings.Logged topic after := by
  have same := prepared.log.1
  refine ⟨?_, same ▸ logged.ordered⟩
  intro contents found
  rcases prepared with rfl | ⟨missing, rfl⟩
  · exact logged.messages contents found
  · simp [Database.contents_addTable, missing, sameName_refl] at found
    exact ⟨{}, found.symm⟩

theorem Prepared.appended {codec : Codec} {now : Timestamp} {messages : List Message}
    {before middle after : Database} (prepared : namings.Prepared topic before middle)
    (appended : namings.Appended topic codec now messages middle after) :
    namings.Appended topic codec now messages before after := by
  obtain ⟨same, others⟩ := prepared.log
  constructor
  · rw [← same]
    exact appended.rows
  · intro name apart
    exact (appended.others name apart).trans (others name apart)

theorem Appended.nothing {codec : Codec} {now : Timestamp} (database : Database) :
    namings.Appended topic codec now [] database database where
  rows := by
    refine ⟨[], (List.append_nil _).symm, .nil, ?_, .nil⟩
    intro row member
    cases member
  others _ _ := rfl

theorem survives_consistent (namings : Namings) (topic : String) (clock : Timestamp) :
    namings.Survives topic (fun _ => True)
      (fun storage => storage.Consistent ∧ storage.clock = clock) where
  begin _ holds := ⟨trivial, Storage.consistent_begin holds.1, holds.2⟩
  execute storage handle _ holds _ _ :=
    ⟨Storage.consistent_execute holds.1, (storage.execute_frame handle _).2.2.1.trans holds.2⟩
  commit storage handle holds _ :=
    ⟨Storage.consistent_commit holds.1, (storage.commit_frame handle).1.trans holds.2⟩
  rollback storage handle holds _ :=
    ⟨Storage.consistent_rollback holds.1, (storage.rollback_frame handle).2.2.1.trans holds.2⟩

end Namings

/-! One batch. -/

section Publish

variable {namings : Namings} {topic : String} {codec : Codec} {batchSize : Nat}
  {publisher next : Publisher} {storage after : Storage} {messages : List Message}

/-- What a publisher leaves when it has made sure of the table. -/
structure Publisher.Ready (namings : Namings) (topic : String) (publisher next : Publisher)
    (storage middle : Storage) : Prop where
  layout : next.layout = publisher.layout
  prepared : namings.Prepared topic storage.committed middle.committed
  fresh : middle.Fresh
  clock : middle.clock = storage.clock

theorem Publisher.ensureInitialized_ready
    (usual : publisher.layout = namings.layout batchSize codec) (topic : String)
    (consistent : storage.Consistent) :
    Publisher.Ready namings topic publisher (publisher.ensureInitialized topic storage).2.1 storage
      (publisher.ensureInitialized topic storage).2.2 := by
  obtain ⟨⟨kept, clock⟩, layout⟩ := (namings.survives_consistent topic storage.clock).ensureInitialized
    ⟨consistent, rfl⟩ usual
  exact ⟨layout, publisher.ensureInitialized_prepared usual topic consistent, kept.fresh, clock⟩

theorem Publisher.publish_ways (usual : publisher.layout = namings.layout batchSize codec)
    (valid : isTopic topic = true) (nonempty : messages.isEmpty = false)
    (consistent : storage.Consistent) :
    ∃ next middle, Publisher.Ready namings topic publisher next storage middle ∧
      ((∃ failure, publisher.publish topic messages storage = (.error failure, next, middle)) ∨
        publisher.publish topic messages storage =
          ((next.append topic messages middle).1, next, (next.append topic messages middle).2)) := by
  have checked : validateTopic topic = .ok () := if_pos valid
  have ready := Publisher.ensureInitialized_ready usual topic consistent
  simp only [publish, checked, nonempty, Bool.false_eq_true, ↓reduceIte]
  by_cases auto : publisher.settings.autoInitialize = true
  · simp only [auto, ↓reduceIte]
    rcases ensured : publisher.ensureInitialized topic storage with ⟨result, next, middle⟩
    rw [ensured] at ready
    refine ⟨next, middle, ready, ?_⟩
    cases result with
    | error failure => exact .inl ⟨failure, rfl⟩
    | ok _ => exact .inr rfl
  · exact ⟨publisher, storage, ⟨rfl, .inl rfl, consistent.fresh, rfl⟩, .inr (by simp [auto])⟩

theorem Publisher.publish_appended (usual : publisher.layout = namings.layout batchSize codec)
    (valid : isTopic topic = true) (consistent : storage.Consistent)
    (logged : namings.Logged topic storage.committed)
    (published : publisher.publish topic messages storage = (.ok (), next, after)) :
    namings.Appended topic codec storage.clock messages storage.committed after.committed := by
  cases empty : messages.isEmpty with
  | true =>
      have checked : validateTopic topic = .ok () := if_pos valid
      simp only [publish, checked, empty, ↓reduceIte] at published
      cases published
      rw [List.isEmpty_iff.mp empty]
      exact .nothing _
  | false =>
      obtain ⟨prior, middle, ready, ⟨failure, failed⟩ | ran⟩ :=
        Publisher.publish_ways usual valid empty consistent
      · cases failed.symm.trans published
      · have appended : prior.append topic messages middle = (.ok (), after) := by
          have both := ran.symm.trans published
          exact Prod.ext (congrArg (·.1) both) (congrArg (·.2.2) both)
        have whole := Publisher.append_appended (ready.layout.trans usual) ready.fresh
          (ready.prepared.logged logged) appended
        rw [ready.clock] at whole
        exact ready.prepared.appended whole

theorem Publisher.publish_misnamed (publisher : Publisher) (messages : List Message)
    (storage : Storage) (misnamed : isTopic topic = false) :
    publisher.publish topic messages storage = (.error (.invalidTopic topic), publisher, storage) := by
  simp [publish, validateTopic, misnamed]

theorem Publisher.publish_failed {failure : Failure}
    (usual : publisher.layout = namings.layout batchSize codec) (consistent : storage.Consistent)
    (published : publisher.publish topic messages storage = (.error failure, next, after)) :
    namings.Prepared topic storage.committed after.committed := by
  cases valid : isTopic topic with
  | false =>
      cases (publisher.publish_misnamed messages storage valid).symm.trans published
      exact .inl rfl
  | true =>
      have checked : validateTopic topic = .ok () := if_pos valid
      cases empty : messages.isEmpty with
      | true =>
          simp only [publish, checked, empty, ↓reduceIte] at published
          cases published
      | false =>
          obtain ⟨prior, middle, ready, ⟨other, failed⟩ | ran⟩ :=
            Publisher.publish_ways usual valid empty consistent
          · cases failed.symm.trans published
            exact ready.prepared
          · have both := ran.symm.trans published
            have kept := Publisher.append_failed
              (Prod.ext (congrArg (·.1) both) (congrArg (·.2.2) both))
            rw [kept]
            exact ready.prepared

end Publish

/-- What comes of publishing from a storage, whoever does it: all at once, or the making of the table
and the appending one by one, as when others take steps in between. -/
structure WholeBatches (namings : Namings) (topic : String) (storage : Storage) : Prop where
  published : ∀ (publisher next : Publisher) batchSize codec messages after,
    publisher.layout = namings.layout batchSize codec →
    publisher.publish topic messages storage = (.ok (), next, after) →
    namings.Appended topic codec storage.clock messages storage.committed after.committed
  failed : ∀ (publisher next : Publisher) batchSize codec messages failure after,
    publisher.layout = namings.layout batchSize codec →
    publisher.publish topic messages storage = (.error failure, next, after) →
    namings.Prepared topic storage.committed after.committed
  empty : ∀ publisher : Publisher,
    publisher.publish topic [] storage = (.ok (), publisher, storage)
  misnamed : ∀ (publisher : Publisher) other messages, isTopic other = false →
    publisher.publish other messages storage = (.error (.invalidTopic other), publisher, storage)
  made : ∀ (publisher : Publisher) batchSize codec,
    publisher.layout = namings.layout batchSize codec →
    namings.Prepared topic storage.committed (publisher.setUp topic storage).2.committed
  appended : ∀ (publisher : Publisher) batchSize codec messages after,
    publisher.layout = namings.layout batchSize codec →
    publisher.append topic messages storage = (.ok (), after) →
    namings.Appended topic codec storage.clock messages storage.committed after.committed
  kept : ∀ (publisher : Publisher) messages failure after,
    publisher.append topic messages storage = (.error failure, after) →
    after.committed = storage.committed

theorem wholeBatches {namings : Namings} {topic : String} {storage : Storage}
    (valid : isTopic topic = true) (consistent : storage.Consistent)
    (logged : namings.Logged topic storage.committed) : WholeBatches namings topic storage where
  published _ _ _ _ _ _ usual := Publisher.publish_appended usual valid consistent logged
  failed _ _ _ _ _ _ _ usual := Publisher.publish_failed usual consistent
  empty publisher := by
    have checked : validateTopic topic = .ok () := if_pos valid
    simp [Publisher.publish, checked]
  misnamed publisher _ messages := publisher.publish_misnamed messages storage
  made publisher _ _ usual := publisher.setUp_prepared usual topic consistent
  appended _ _ _ _ _ usual := Publisher.append_appended usual consistent.fresh logged
  kept _ _ _ _ := Publisher.append_failed

/-! The other steps. -/

/-- Events that are no publisher's; a step of a transaction may be one. -/
def Event.isQuiet : Event → Bool
  | .publish _ _ _ _ | .move _ => false
  | _ => true

section Quiet

variable {namings : Namings} {topic : String} {base : Log} {system : System}

theorem Member.setUp_log (member : Member) (valid : isTopic topic = true) {storage : Storage}
    (consistent : storage.Consistent) :
    namings.log topic ((member.subscriber namings).setUp topic storage).2.committed =
      namings.log topic storage.committed := by
  have keeps : ∀ view now command plan,
      (∃ action, command = .run action ∧
        (action = .createCursors (namings.cursorTable topic) ∨
          action = .createLog (namings.messageTable topic))) →
      namings.log topic view = namings.log topic storage.committed →
      Database.plan view now command = .ok plan →
      namings.log topic (Storage.leaves view plan).after = namings.log topic storage.committed := by
    rintro view now _ plan ⟨action, rfl, rfl | rfl⟩ same planned
    · rcases Database.create_leaves planned with unchanged | ⟨-, made⟩
      · rw [unchanged]
        exact same
      · rw [made, ← same]
        apply Namings.log_of_same
        simp [Database.contents_addTable, Namings.apart_cursors namings valid]
    · rcases Database.create_leaves planned with unchanged | ⟨missing, made⟩
      · rw [unchanged]
        exact same
      · rw [made, ← same]
        apply Namings.log_of_missing missing
        simp [Database.contents_addTable, missing, sameName_refl]
  apply Storage.setUp_committed keeps _ consistent rfl
  intro list built statement member
  rw [← ofTopic_built (namings.layouts_setup topic _ _) built] at member
  rcases List.mem_pair.mp member with rfl | rfl
  · exact ⟨_, rfl, .inl rfl⟩
  · exact ⟨_, rfl, .inr rfl⟩

theorem AppendOnly.step_quiet (valid : isTopic topic = true)
    (appendOnly : AppendOnly namings topic base system) {event : Event}
    (quiet : event.isQuiet = true) :
    namings.log topic (system.step namings topic event).storage.committed =
      namings.log topic system.storage.committed := by
  cases event with
  | begin member =>
      simp only [System.step]
      split
      · rfl
      · rfl
  | advance handle verdict =>
      cases found : system.polls handle with
      | none => simp only [System.step, found]
      | some poll =>
          simp only [System.step, found]
          exact Namings.log_of_same (appendOnly.stepped verdict found).2.2
  | drop handle =>
      cases found : system.polls handle with
      | none => simp only [System.step, found]
      | some poll =>
          simp only [System.step, found]
          rw [(system.storage.rollback_frame handle).1]
  | setUp member => exact member.setUp_log valid appendOnly.appending.tracks.consistent
  | pause clock => rfl
  | publish _ _ _ _ => cases quiet
  | move _ => cases quiet

end Quiet

/-! Whole runs. -/

/-- A storage in which no transaction is open, and nothing but messages that were published is in the
table of messages, if there is one. -/
structure Namings.Opened (namings : Namings) (topic : String) (storage : Storage) : Prop where
  closed : storage.holds = []
  logged : namings.Logged topic storage.committed

theorem Namings.Opened.appendOnly {namings : Namings} {topic : String} {storage : Storage}
    (opened : namings.Opened topic storage) :
    AppendOnly namings topic (namings.log topic storage.committed) { storage } where
  appending := by
    refine ⟨⟨Storage.consistent_of_closed opened.closed, ?_⟩, opened.logged, Log.extends_refl _, ?_⟩
    · intro handle view changed held
      rw [Storage.held?, opened.closed] at held
      cases held
    · intro handle polls
      cases polls
  silent _ _ found := by cases found

theorem AppendOnly.since_now {namings : Namings} {topic : String} {base : Log} {system : System}
    (appendOnly : AppendOnly namings topic base system) :
    AppendOnly namings topic (namings.log topic system.storage.committed) system where
  appending := { appendOnly.appending with since := Log.extends_refl _ }
  silent := appendOnly.silent

/-- The topic only grows, by whole batches. What was in it after some of the events is a beginning of what
is in it after all of them, and no offset is given a second time; events that are not a publisher's
change nothing; and a publisher appends its batch as a whole, in order, or nothing of it. -/
theorem topic_is_append_only (namings : Namings) {topic : String} (valid : isTopic topic = true)
    {storage : Storage} (opened : namings.Opened topic storage) (events : List Event) :
    let system := System.run namings topic events { storage }
    let log := namings.log topic system.storage.committed
    log.Ordered ∧
      (∀ earlier later, events = earlier ++ later →
        Log.Extends (namings.log topic
          (System.run namings topic earlier { storage }).storage.committed) log) ∧
      (∀ event, event.isQuiet = true →
        namings.log topic (system.step namings topic event).storage.committed = log) ∧
      WholeBatches namings topic system.storage := by
  intro system log
  have appendOnly : AppendOnly namings topic _ system := opened.appendOnly.run valid events
  obtain ⟨⟨consistent, -⟩, logged, -, -⟩ := appendOnly.appending
  refine ⟨logged.ordered, ?_, ?_, wholeBatches valid consistent logged⟩
  -- The log in the middle is taken for the base of what happened since.
  · intro earlier later split
    have middle := opened.appendOnly.run valid earlier
    have rest := (middle.since_now).run valid later
    have joined : System.run namings topic later (System.run namings topic earlier { storage }) =
        system := by
      simp only [system, split, System.run, List.foldl_append]
    rw [joined] at rest
    exact rest.appending.since
  · intro event quiet
    exact appendOnly.step_quiet valid quiet

def publishedThrice : List Event :=
  let member : Member := { settings := { group := "billing" } }
  let step := Event.advance 3 .accepted
  let publish (payload : List UInt8) := Event.publish .json {} [] [{ payload }, { payload }]
  [publish [1], .setUp member, .begin member, step, step, step, publish [2], .drop 3, publish [3]]

theorem topic_is_append_only_thrice :
    isTopic "orders" = true ∧ Namings.usual.Opened "orders" { clock := newYear } ∧
      let before := System.run Namings.usual "orders" (publishedThrice.take 7)
        { storage := { clock := newYear } }
      let system := System.run Namings.usual "orders" publishedThrice
        { storage := { clock := newYear } }
      let rows (system : System) := (Namings.usual.log "orders" system.storage.committed).rows.map
        fun row => (row.offset, row.payload)
      rows before = [(1, .blob [1]), (2, .blob [1])] ∧
      rows system = rows before ++ [(3, .blob [3]), (4, .blob [3])] ∧
      WholeBatches Namings.usual "orders" system.storage := by
  have opened : Namings.usual.Opened "orders" { clock := newYear } := by
    refine ⟨rfl, ?_, Log.ordered_empty⟩
    rintro contents ⟨⟩
  have valid : isTopic "orders" = true := by decide
  refine ⟨valid, opened, by decide +kernel, by decide +kernel, ?_⟩
  exact (topic_is_append_only Namings.usual valid opened publishedThrice).2.2.2

end TopicLog
