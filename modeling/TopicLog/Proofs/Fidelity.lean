import TopicLog.Proofs.Dedicated
import TopicLog.Proofs.Draining
import TopicLog.Proofs.MetadataText
import TopicLog.Proofs.TimestampText

/-!
What is published is what is delivered. The log of a topic holds the published messages and nothing
else, each as its codec and the clock wrote it; such a row is decoded to the message it was made of; and
polling until nothing is left hands all of them over, in their order.
-/
namespace TopicLog

/-! Rows. -/

/-- A codec that reads what it wrote of these messages. -/
def Codec.Undoes (codec : Codec) (messages : List Message) : Prop :=
  ∀ message ∈ messages, ∀ bytes, codec.encode message.metadata = .ok bytes →
    codec.decode bytes = .ok message.metadata

theorem Codec.json_undoes (messages : List Message) : Codec.json.Undoes messages := by
  intro message _ bytes encoded
  have written : message.metadata.toJson = bytes := Except.ok.inj encoded
  have read : (Metadata.ofJson message.metadata.toJson).mapError Cause.json =
      .ok message.metadata := by
    rw [Metadata.ofJson_toJson]
    rfl
  rw [← written]
  exact read

def LogRow.Keeps (codec : Codec) (message : Message) (row : LogRow) : Prop :=
  ∃ now : Timestamp, Timestamp.inEra now.date.year = true ∧ row.Holds codec now message

theorem LogRow.Keeps.decode {member : Member} {message : Message} {row : LogRow}
    (keeps : row.Keeps member.codec message)
    (undoes : ∀ bytes, member.codec.encode message.metadata = .ok bytes →
      member.codec.decode bytes = .ok message.metadata) :
    ∃ now, member.decode row = .ok ⟨row.offset, now, message⟩ := by
  obtain ⟨now, era, holds⟩ := keeps
  obtain ⟨bytes, encoded, metadata⟩ := holds.metadata
  have moment : Row.createdAt row.offset now.toText = .ok now := by
    simp only [Row.createdAt, Timestamp.ofText_toText era]
  have decoded : Row.metadata member.codec row.offset (some bytes) = .ok message.metadata := by
    simp only [Row.metadata, undoes bytes encoded]
  refine ⟨now, ?_⟩
  simp [Member.decode, Row.delivery, Row.ofColumns, Log.columns, holds.uuid, holds.createdAt,
    holds.payload, metadata, moment, decoded, bind, Except.bind, pure, Except.pure]

theorem Member.deliveries_kept (member : Member) {messages : List Message} {rows : List LogRow}
    (kept : List.Forall₂ (LogRow.Keeps member.codec) messages rows)
    (undoes : member.codec.Undoes messages) :
    (∀ row ∈ rows, member.decodes row = true) ∧
      (member.deliveries rows).map Delivery.message = messages := by
  induction kept with
  | nil => exact ⟨by simp, rfl⟩
  | @cons message row messages rows keeps later ih =>
      obtain ⟨now, decoded⟩ := keeps.decode (undoes message List.mem_cons_self)
      obtain ⟨decodes, delivered⟩ :=
        ih fun other member => undoes other (List.mem_cons_of_mem message member)
      constructor
      · intro other inside
        rcases List.mem_cons.mp inside with rfl | inside
        · exact decodes_iff.mpr ⟨_, decoded⟩
        · exact decodes other inside
      · rw [deliveries_decoded decoded, List.map_cons, delivered]

/-! What a run published. -/

def System.publishing (namings : Namings) (topic : String) (system : System) :
    Event → List Message
  | .publish codec settings initialized messages =>
      let publisher : Publisher :=
        { layout := namings.layout defaultBatchSize codec, settings, initialized }
      if (publisher.publish topic messages system.storage).1.isOk then messages else []
  | _ => []

def System.published (namings : Namings) (topic : String) : List Event → System → List Message
  | [], _ => []
  | event :: rest, system =>
      system.publishing namings topic event ++
        System.published namings topic rest (system.step namings topic event)

/-- An event whose batches have one codec, and that sets the clock to a time that can be written.
Batches are published whole. -/
def Event.IsFaithful (codec : Codec) : Event → Prop
  | .publish used _ _ _ => used = codec
  | .pause clock => Timestamp.inEra clock.date.year = true
  | .move _ => False
  | _ => True

theorem System.step_clock {namings : Namings} {topic : String} {system : System}
    (valid : isTopic topic = true) (consistent : system.storage.Consistent) {event : Event}
    (whole : ∀ move, event ≠ .move move) :
    (system.step namings topic event).storage.clock =
      match event with
      | .pause clock => clock
      | _ => system.storage.clock := by
  have survives := namings.survives_consistent topic system.storage.clock
  cases event with
  | begin member =>
      simp only [System.step]
      split <;> rfl
  | advance handle verdict =>
      simp only [System.step]
      split
      · rfl
      · rename_i poll found
        unfold System.advance
        cases poll.script with
        | done result => rfl
        | execute command next => exact (system.storage.execute_frame handle command).2.2.1
        | hand delivery next => rfl
        | commit next => exact (system.storage.commit_frame handle).1
        | rollback next => exact (system.storage.rollback_frame handle).2.2.1
  | drop handle =>
      simp only [System.step]
      split
      · rfl
      · exact (system.storage.rollback_frame handle).2.2.1
  | publish codec settings initialized messages =>
      exact (survives.publish valid ⟨consistent, rfl⟩ rfl).2
  | setUp member => exact (survives.subscriber_setUp ⟨consistent, rfl⟩).2
  | move move => exact absurd rfl (whole move)
  | pause clock => rfl

/-- A system whose log holds messages and nothing else. -/
structure Faithful (namings : Namings) (topic : String) (codec : Codec) (messages : List Message)
    (system : System) : Prop where
  appendOnly : AppendOnly namings topic {} system
  rows : List.Forall₂ (LogRow.Keeps codec) messages
    (namings.log topic system.storage.committed).rows
  era : Timestamp.inEra system.storage.clock.date.year = true

section Faithful

variable {namings : Namings} {topic : String} {codec : Codec} {messages : List Message}
  {system : System}

theorem Faithful.start (namings : Namings) (topic : String) (codec : Codec) {clock : Timestamp}
    (era : Timestamp.inEra clock.date.year = true) :
    Faithful namings topic codec [] { storage := { clock } } where
  appendOnly := by
    have missing : ∀ name, ({} : Database).contents? name = none := fun _ => rfl
    have opened : namings.Opened topic { clock } := by
      refine ⟨rfl, ?_, Log.ordered_empty⟩
      intro contents found
      cases (missing _).symm.trans found
    exact opened.appendOnly
  rows := .nil
  era := era

theorem Faithful.publish (valid : isTopic topic = true)
    (faithful : Faithful namings topic codec messages system) (settings : PublisherSettings)
    (initialized : List String) (batch : List Message) :
    List.Forall₂ (LogRow.Keeps codec)
      (messages ++ system.publishing namings topic (.publish codec settings initialized batch))
      (namings.log topic (system.step namings topic
        (.publish codec settings initialized batch)).storage.committed).rows := by
  obtain ⟨⟨⟨consistent, -⟩, logged, -, -⟩, -⟩ := faithful.appendOnly
  have whole := wholeBatches valid consistent logged
  let publisher : Publisher :=
    { layout := namings.layout defaultBatchSize codec, settings, initialized }
  rcases published : publisher.publish topic batch system.storage with ⟨result, next, after⟩
  have step : (system.step namings topic
      (.publish codec settings initialized batch)).storage = after := by
    change (publisher.publish topic batch system.storage).2.2 = after
    rw [published]
  have told : system.publishing namings topic (.publish codec settings initialized batch) =
      if result.isOk then batch else [] := by
    change (if (publisher.publish topic batch system.storage).1.isOk then batch else []) = _
    rw [published]
  rw [step, told]
  cases result with
  | error failure =>
      have prepared := whole.failed publisher next _ codec batch failure after rfl published
      rw [prepared.log.1, if_neg (by simp [Except.isOk, Except.toBool]), List.append_nil]
      exact faithful.rows
  | ok done =>
      have appended := whole.published publisher next _ codec batch after rfl published
      obtain ⟨added, rows, holds, -, -⟩ := appended.rows
      rw [rows, if_pos (show (Except.ok done : Except Failure Unit).isOk = true from rfl)]
      exact List.rel_append faithful.rows (holds.imp fun message row held =>
        ⟨system.storage.clock, faithful.era, held⟩)

theorem Faithful.step (valid : isTopic topic = true)
    (faithful : Faithful namings topic codec messages system) {event : Event}
    (plain : event.IsFaithful codec) :
    Faithful namings topic codec (messages ++ system.publishing namings topic event)
      (system.step namings topic event) where
  appendOnly := faithful.appendOnly.step valid event
  rows := by
    cases event with
    | publish used settings initialized batch =>
        cases (plain : used = codec)
        exact faithful.publish valid settings initialized batch
    | move move => exact plain.elim
    | _ =>
        rw [faithful.appendOnly.step_quiet valid rfl]
        exact (List.append_nil messages).symm ▸ faithful.rows
  era := by
    rw [System.step_clock valid faithful.appendOnly.appending.tracks.consistent]
    · cases event with
      | pause clock => exact plain
      | _ => exact faithful.era
    · rintro move rfl
      exact plain

theorem Faithful.run (valid : isTopic topic = true)
    (faithful : Faithful namings topic codec messages system) {events : List Event}
    (plain : ∀ event ∈ events, event.IsFaithful codec) :
    Faithful namings topic codec (messages ++ System.published namings topic events system)
      (System.run namings topic events system) := by
  induction events generalizing system messages with
  | nil =>
      rw [System.published, List.append_nil]
      exact faithful
  | cons event rest ih =>
      have first := faithful.step valid (plain event List.mem_cons_self)
      have later := ih first fun other member => plain other (List.mem_cons_of_mem event member)
      rw [List.append_assoc] at later
      exact later

end Faithful

/-! Polling until nothing is left. -/

def messagesIn (polls : List Polled) : List Message :=
  polls.flatMap fun polled => polled.journal.handed.map fun given => given.1.message

/-- Polls of which the last is the first that finds nothing, none fails, and that hand over messages. -/
structure HandsOver (messages : List Message) (polls : List Polled) : Prop where
  ends : ∃ earlier last, polls = earlier ++ [last] ∧ last.result = some (.ok 0) ∧
    ∀ polled ∈ earlier, ∃ count, polled.result = some (.ok (count + 1))
  handed : messagesIn polls = messages

section Drain

variable {σ : Type} {handler : Handler σ} {namings : Namings} {topic : String} {member : Member}
  {log : Log}

theorem HandsOver.cons {polled : Polled} {polls : List Polled} {first later : List Message}
    (handsOver : HandsOver later polls)
    (found : ∃ count, polled.result = some (.ok (count + 1)))
    (handed : polled.journal.handed.map (fun given => given.1.message) = first) :
    HandsOver (first ++ later) (polled :: polls) where
  ends := by
    obtain ⟨earlier, last, split, empty, others⟩ := handsOver.ends
    refine ⟨polled :: earlier, last, congrArg (polled :: ·) split, empty, ?_⟩
    intro other inside
    rcases List.mem_cons.mp inside with rfl | inside
    · exact found
    · exact others other inside
  handed := by
    rw [← handed, ← handsOver.handed]
    rfl

section Step

variable {sizes : Nat → Sizing} {cursors : List CursorRow} {bound : Int}
  {storage : Storage} {messages : List Message} (valid : isTopic topic = true)
  (accepts : ∀ delivery state, (handler delivery state).1 = some .accepted)
  (small : ∀ place, (sizes place).effective ≤ Value.greatestInteger)
  (awaits : namings.Awaits topic member.group log cursors bound storage)
  (kept : List.Forall₂ (LogRow.Keeps member.codec) messages (log.pending bound))
  (undoes : member.codec.Undoes messages)
include valid accepts small awaits kept undoes

theorem Member.next_hands_over (state : σ) :
    let batch := (log.pending bound).take (sizes 0).effective
    let subscriber := (member.next sizes).subscriber namings
    let polled := subscriber.poll topic handler state storage
    polled.1 = some (.ok batch.length) ∧
      (subscriber.journal topic handler state storage).handed.map (fun given => given.1.message) =
        messages.take (sizes 0).effective ∧
      ∀ last, batch.getLast? = some last → polled.2.2.committed = storage.committed.put
        (namings.cursorTable topic) (.cursors (Cursors.acknowledge member.group last.offset cursors)) := by
  intro batch subscriber polled
  have plays : Plays (member.next sizes) (namings.cursorTable topic) handler
      (log.after (.int bound) (member.next sizes).effectiveBatchSize) 0 cursors state storage.snapshot
      (subscriber.played topic handler state storage) :=
    poll_plays state valid accepts awaits.alone awaits.arranged awaits.tables awaits.bounded (small 0)
  rw [taken_eq] at plays
  obtain ⟨decodes, delivered⟩ := (member.next sizes).deliveries_kept
    (List.forall₂_take (sizes 0).effective kept)
    (fun message inside => undoes message (List.mem_of_mem_take inside))
  have whole : (member.next sizes).decodable batch = batch := by
    rw [decodable, List.takeWhile_eq_self_iff]
    exact decodes
  refine ⟨?_, ?_, ?_⟩
  · have ended : (member.next sizes).ending 0 batch = .ok (0 + batch.length) := ending_of_all whole
    rw [Nat.zero_add] at ended
    exact plays.result.trans (congrArg some ended)
  · have handed : (subscriber.journal topic handler state storage).handed =
        ((member.next sizes).deliveries batch).map fun delivery => (delivery, some .accepted) :=
      plays.handed
    rw [handed, List.map_map]
    exact delivered
  · intro last reached
    exact plays.moved last ((congrArg List.getLast? whole).trans reached)

end Step

theorem Member.hands_over (valid : isTopic topic = true)
    (accepts : ∀ delivery state, (handler delivery state).1 = some .accepted)
    {sizes : Nat → Sizing} (small : ∀ place, (sizes place).effective ≤ Value.greatestInteger)
    {cursors : List CursorRow} {bound : Int} {state : σ} {storage : Storage}
    (awaits : namings.Awaits topic member.group log cursors bound storage)
    {messages : List Message}
    (kept : List.Forall₂ (LogRow.Keeps member.codec) messages (log.pending bound))
    (undoes : member.codec.Undoes messages) :
    ∃ count, HandsOver messages
      (member.drain namings topic handler (count + 1) sizes state storage).1 := by
  -- Every poll that finds something leaves fewer messages.
  induction measured : messages.length using Nat.strongRecOn
    generalizing messages sizes state storage cursors bound with
  | ind total ih =>
      have positive := (sizes 0).effective_positive
      obtain ⟨result, handed, moved⟩ :=
        Member.next_hands_over valid accepts small awaits kept undoes state
      cases reached : ((log.pending bound).take (sizes 0).effective).getLast? with
      | none =>
          have empty : log.pending bound = [] := by
            rcases List.take_eq_nil_iff.mp (List.getLast?_eq_none_iff.mp reached) with zero | empty
            · omega
            · exact empty
          have nothing : messages = [] := List.forall₂_nil_right_iff.mp (empty ▸ kept)
          refine ⟨0, ?_⟩
          rw [Member.drain_succ, nothing]
          rw [empty, List.take_nil] at result
          rw [nothing, List.take_nil] at handed
          refine ⟨⟨[], _, rfl, result, by simp⟩, ?_⟩
          simp only [messagesIn, Member.drain, List.flatMap_cons, List.flatMap_nil, handed,
            List.append_nil]
      | some last =>
          have some : log.pending bound ≠ [] := by
            intro empty
            simp [empty] at reached
          obtain ⟨count, length⟩ := (sizes 0).take_moves some
          have next := awaits.after_poll (moved last reached ▸ awaits.tables.put_cursors valid _)
            (Cursors.bound_acknowledge _ _ _)
          have dropped := Log.pending_drop awaits.arranged reached
          have fewer : (messages.drop (sizes 0).effective).length < total := by
            have same := kept.length_eq
            have found := List.length_pos_iff.mpr some
            rw [List.length_drop]
            omega
          obtain ⟨more, later⟩ := ih _ fewer (fun place => small (place + 1)) next
            (dropped ▸ List.forall₂_drop (sizes 0).effective kept)
            (fun message inside => undoes message (List.mem_of_mem_drop inside)) rfl
          refine ⟨more + 1, ?_⟩
          rw [Member.drain_succ, ← List.take_append_drop (sizes 0).effective messages]
          exact later.cons ⟨count, length ▸ result⟩ handed

end Drain

theorem Log.pending_zero {log : Log} (ordered : log.Ordered) : log.pending 0 = log.rows := by
  rw [Log.pending, List.filter_eq_self]
  intro row member
  simpa using ordered.positive row member

/-- In a database that is used for one topic only, a group that has acknowledged nothing is handed
exactly the messages that were published, in their order, once it polls until nothing is left: whatever
else was done in the meantime, in whichever batches messages were published and are fetched. The codec
reads what it wrote, as the one for JSON always does. -/
theorem delivers_what_was_published {σ : Type} {topic : String} {clock : Timestamp}
    {events : List Event} {handler : Handler σ} {sizes : Nat → Sizing} (member : Member) (state : σ)
    (valid : isTopic topic = true) (era : Timestamp.inEra clock.date.year = true)
    (faithful : ∀ event ∈ events, event.IsFaithful member.codec)
    (accepts : ∀ delivery state, (handler delivery state).1 = some .accepted)
    (small : ∀ place, (sizes place).effective ≤ Value.greatestInteger) :
    let start : System := { storage := { clock } }
    let system := System.run .usual topic events start
    let published := System.published .usual topic events start
    let ready := (member.subscriber .usual).setUp topic system.storage
    (member.codec = .json ∨ member.codec.Undoes published) → system.storage.holds = [] →
    Cursors.bound member.group (Namings.usual.cursorRows topic ready.2.committed) = .int 0 →
    ready.1 = .ok () ∧ ∃ count, HandsOver published
      (member.drain .usual topic handler (count + 1) sizes state ready.2).1 := by
  intro start system published ready readable closed unacknowledged
  have undoes : member.codec.Undoes published := by
    rcases readable with json | undoes
    · rw [json]
      exact Codec.json_undoes published
    · exact undoes
  obtain ⟨appendOnly, rows, -⟩ : Faithful .usual topic member.codec ([] ++ published) system :=
    (Faithful.start .usual topic member.codec era).run valid faithful
  have dedicated : System.Dedicated .usual topic system :=
    (System.Dedicated.start .usual topic clock).run valid events
  obtain ⟨done, ended, log, cursors, tables⟩ :=
    member.setUp_owned valid dedicated.everywhere.committed closed (usual_unreserved topic)
  have kept : log = Namings.usual.log topic system.storage.committed :=
    (Database.logOf_eq tables.messages).symm.trans
      (member.setUp_log valid appendOnly.appending.tracks.consistent)
  have ordered : log.Ordered := kept ▸ appendOnly.appending.logged.ordered
  have bounded : Cursors.bound member.group cursors = .int 0 := by
    rw [← Database.cursorsOf_eq tables.cursors]
    exact unacknowledged
  refine ⟨done, ?_⟩
  apply Member.hands_over valid accepts small ⟨ended, ordered.toArranged, tables, bounded⟩ _ undoes
  rw [Log.pending_zero ordered, kept]
  exact rows

/-- Two batches with messages that are easily lost, and a poll that was dropped between them. -/
def oddMessages : List Event :=
  let member : Member := { settings := { group := "audit" } }
  let metadata := Metadata.ofList [("", "a\"b\\c\x0d"), ("\u2028", "\x00😀")]
  [.publish .json {} [] [{ uuid := "" }, { uuid := "a\x00b\"", payload := [0, 255], metadata }],
    .setUp member, .begin member, .advance 3 .accepted, .drop 3,
    .publish .json {} ["orders"] [{ uuid := "", payload := [10] }]]

theorem delivers_what_was_published_oddly :
    let member : Member := { settings := { group := "billing" } }
    let start : System := { storage := { clock := newYear } }
    let system := System.run .usual "orders" oddMessages start
    let published := System.published .usual "orders" oddMessages start
    let ready := (member.subscriber .usual).setUp "orders" system.storage
    published.map (fun message => message.uuid) = ["", "a\x00b\"", ""] ∧ ready.1 = .ok () ∧
      ∃ count, HandsOver published
        (member.drain .usual "orders" acceptAll (count + 1) twoAndThree () ready.2).1 := by
  intro member start system published ready
  have faithful : ∀ event ∈ oddMessages, event.IsFaithful Codec.json := by
    simp [oddMessages, Event.IsFaithful]
  have accepts (delivery : Delivery) (state : Unit) :
      (acceptAll delivery state).1 = some .accepted := rfl
  have small (place : Nat) : (twoAndThree place).effective ≤ Value.greatestInteger := by
    unfold twoAndThree
    split <;> decide
  refine ⟨by decide +kernel, ?_⟩
  exact delivers_what_was_published member () (by decide) (by decide) faithful accepts
    small (.inl rfl) (by decide +kernel) (by decide +kernel)

end TopicLog
