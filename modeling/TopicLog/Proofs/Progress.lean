import TopicLog.Proofs.Layouts
import TopicLog.Proofs.TopicState

/-!
How far a poll of the usual layouts has come. Each stage says which step is next, what the transaction
holds, and what it did so far; a poll that has marked a row holds the write lock, and its view is the
committed database with its own bound moved to the last row it acknowledged.
-/
namespace TopicLog

namespace Member

variable (member : Member) (namings : Namings) (topic : String)

def group : String := member.settings.group

def effectiveBatchSize : Nat :=
  if member.batchSize = 0 then defaultBatchSize else member.batchSize

def decode (row : LogRow) : Except Failure Delivery :=
  (Row.ofColumns (Log.columns row)).delivery member.codec

def fetch : Statement :=
  ⟨.sqlite, .fetch (namings.messageTable topic) (namings.claim topic member.group)
    member.effectiveBatchSize⟩

def mark (offset : Int) : Statement :=
  ⟨.sqlite, .markConsumed (namings.cursorTable topic) member.group offset⟩

def acknowledge (offset : Int) : Statement :=
  ⟨.sqlite, .acknowledge (namings.cursorTable topic) member.group offset⟩

def batch (database : Database) : List LogRow :=
  (namings.log topic database).after (.int (namings.acked topic database member.group))
    member.effectiveBatchSize

/-! The script of a poll from each of its stages on. -/

def delivering (rows : List LogRow) (count : Nat) : Script (Except Failure Nat) :=
  (member.subscriber namings).deliver topic (rows.map Log.columns) count

def fetching : Script (Except Failure Nat) :=
  .statement (member.fetch namings topic) fun fetched =>
    (member.subscriber namings).deliver topic fetched.rows 0

def claiming : Script (Except Failure Nat) :=
  .statement (namings.claim topic member.group).statement fun claimed =>
    .require (Script.scalar claimed) fun _ => member.fetching namings topic

def acknowledging (delivery : Delivery) (rest : List LogRow) (count : Nat) :
    Script (Except Failure Nat) :=
  .statement (member.acknowledge namings topic delivery.offset) fun _ =>
    member.delivering namings topic rest (count + 1)

def judging (delivery : Delivery) (rest : List LogRow) (count : Nat) :
    Verdict → Script (Except Failure Nat)
  | .refused text => .rollback (.done (.error (.handler delivery.offset (.other text))))
  | .accepted => member.acknowledging namings topic delivery rest count

variable {member namings topic}

theorem pollScript_valid (valid : isTopic topic = true) :
    (member.subscriber namings).pollScript? topic = .ok (member.claiming namings topic) := by
  have claims := namings.cursors_claim topic member.group
  have fetches := namings.layout_fetch topic member.group member.batchSize member.codec
  rw [ofTopic_valid valid] at claims fetches
  change (do
    let claim ← namings.cursorLayout.claim topic member.group
    let fetch ← (namings.layout member.batchSize member.codec).fetch topic member.group
      namings.cursorLayout
    return (member.subscriber namings).pollScript topic claim.statement fetch) = _
  rw [claims, fetches]
  rfl

theorem delivering_undecodable {row : LogRow} {failure : Failure}
    (undecodable : member.decode row = .error failure) (rest : List LogRow) (count : Nat) :
    member.delivering namings topic (row :: rest) count = .commit (.done (.error failure)) := by
  have decoded : (member.subscriber namings).layout.decode (.ofColumns (Log.columns row)) =
      .error failure := undecodable
  simp only [delivering, List.map_cons, Subscriber.deliver, decoded]

theorem delivering_decoded (valid : isTopic topic = true) {row : LogRow} {delivery : Delivery}
    (decodes : member.decode row = .ok delivery) (rest : List LogRow) (count : Nat) :
    member.delivering namings topic (row :: rest) count =
      .statement (member.mark namings topic delivery.offset) fun _ =>
        .hand delivery (member.judging namings topic delivery rest count) := by
  have decoded : (member.subscriber namings).layout.decode (.ofColumns (Log.columns row)) =
      .ok delivery := decodes
  have marks : (member.subscriber namings).cursors.markConsumed topic delivery
      (member.subscriber namings).group = .ok (member.mark namings topic delivery.offset) :=
    (namings.cursors_mark topic member.group delivery).trans (ofTopic_valid valid _)
  have acknowledges : (member.subscriber namings).cursors.acknowledge topic delivery
      (member.subscriber namings).group =
        .ok (member.acknowledge namings topic delivery.offset) :=
    (namings.cursors_acknowledge topic member.group delivery).trans (ofTopic_valid valid _)
  simp only [delivering, List.map_cons, Subscriber.deliver, decoded, marks, acknowledges,
    Script.require]
  congr 1

theorem delivering_cases (member : Member) (namings : Namings) (valid : isTopic topic = true)
    (rows : List LogRow) (count : Nat) :
    (∃ result, member.delivering namings topic rows count = .commit (.done result)) ∨
      ∃ row rest delivery, rows = row :: rest ∧ member.decode row = .ok delivery ∧
        member.delivering namings topic rows count =
          .statement (member.mark namings topic delivery.offset) fun _ =>
            .hand delivery (member.judging namings topic delivery rest count) := by
  cases rows with
  | nil => exact .inl ⟨_, rfl⟩
  | cons row rest =>
      cases decodes : member.decode row with
      | error failure => exact .inl ⟨_, delivering_undecodable decodes rest count⟩
      | ok delivery =>
          exact .inr ⟨row, rest, delivery, rfl, decodes,
            delivering_decoded valid decodes rest count⟩

theorem decode_offset {row : LogRow} {delivery : Delivery}
    (decodes : member.decode row = .ok delivery) : delivery.offset = row.offset := by
  have first : (Row.ofColumns (Log.columns row)).int 0 = .ok row.offset := rfl
  simp only [decode, Row.delivery, first, bind, Except.bind] at decodes
  repeat' split at decodes
  all_goals cases decodes
  rfl

end Member

namespace Journal

structure Calm (journal : Journal) : Prop where
  marked : journal.marked = []
  handed : journal.handed = []
  acknowledged : journal.acknowledged = []

theorem calm_append {before after : Journal} (calm : before.Calm) (quiet : after.Calm) :
    (before ++ after : Journal).Calm where
  marked := by simp [calm.marked, quiet.marked]
  handed := by simp [calm.handed, quiet.handed]
  acknowledged := by simp [calm.acknowledged, quiet.acknowledged]

theorem calm_claim (claim : Claim) (answer : Except Fault Effect) :
    Calm [.executed (.run (.claim claim)) answer] := ⟨rfl, rfl, rfl⟩

theorem calm_fetch (table : String) (claim : Claim) (limit : Nat) (answer : Except Fault Effect) :
    Calm [.executed (.run (.fetch table claim limit)) answer] := ⟨rfl, rfl, rfl⟩

theorem calm_fault (command : Command) (fault : Fault) : Calm [.executed command (.error fault)] where
  marked := by
    cases command with
    | run action => cases action <;> rfl
    | _ => rfl
  handed := rfl
  acknowledged := by
    cases command with
    | run action => cases action <;> rfl
    | _ => rfl

end Journal

/-! What the statements of a row add to the journal. -/

section Entries

variable (member : Member) (namings : Namings) (topic : String) (offset : Int) (effect : Effect)

@[simp]
theorem acknowledged_mark : Journal.acknowledged
    [.executed (.run (member.mark namings topic offset).action) (.ok effect)] = [] := rfl

@[simp]
theorem acknowledged_acknowledge : Journal.acknowledged
    [.executed (.run (member.acknowledge namings topic offset).action) (.ok effect)] =
      [offset] := rfl

@[simp]
theorem acknowledged_handed (delivery : Delivery) (verdict : Option Verdict) :
    Journal.acknowledged [.handed delivery verdict] = [] := rfl

end Entries

/-- A poll in the middle of its batch, with the rows of it that are past. -/
structure Underway (namings : Namings) (topic : String) (member : Member)
    (committed view : Database) (journal : Journal) (past rest : List LogRow) : Prop where
  advanced : namings.Advanced topic committed view member.group
    (Log.reached (namings.acked topic committed member.group) past)
  batch : member.batch namings topic committed = past ++ rest
  acknowledged : journal.acknowledged = past.map LogRow.offset
  handed : journal.handed.map (fun (delivery, verdict) => (Except.ok delivery, verdict)) =
    past.map fun row => (member.decode row, some Verdict.accepted)

/-- The stages of a poll, by what its transaction holds. -/
inductive Stage (namings : Namings) (topic : String) (committed : Database) :
    Option Hold → Poll → Prop where
  | claiming {poll : Poll} (script : poll.script = poll.member.claiming namings topic)
      (calm : poll.journal = []) : Stage namings topic committed (some .idle) poll
  | fetching {poll : Poll} {view : Database} {version : Nat}
      (script : poll.script = poll.member.fetching namings topic) (calm : poll.journal.Calm)
      (sound : namings.Sound topic view) :
      Stage namings topic committed (some (.reading view version)) poll
  | fetched {poll : Poll} {view : Database} {version : Nat} {rows : List LogRow}
      (script : poll.script = poll.member.delivering namings topic rows 0)
      (calm : poll.journal.Calm) (sound : namings.Sound topic view)
      (batch : poll.member.batch namings topic view = rows) :
      Stage namings topic committed (some (.reading view version)) poll
  | handing {poll : Poll} {view : Database} {changed : Bool} {past rest : List LogRow}
      {row : LogRow} {delivery : Delivery} {count : Nat}
      (script : poll.script =
        .hand delivery (poll.member.judging namings topic delivery rest count))
      (decodes : poll.member.decode row = .ok delivery)
      (underway : Underway namings topic poll.member committed view poll.journal past (row :: rest)) :
      Stage namings topic committed (some (.writing view changed)) poll
  | accepted {poll : Poll} {view : Database} {changed : Bool} {past rest : List LogRow}
      {row : LogRow} {delivery : Delivery} {count : Nat} {before : Journal}
      (script : poll.script = poll.member.acknowledging namings topic delivery rest count)
      (decodes : poll.member.decode row = .ok delivery)
      (underway : Underway namings topic poll.member committed view before past (row :: rest))
      (handed : poll.journal = before ++ [.handed delivery (some .accepted)]) :
      Stage namings topic committed (some (.writing view changed)) poll
  | delivering {poll : Poll} {view : Database} {past rest : List LogRow} {count : Nat}
      (script : poll.script = poll.member.delivering namings topic rest count)
      (underway : Underway namings topic poll.member committed view poll.journal past rest) :
      Stage namings topic committed (some (.writing view true)) poll
  | leaving {poll : Poll} {hold : Hold} {result : Except Failure Nat}
      (script : poll.script = .rollback (.done result))
      (calm : Storage.isWriting hold = false → poll.journal.Calm) :
      Stage namings topic committed (some hold) poll
  | ended {poll : Poll} {result : Except Failure Nat} (script : poll.script = .done result) :
      Stage namings topic committed none poll

section Steps

variable {namings : Namings} {topic : String} {poll : Poll} {storage : Storage} {handle : Handle}
  {hold : Hold} {verdict : Verdict}

/-- A poll whose next step is a statement. Whatever fault the statement meets, the poll leaves next, and
has the write lock if it had it before. -/
theorem after_statement (goal : Option Hold → Poll → Prop) {statement : Statement}
    {next : Effect → Script (Except Failure Nat)}
    (held : storage.held? handle = some hold) (unprimed : storage.Unprimed handle)
    (plain : (Command.run statement.action).makes = false)
    (script : poll.script = .statement statement next)
    (failed : ∀ fault kept, (Storage.isWriting kept = false → Storage.isWriting hold = false) →
      goal (some kept)
        { poll with
          script := .rollback (.done (.error (.ofFault fault)))
          journal := poll.journal ++ [.executed (.run statement.action) (.error fault)] })
    (read : ∀ plan effect,
      (storage.view handle).plan storage.clock (.run statement.action) = .ok plan →
      plan.outcome = .ok effect → plan.writes = false →
      goal (some (storage.holdAfterRead handle))
        { poll with
          script := next effect
          journal := poll.journal ++ [.executed (.run statement.action) (.ok effect)] })
    (wrote : ∀ plan effect,
      (storage.view handle).plan storage.clock (.run statement.action) = .ok plan →
      plan.outcome = .ok effect → plan.writes = true → storage.isOutdated handle = false →
      goal (some (storage.holdAfterWrite handle effect))
        { poll with
          script := next effect
          journal := poll.journal ++ [.executed (.run statement.action) (.ok effect)] }) :
    goal ((poll.script.advance handle verdict storage).storage.held? handle)
      (poll.after (poll.script.advance handle verdict storage)) := by
  simp only [script, Script.statement, Script.advance]
  rcases Storage.execute_held held unprimed plain with
    ⟨fault, faulty, after⟩ | ⟨plan, planned, answer, ⟨writes, after⟩ | ⟨writes, current, after⟩⟩
  · rw [faulty, after]
    exact failed fault hold id
  · cases outcome : plan.outcome with
    | error fault =>
        rw [answer, outcome, after]
        apply failed fault _
        intro reading
        have own := Storage.hold_of_held held
        cases hold with
        | writing view changed => simp [Storage.holdAfterRead, own, Storage.isWriting] at reading
        | _ => rfl
    | ok effect =>
        rw [answer, outcome, after]
        exact read plan effect planned outcome writes
  · cases outcome : plan.outcome with
    | error fault =>
        rw [answer, outcome, after]
        apply failed fault _
        intro reading
        unfold Storage.holdAfterWrite at reading
        split at reading <;> cases reading
    | ok effect =>
        have leaves : Storage.leaves (storage.view handle) plan = effect := by
          simp [Storage.leaves, outcome]
        rw [answer, outcome, after, leaves]
        exact wrote plan effect planned outcome writes current

theorem stage_statement {statement : Statement} {next : Effect → Script (Except Failure Nat)}
    (held : storage.held? handle = some hold) (unprimed : storage.Unprimed handle)
    (plain : (Command.run statement.action).makes = false)
    (script : poll.script = .statement statement next)
    (calm : Storage.isWriting hold = false → poll.journal.Calm)
    (read : ∀ plan effect,
      (storage.view handle).plan storage.clock (.run statement.action) = .ok plan →
      plan.outcome = .ok effect → plan.writes = false →
      Stage namings topic storage.committed (some (storage.holdAfterRead handle))
        { poll with
          script := next effect
          journal := poll.journal ++ [.executed (.run statement.action) (.ok effect)] })
    (wrote : ∀ plan effect,
      (storage.view handle).plan storage.clock (.run statement.action) = .ok plan →
      plan.outcome = .ok effect → plan.writes = true → storage.isOutdated handle = false →
      Stage namings topic storage.committed (some (storage.holdAfterWrite handle effect))
        { poll with
          script := next effect
          journal := poll.journal ++ [.executed (.run statement.action) (.ok effect)] }) :
    Stage namings topic (poll.script.advance handle verdict storage).storage.committed
      ((poll.script.advance handle verdict storage).storage.held? handle)
      (poll.after (poll.script.advance handle verdict storage)) := by
  have same : (poll.script.advance handle verdict storage).storage.committed =
      storage.committed := by
    rw [script]
    exact (storage.execute_frame handle (.run statement.action)).1
  rw [same]
  have failed : ∀ fault kept,
      (Storage.isWriting kept = false → Storage.isWriting hold = false) →
        Stage namings topic storage.committed (some kept)
          ⟨poll.member, .rollback (.done (.error (.ofFault fault))),
            poll.journal ++ [.executed (.run statement.action) (.error fault)]⟩ := by
    intro fault kept locks
    exact .leaving rfl fun reading =>
      Journal.calm_append (calm (locks reading)) (Journal.calm_fault _ fault)
  exact after_statement (Stage namings topic storage.committed) held unprimed plain script failed
    read wrote

theorem stage_claiming (sound : namings.Sound topic storage.committed)
    (held : storage.held? handle = some .idle) (unprimed : storage.Unprimed handle)
    (script : poll.script = poll.member.claiming namings topic) (calm : poll.journal = []) :
    Stage namings topic (poll.script.advance handle verdict storage).storage.committed
      ((poll.script.advance handle verdict storage).storage.held? handle)
      (poll.after (poll.script.advance handle verdict storage)) := by
  have own := Storage.hold_of_held held
  have view : storage.view handle = storage.committed := by rw [Storage.view, own]
  have blank : poll.journal.Calm := calm ▸ ⟨rfl, rfl, rfl⟩
  have reads : ∀ plan effect,
      (storage.view handle).plan storage.clock
        (.run (namings.claim topic poll.member.group).statement.action) = .ok plan →
      plan.outcome = .ok effect → plan.writes = false ∧ effect =
        { after := storage.committed
          rows := [[.int (namings.acked topic storage.committed poll.member.group)]] } := by
    intro plan effect planned outcome
    rw [view] at planned
    rcases Namings.plan_claim poll.member.group sound storage.clock with
      ⟨fault, failed⟩ | read
    · cases failed.symm.trans planned
    · cases read.symm.trans planned
      exact ⟨rfl, (Except.ok.inj outcome).symm⟩
  apply stage_statement held unprimed rfl script (fun _ => blank)
  · intro plan effect planned outcome _
    have snapshot : storage.holdAfterRead handle = .reading storage.committed storage.version := by
      rw [Storage.holdAfterRead, own]
    rw [snapshot, (reads plan effect planned outcome).2]
    exact .fetching rfl (Journal.calm_append blank (Journal.calm_claim _ _)) sound
  · intro plan effect planned outcome writes
    cases (reads plan effect planned outcome).1.symm.trans writes

theorem fetch_reads {member : Member} {view : Database} {plan : Plan} {effect : Effect}
    {now : Timestamp} (sound : namings.Sound topic view)
    (planned : view.plan now (.run (member.fetch namings topic).action) = .ok plan)
    (outcome : plan.outcome = .ok effect) :
    plan.writes = false ∧ effect.rows = (member.batch namings topic view).map Log.columns := by
  rcases Namings.plan_fetch member.group sound now member.effectiveBatchSize with
    ⟨fault, failed⟩ | ⟨fetch, fetches, reads, rows⟩
  · cases failed.symm.trans planned
  · cases fetches.symm.trans planned
    rcases rows with ⟨fault, failed⟩ | read
    · cases failed.symm.trans outcome
    · cases read.symm.trans outcome
      exact ⟨reads, rfl⟩

theorem stage_fetching {view : Database} {version : Nat}
    (held : storage.held? handle = some (.reading view version))
    (unprimed : storage.Unprimed handle)
    (script : poll.script = poll.member.fetching namings topic) (calm : poll.journal.Calm)
    (sound : namings.Sound topic view) :
    Stage namings topic (poll.script.advance handle verdict storage).storage.committed
      ((poll.script.advance handle verdict storage).storage.held? handle)
      (poll.after (poll.script.advance handle verdict storage)) := by
  have own := Storage.hold_of_held held
  have sees : storage.view handle = view := by rw [Storage.view, own]
  have snapshot : storage.holdAfterRead handle = .reading view version := by
    rw [Storage.holdAfterRead, own]
  apply stage_statement held unprimed rfl script (fun _ => calm)
  · intro plan effect planned outcome _
    rw [sees] at planned
    rw [snapshot, (fetch_reads sound planned outcome).2]
    exact .fetched rfl (Journal.calm_append calm (Journal.calm_fetch _ _ _ _)) sound rfl
  · intro plan effect planned outcome writes
    rw [sees] at planned
    cases (fetch_reads sound planned outcome).1.symm.trans writes

theorem stage_committed {result : Except Failure Nat}
    (script : poll.script = .commit (.done result)) :
    Stage namings topic (poll.script.advance handle verdict storage).storage.committed
      ((poll.script.advance handle verdict storage).storage.held? handle)
      (poll.after (poll.script.advance handle verdict storage)) := by
  have ended := storage.held_commit_self handle
  simp only [script, Script.advance, ended]
  exact .ended rfl

theorem mark_writes {member : Member} {view : Database} {plan : Plan} {effect : Effect}
    {now : Timestamp} {offset : Int} (valid : isTopic topic = true)
    (sound : namings.Sound topic view)
    (planned : view.plan now (.run (member.mark namings topic offset).action) = .ok plan)
    (outcome : plan.outcome = .ok effect) :
    plan.writes = true ∧ namings.Advanced topic view effect.after member.group
      (namings.acked topic view member.group) := by
  rcases Namings.plan_mark member.group valid sound now offset with
    ⟨fault, failed⟩ | ⟨after, changed, marked, advanced⟩
  · cases failed.symm.trans planned
  · cases marked.symm.trans planned
    cases outcome
    exact ⟨rfl, advanced⟩

theorem stage_delivering {view : Database} (past : List LogRow) {rest : List LogRow} {count : Nat}
    (valid : isTopic topic = true) (held : storage.held? handle = some hold)
    (unprimed : storage.Unprimed handle) (sees : storage.view handle = view)
    (script : poll.script = poll.member.delivering namings topic rest count)
    (calm : Storage.isWriting hold = false → poll.journal.Calm)
    (sound : namings.Sound topic view)
    (underway : storage.isOutdated handle = false →
      Underway namings topic poll.member storage.committed view poll.journal past rest) :
    Stage namings topic (poll.script.advance handle verdict storage).storage.committed
      ((poll.script.advance handle verdict storage).storage.held? handle)
      (poll.after (poll.script.advance handle verdict storage)) := by
  rcases poll.member.delivering_cases namings valid rest count with
    ⟨result, commits⟩ | ⟨row, rest, delivery, rfl, decodes, statement⟩
  · exact stage_committed (script.trans commits)
  · apply stage_statement held unprimed rfl (script.trans statement) calm
    · intro plan effect planned outcome reads
      rw [sees] at planned
      cases (mark_writes valid sound planned outcome).1.symm.trans reads
    · intro plan effect planned outcome _ current
      obtain ⟨changed, writing, -⟩ := Storage.holdAfterWrite_writing storage handle effect
      have before := underway current
      rw [sees] at planned
      have moved := (mark_writes valid sound planned outcome).2
      rw [before.advanced.own] at moved
      rw [writing]
      exact .handing rfl decodes ⟨before.advanced.trans moved, before.batch,
        by simpa using before.acknowledged, by simpa using before.handed⟩

theorem stage_accepted {view : Database} {changed : Bool} {past rest : List LogRow} {row : LogRow}
    {delivery : Delivery} {count : Nat} {before : Journal}
    (valid : isTopic topic = true) (sound : namings.Sound topic storage.committed)
    (held : storage.held? handle = some (.writing view changed))
    (unprimed : storage.Unprimed handle)
    (script : poll.script = poll.member.acknowledging namings topic delivery rest count)
    (decodes : poll.member.decode row = .ok delivery)
    (underway : Underway namings topic poll.member storage.committed view before past (row :: rest))
    (handed : poll.journal = before ++ [.handed delivery (some .accepted)]) :
    Stage namings topic (poll.script.advance handle verdict storage).storage.committed
      ((poll.script.advance handle verdict storage).storage.held? handle)
      (poll.after (poll.script.advance handle verdict storage)) := by
  have own := Storage.hold_of_held held
  have sees : storage.view handle = view := by rw [Storage.view, own]
  have inBatch : row ∈ poll.member.batch namings topic storage.committed := by
    rw [underway.batch]
    simp
  obtain ⟨inLog, above⟩ := Log.batch_above inBatch
  have offset := Member.decode_offset decodes
  have acknowledges : ∀ plan effect,
      (storage.view handle).plan storage.clock
        (.run (poll.member.acknowledge namings topic delivery.offset).action) = .ok plan →
      plan.outcome = .ok effect → plan.writes = true ∧ effect.changed = true ∧
        namings.Advanced topic view effect.after poll.member.group row.offset := by
    intro plan effect planned outcome
    rw [sees, offset] at planned
    have used : row.offset ≤ (namings.log topic view).last := by
      rw [underway.advanced.log]
      exact sound.ordered.used row inLog
    have positive := sound.ordered.positive row inLog
    -- The offset is one that was used, and lies above the bound, so the bound moves.
    rcases Namings.plan_acknowledge poll.member.group valid underway.advanced.sound
        storage.clock (Int.le_of_lt positive) used with
      ⟨fault, failed⟩ | ⟨after, changes, acknowledged, advanced, moves⟩
    · cases failed.symm.trans planned
    · cases acknowledged.symm.trans planned
      cases outcome
      refine ⟨rfl, moves ?_, advanced⟩
      have below := Log.reached_lt sound.ordered.ascending underway.batch
      rw [underway.advanced.own]
      omega
  have writes : Storage.isWriting (.writing view changed) = false → poll.journal.Calm := by
    rintro ⟨⟩
  apply stage_statement held unprimed rfl script writes
  · intro plan effect planned outcome reads
    cases (acknowledges plan effect planned outcome).1.symm.trans reads
  · intro plan effect planned outcome _ _
    obtain ⟨-, changes, moved⟩ := acknowledges plan effect planned outcome
    obtain ⟨isChanged, writing, grows⟩ := Storage.holdAfterWrite_writing storage handle effect
    rw [writing, grows changes]
    have beyond : Underway namings topic poll.member storage.committed effect.after
        (poll.journal ++ [.executed
          (.run (poll.member.acknowledge namings topic delivery.offset).action) (.ok effect)])
        (past ++ [row]) rest := by
      constructor
      · rw [Log.reached_snoc]
        exact underway.advanced.trans moved
      · simpa using underway.batch
      · rw [handed, Journal.acknowledged_append, Journal.acknowledged_append,
          underway.acknowledged, acknowledged_handed, acknowledged_acknowledge]
        simp [offset]
      · rw [handed, Journal.handed_append, Journal.handed_append, Journal.handed_cons_handed,
          Journal.handed_cons_executed, Journal.handed_nil]
        simp [underway.handed, decodes]
    exact .delivering rfl beyond

theorem Stage.advance (valid : isTopic topic = true) (consistent : storage.Consistent)
    (sound : namings.Sound topic storage.committed) (unprimed : storage.Unprimed handle)
    (stage : Stage namings topic storage.committed (storage.held? handle) poll)
    (verdict : Verdict) :
    Stage namings topic (poll.script.advance handle verdict storage).storage.committed
      ((poll.script.advance handle verdict storage).storage.held? handle)
      (poll.after (poll.script.advance handle verdict storage)) := by
  generalize own : storage.held? handle = held at stage
  cases stage with
  | claiming script calm => exact stage_claiming sound own unprimed script calm
  | fetching script calm viewSound => exact stage_fetching own unprimed script calm viewSound
  | @fetched _ view version rows script calm viewSound batch =>
      have sees : storage.view handle = view := by
        rw [Storage.view, Storage.hold_of_held own]
      apply stage_delivering [] valid own unprimed sees script (fun _ => calm) viewSound
      intro current
      -- If it may write at all, then what it fetched is the batch of the committed database.
      have same := Storage.view_current consistent own current
      subst same
      exact ⟨viewSound.advanced, batch, calm.acknowledged, by simp [calm.handed]⟩
  | @handing _ view changed past rest row delivery count script decodes underway =>
      rw [script]
      simp only [Script.advance, own]
      cases verdict with
      | refused text =>
          apply Stage.leaving rfl
          rintro ⟨⟩
      | accepted => exact .accepted rfl decodes underway rfl
  | accepted script decodes underway handed =>
      exact stage_accepted valid sound own unprimed script decodes underway handed
  | @delivering _ view past rest count script underway =>
      have sees : storage.view handle = view := by
        rw [Storage.view, Storage.hold_of_held own]
      apply stage_delivering past valid own unprimed sees script _ underway.advanced.sound
      · exact fun _ => underway
      · rintro ⟨⟩
  | @leaving _ hold result script calm =>
      have ended := storage.held_rollback_self handle
      simp only [script, Script.advance, ended]
      exact .ended rfl
  | @ended _ result script =>
      simp only [script, Script.advance, own]
      exact .ended rfl

end Steps

section Stages

variable {namings : Namings} {topic : String} {committed : Database} {held : Option Hold}
  {poll : Poll}

/-- A poll without the write lock does not care what is committed meanwhile. -/
theorem Stage.elsewhere {other : Database} (stage : Stage namings topic committed held poll)
    (reading : ∀ view changed, held ≠ some (.writing view changed)) :
    Stage namings topic other held poll := by
  cases stage with
  | claiming script calm => exact .claiming script calm
  | fetching script calm sound => exact .fetching script calm sound
  | fetched script calm sound batch => exact .fetched script calm sound batch
  | handing | accepted | delivering => exact absurd rfl (reading _ _)
  | leaving script calm => exact .leaving script calm
  | ended script => exact .ended script

theorem Stage.marked {hold : Hold} (stage : Stage namings topic committed (some hold) poll)
    (active : Storage.isWriting hold = false) : poll.journal.Calm := by
  cases stage with
  | claiming script calm => exact calm ▸ ⟨rfl, rfl, rfl⟩
  | fetching script calm sound => exact calm
  | fetched script calm sound batch => exact calm
  | handing | accepted | delivering => cases active
  | leaving script calm => exact calm active

theorem Stage.handing_of_hand {delivery : Delivery} {next : Verdict → Script (Except Failure Nat)}
    (valid : isTopic topic = true) (stage : Stage namings topic committed held poll)
    (script : poll.script = .hand delivery next) :
    ∃ view changed past rest row, held = some (.writing view changed) ∧
      poll.member.decode row = .ok delivery ∧
      Underway namings topic poll.member committed view poll.journal past (row :: rest) := by
  cases stage with
  | handing own decodes underway =>
      cases own.symm.trans script
      exact ⟨_, _, _, _, _, rfl, decodes, underway⟩
  | fetched own | delivering own =>
      rcases poll.member.delivering_cases namings valid _ _ with
        ⟨result, commits⟩ | ⟨row, rest, delivery, -, -, statement⟩
      · cases commits.symm.trans (own.symm.trans script)
      · cases statement.symm.trans (own.symm.trans script)
  | claiming own | fetching own | accepted own | leaving own | ended own =>
      cases own.symm.trans script

theorem Stage.plain {command : Command}
    {next : Except Fault Effect → Script (Except Failure Nat)} (valid : isTopic topic = true)
    (stage : Stage namings topic committed held poll)
    (script : poll.script = .execute command next) : command.makes = false := by
  cases stage with
  | claiming own | fetching own | accepted own =>
      cases own.symm.trans script
      rfl
  | fetched own | delivering own =>
      rcases poll.member.delivering_cases namings valid _ _ with
        ⟨result, commits⟩ | ⟨row, rest, delivery, -, -, statement⟩
      · cases commits.symm.trans (own.symm.trans script)
      · cases statement.symm.trans (own.symm.trans script)
        rfl
  | handing own | leaving own | ended own => cases own.symm.trans script

theorem Stage.committing {next : Script (Except Failure Nat)}
    (stage : Stage namings topic committed held poll) (script : poll.script = .commit next) :
    (∃ view version, held = some (.reading view version) ∧ poll.journal.Calm) ∨
      ∃ view past rest, held = some (.writing view true) ∧
        Underway namings topic poll.member committed view poll.journal past rest := by
  cases stage with
  | fetched own calm => exact .inl ⟨_, _, rfl, calm⟩
  | delivering own underway => exact .inr ⟨_, _, _, rfl, underway⟩
  | claiming own | fetching own | handing own | accepted own | leaving own | ended own =>
      cases own.symm.trans script

end Stages

end TopicLog
