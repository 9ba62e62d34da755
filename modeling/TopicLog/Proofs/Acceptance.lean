import TopicLog.Proofs.Alone
import TopicLog.Proofs.Progress

/-!
A poll whose handler accepts everything, with no other transaction open. It delivers its batch up to the
first row that cannot be decoded, and moves the bound to the last row that it delivered.
-/
namespace TopicLog

namespace Member

def decodes (member : Member) (row : LogRow) : Bool := (member.decode row).isOk

def decodable (member : Member) (rows : List LogRow) : List LogRow := rows.takeWhile member.decodes

def deliveries (member : Member) (rows : List LogRow) : List Delivery :=
  (member.decodable rows).filterMap fun row => (member.decode row).toOption

/-- How a poll ends that acknowledged some messages and has these rows left. -/
def ending (member : Member) (count : Nat) : List LogRow → Except Failure Nat
  | [] => .ok count
  | row :: rest =>
      match member.decode row with
      | .ok _ => member.ending (count + 1) rest
      | .error failure => .error failure

variable {member : Member} {row : LogRow} {rest : List LogRow} {delivery : Delivery}
  {failure : Failure} {count : Nat}

theorem decodes_iff : member.decodes row = true ↔ ∃ delivery, member.decode row = .ok delivery := by
  cases decoded : member.decode row with
  | error failure => simp [decodes, decoded, Except.isOk, Except.toBool]
  | ok delivery => simp [decodes, decoded, Except.isOk, Except.toBool]

theorem decodable_decoded (decoded : member.decode row = .ok delivery) :
    member.decodable (row :: rest) = row :: member.decodable rest := by
  have passes : member.decodes row = true := by
    rw [decodes, decoded]
    rfl
  exact List.takeWhile_cons_of_pos passes

theorem decodable_undecodable (undecodable : member.decode row = .error failure) :
    member.decodable (row :: rest) = [] := by
  have fails : ¬ member.decodes row = true := by
    rw [decodes, undecodable]
    exact Bool.false_ne_true
  exact List.takeWhile_cons_of_neg fails

theorem deliveries_decoded (decoded : member.decode row = .ok delivery) :
    member.deliveries (row :: rest) = delivery :: member.deliveries rest := by
  rw [deliveries, decodable_decoded decoded, List.filterMap_cons, decoded]
  rfl

theorem deliveries_undecodable (undecodable : member.decode row = .error failure) :
    member.deliveries (row :: rest) = [] := by
  rw [deliveries, decodable_undecodable undecodable]
  rfl

theorem deliveries_decode (rows : List LogRow) :
    (member.deliveries rows).map Except.ok = (member.decodable rows).map member.decode := by
  induction rows with
  | nil => rfl
  | cons row rest ih =>
      cases decoded : member.decode row with
      | error failure =>
          rw [deliveries_undecodable decoded, decodable_undecodable decoded]
          rfl
      | ok delivery =>
          rw [deliveries_decoded decoded, decodable_decoded decoded, List.map_cons, List.map_cons,
            decoded, ih]

theorem ending_decoded (decoded : member.decode row = .ok delivery) :
    member.ending count (row :: rest) = member.ending (count + 1) rest := by
  simp only [ending, decoded]

theorem ending_undecodable (undecodable : member.decode row = .error failure) :
    member.ending count (row :: rest) = .error failure := by
  simp only [ending, undecodable]

theorem ending_of_all {rows : List LogRow} (all : member.decodable rows = rows) :
    member.ending count rows = .ok (count + rows.length) := by
  induction rows generalizing count with
  | nil => rfl
  | cons row rest ih =>
      cases decoded : member.decode row with
      | error failure => simp [decodable_undecodable decoded] at all
      | ok delivery =>
          rw [decodable_decoded decoded] at all
          rw [ending_decoded decoded, ih (List.cons.inj all).2, List.length_cons]
          congr 1
          omega

theorem ending_of_split (count : Nat) {rows : List LogRow}
    (split : rows = member.decodable rows ++ row :: rest) :
    ∃ failure, member.decode row = .error failure ∧ member.ending count rows = .error failure := by
  induction rows generalizing count with
  | nil => cases split
  | cons first others ih =>
      cases decoded : member.decode first with
      | error failure =>
          rw [decodable_undecodable decoded] at split
          cases split
          exact ⟨failure, decoded, ending_undecodable decoded⟩
      | ok delivery =>
          rw [decodable_decoded decoded] at split
          obtain ⟨failure, undecodable, ends⟩ := ih (count + 1) (List.cons.inj split).2
          exact ⟨failure, undecodable, (ending_decoded decoded).trans ends⟩

end Member

section Play

variable {σ : Type} {handler : Handler σ} {member : Member} {namings : Namings} {topic : String}
  {scene : Scene} {state : σ} {cursors : List CursorRow} {count : Nat}

def Played.following {α : Type} (played : Played α σ) (entries : Journal) : Played α σ :=
  { played with journal := entries ++ played.journal }

theorem play_statement {statement : Statement} {next : Effect → Script (Except Failure Nat)}
    {effect : Effect} {after : Scene}
    (ran : scene.execute (.run statement.action) = (.ok effect, after)) :
    (Script.statement statement next).play handler state scene =
      ((next effect).play handler state after).following
        [.executed (.run statement.action) (.ok effect)] := by
  simp only [Script.statement, Script.play, ran]
  rfl

theorem play_write (scene : Scene) {hold : Hold} {command : Command} {database : Database}
    {affected : Nat} {changed : Bool} (free : scene.locked = false) (current : scene.isOutdated = false)
    (held : scene.hold = some hold)
    (planned : scene.view.plan scene.clock command = .ok (.write database affected changed)) :
    ∃ wrote, scene.execute command = (.ok { after := database, affected, changed },
      { scene with hold := some (.writing database wrote) }) ∧ (changed = true → wrote = true) := by
  rw [Scene.execute_write free current planned]
  simp only [Scene.setHold, held, Option.map_some, Scene.afterWrite]
  split
  · exact ⟨_, rfl, by simp_all⟩
  · exact ⟨_, rfl, fun wrote => wrote⟩

def Scene.acknowledging (scene : Scene) (table group : String) (offset : Int)
    (cursors : List CursorRow) : Scene :=
  { scene with
    hold := some (.writing
      (scene.view.put table (.cursors (Cursors.acknowledge group offset cursors))) true) }

theorem Scene.acknowledging_known {table group : String} (offset : Int)
    (known : scene.view.contents? table = some (.cursors cursors)) :
    (scene.acknowledging table group offset cursors).view.contents? table =
      some (.cursors (Cursors.acknowledge group offset cursors)) :=
  Database.contents_put_held _ known

theorem bound_ne {group : String} {bound offset : Int}
    (bounded : Cursors.bound group cursors = .int bound) (above : bound < offset) :
    Cursors.bound group cursors ≠ .int offset := by
  rw [bounded]
  intro same
  cases same
  exact Int.lt_irrefl _ above

/-- One run does what another does, after it delivered one message. -/
structure Precedes (delivery : Delivery) (played later : Played (Except Failure Nat) σ) : Prop where
  result : played.result = later.result
  state : played.state = later.state
  scene : played.scene = later.scene
  journal : ∃ entries : Journal, played.journal = entries ++ later.journal ∧
    entries.handed = [(delivery, some .accepted)] ∧ entries.acknowledged = [delivery.offset] ∧
    entries.isCommitted = false

theorem Precedes.handed {delivery : Delivery} {played later : Played (Except Failure Nat) σ}
    (first : Precedes delivery played later) :
    played.journal.handed = (delivery, some .accepted) :: later.journal.handed := by
  obtain ⟨entries, journal, handed, -, -⟩ := first.journal
  rw [journal, Journal.handed_append, handed]
  rfl

theorem Precedes.acknowledged {delivery : Delivery} {played later : Played (Except Failure Nat) σ}
    (first : Precedes delivery played later) :
    played.journal.acknowledged = delivery.offset :: later.journal.acknowledged := by
  obtain ⟨entries, journal, -, acknowledged, -⟩ := first.journal
  rw [journal, Journal.acknowledged_append, acknowledged]
  rfl

theorem Precedes.ended {delivery : Delivery} {played later : Played (Except Failure Nat) σ}
    (first : Precedes delivery played later) :
    played.journal.isCommitted = later.journal.isCommitted := by
  obtain ⟨entries, journal, -, -, unended⟩ := first.journal
  rw [journal, Journal.isCommitted_append, unended, Bool.false_or]

theorem play_row (state : σ) (rest : List LogRow) (count : Nat) {hold : Hold} {row : LogRow}
    {delivery : Delivery} (valid : isTopic topic = true)
    (decoded : member.decode row = .ok delivery)
    (accepted : (handler delivery state).1 = some .accepted) (free : scene.locked = false)
    (current : scene.isOutdated = false) (held : scene.hold = some hold)
    (known : scene.view.contents? (namings.cursorTable topic) = some (.cursors cursors))
    (moves : Cursors.bound member.group cursors ≠ .int row.offset) :
    Precedes delivery
      ((member.delivering namings topic (row :: rest) count).play handler state scene)
      ((member.delivering namings topic rest (count + 1)).play handler (handler delivery state).2
        (scene.acknowledging (namings.cursorTable topic) member.group row.offset cursors)) := by
  have offset := Member.decode_offset decoded
  have marks : scene.view.plan scene.clock
      (.run (member.mark namings topic delivery.offset).action) = .ok _ :=
    Database.onCursors_of_cursors known
  obtain ⟨wrote, marked, -⟩ := play_write scene free current held marks
  have moved : (scene.view.put (namings.cursorTable topic)
      (.cursors (Cursors.mark member.group delivery.offset cursors))).contents?
        (namings.cursorTable topic) =
      some (.cursors (Cursors.mark member.group delivery.offset cursors)) :=
    Database.contents_put_held _ known
  have changes : Cursors.acknowledge member.group delivery.offset
      (Cursors.mark member.group delivery.offset cursors) ≠
        Cursors.mark member.group delivery.offset cursors := by
    apply Cursors.acknowledge_changes _
    rw [Cursors.bound_mark, offset]
    exact moves
  have acknowledges : (scene.view.put (namings.cursorTable topic)
      (.cursors (Cursors.mark member.group delivery.offset cursors))).onCursors
        (namings.cursorTable topic) "offset_consumed"
        (Cursors.acknowledge member.group delivery.offset) = .ok _ :=
    Database.onCursors_of_cursors moved
  -- The second write covers the first, so the mark is gone from what is left.
  rw [Database.put_put, decide_eq_true changes, Cursors.acknowledge_mark] at acknowledges
  let middle : Scene := { scene with hold := some (.writing (scene.view.put
    (namings.cursorTable topic) (.cursors (Cursors.mark member.group delivery.offset cursors)))
    wrote) }
  have acknowledged : middle.view.plan middle.clock
      (.run (member.acknowledge namings topic delivery.offset).action) = .ok _ := acknowledges
  obtain ⟨written, acknowledging, changed⟩ :=
    play_write middle free rfl rfl acknowledged
  have judged : handler delivery state = (some .accepted, (handler delivery state).2) :=
    Prod.ext accepted rfl
  rw [changed rfl] at acknowledging
  rw [Member.delivering_decoded valid decoded, play_statement marked]
  simp only [Script.play]
  rw [judged]
  simp only [Member.judging, Member.acknowledging]
  rw [play_statement acknowledging]
  simp only [Scene.acknowledging, offset]
  exact ⟨rfl, rfl, rfl, [_, _, _], rfl, rfl, congrArg (fun first => [first]) offset.symm, rfl⟩

/-- A run that delivers a batch up to the first row that cannot be decoded. -/
structure Plays (member : Member) (table : String) (handler : Handler σ) (rows : List LogRow)
    (count : Nat) (cursors : List CursorRow) (state : σ) (scene : Scene)
    (played : Played (Except Failure Nat) σ) : Prop where
  result : played.result = some (member.ending count rows)
  state : played.state =
    (member.deliveries rows).foldl (fun state delivery => (handler delivery state).2) state
  handed : played.journal.handed =
    (member.deliveries rows).map fun delivery => (delivery, some .accepted)
  acknowledged : played.journal.acknowledged = (member.decodable rows).map LogRow.offset
  ended : played.journal.isCommitted = true
  kept : member.decodable rows = [] → played.scene = scene.commit
  moved : ∀ last, (member.decodable rows).getLast? = some last → played.scene.committed =
    scene.view.put table (.cursors (Cursors.acknowledge member.group last.offset cursors))

theorem Plays.of_undecodable {row : LogRow} {rest : List LogRow} {failure : Failure}
    {table : String} (undecodable : member.decode row = .error failure) :
    Plays member table handler (row :: rest) count cursors state scene
      ((member.delivering namings topic (row :: rest) count).play handler state scene) := by
  have nothing : member.decodable (row :: rest) = [] := Member.decodable_undecodable undecodable
  rw [Member.delivering_undecodable undecodable]
  refine ⟨?_, ?_, ?_, ?_, rfl, fun _ => rfl, ?_⟩
  · rw [Member.ending_undecodable undecodable]
    rfl
  · rw [Member.deliveries_undecodable undecodable]
    rfl
  · rw [Member.deliveries_undecodable undecodable]
    rfl
  · rw [nothing]
    rfl
  · intro last found
    rw [nothing] at found
    cases found

theorem Plays.of_decoded {row : LogRow} {rest : List LogRow} {delivery : Delivery}
    {played later : Played (Except Failure Nat) σ} {table : String}
    (decoded : member.decode row = .ok delivery) (first : Precedes delivery played later)
    (plays : Plays member table handler rest (count + 1)
      (Cursors.acknowledge member.group row.offset cursors) (handler delivery state).2
      (scene.acknowledging table member.group row.offset cursors) later) :
    Plays member table handler (row :: rest) count cursors state scene played where
  result := by rw [first.result, plays.result, Member.ending_decoded decoded]
  state := by rw [first.state, plays.state, Member.deliveries_decoded decoded, List.foldl_cons]
  handed := by
    rw [first.handed, plays.handed, Member.deliveries_decoded decoded, List.map_cons]
  acknowledged := by
    rw [first.acknowledged, plays.acknowledged, Member.decodable_decoded decoded, List.map_cons,
      Member.decode_offset decoded]
  ended := first.ended.trans plays.ended
  kept none := by
    rw [Member.decodable_decoded decoded] at none
    cases none
  moved last found := by
    rw [Member.decodable_decoded decoded, List.getLast?_cons] at found
    rw [first.scene]
    cases more : (member.decodable rest).getLast? with
    | none =>
        rw [more] at found
        cases found
        rw [plays.kept (List.getLast?_eq_none_iff.mp more)]
        rfl
    | some final =>
        rw [more] at found
        cases found
        rw [plays.moved final more]
        simp only [Scene.acknowledging, Scene.view, Option.getD_some, Database.put_put,
          Cursors.acknowledge_acknowledge]

/-- A handler that accepts these deliveries as long as its state is good, which it then stays. -/
def Willing (handler : Handler σ) (good : σ → Prop) (deliveries : List Delivery) : Prop :=
  ∀ delivery ∈ deliveries, ∀ state, good state →
    (handler delivery state).1 = some .accepted ∧ good (handler delivery state).2

theorem Willing.foldl {good : σ → Prop} {deliveries : List Delivery}
    (willing : Willing handler good deliveries) (start : good state) :
    good (deliveries.foldl (fun state delivery => (handler delivery state).2) state) := by
  induction deliveries generalizing state with
  | nil => exact start
  | cons delivery rest ih =>
      apply ih
      · exact fun later member => willing later (List.mem_cons_of_mem delivery member)
      · exact (willing delivery List.mem_cons_self state start).2

theorem play_batch {hold : Hold} {rows : List LogRow} {bound : Int} {good : σ → Prop}
    (valid : isTopic topic = true) (willing : Willing handler good (member.deliveries rows))
    (start : good state) (free : scene.locked = false) (current : scene.isOutdated = false)
    (held : scene.hold = some hold)
    (known : scene.view.contents? (namings.cursorTable topic) = some (.cursors cursors))
    (bounded : Cursors.bound member.group cursors = .int bound)
    (above : ∀ row ∈ rows, bound < row.offset)
    (ascending : rows.Pairwise fun a b => a.offset < b.offset) :
    Plays member (namings.cursorTable topic) handler rows count cursors state scene
      ((member.delivering namings topic rows count).play handler state scene) := by
  -- Each row that is delivered moves the bound to its own offset, below all rows that are left.
  induction rows generalizing scene state cursors count hold bound with
  | nil =>
      refine ⟨rfl, rfl, rfl, rfl, rfl, fun _ => rfl, ?_⟩
      intro last found
      cases found
  | cons row rest ih =>
      cases decoded : member.decode row with
      | error failure => exact Plays.of_undecodable decoded
      | ok delivery =>
          obtain ⟨before, later⟩ := List.pairwise_cons.mp ascending
          have moves := bound_ne bounded (above row List.mem_cons_self)
          rw [Member.deliveries_decoded decoded] at willing
          obtain ⟨accepted, next⟩ := willing delivery List.mem_cons_self state start
          apply Plays.of_decoded decoded (play_row state rest count valid decoded accepted free current
            held known moves)
          exact ih (fun later member => willing later (List.mem_cons_of_mem delivery member)) next
            free rfl rfl (Scene.acknowledging_known row.offset known)
            (Cursors.bound_acknowledge _ _ _) before later

end Play

structure Namings.Tables (namings : Namings) (topic : String) (database : Database) (log : Log)
    (cursors : List CursorRow) : Prop where
  messages : database.contents? (namings.messageTable topic) = some (.log log)
  cursors : database.contents? (namings.cursorTable topic) = some (.cursors cursors)

def Storage.snapshot (storage : Storage) : Scene :=
  { storage.outset with hold := some (.reading storage.committed storage.version) }

theorem Storage.snapshot_unlocked {storage : Storage}
    (idle : ∀ entry ∈ storage.holds, Storage.isWriting entry.2 = false) :
    storage.snapshot.locked = false := by
  change storage.holds.any _ = false
  rw [List.any_eq_false]
  intro entry member
  exact Bool.eq_false_iff.mp (idle entry member)

theorem Storage.snapshot_free {storage : Storage} (alone : storage.holds = []) :
    storage.snapshot.locked = false := by
  apply snapshot_unlocked
  rw [alone]
  exact fun _ member => absurd member List.not_mem_nil

theorem Storage.snapshot_current (storage : Storage) : storage.snapshot.isOutdated = false := by
  simp [Scene.isOutdated, Storage.snapshot, Storage.outset]

def Subscriber.played {σ : Type} (subscriber : Subscriber) (topic : String) (handler : Handler σ)
    (state : σ) (storage : Storage) : Played (Except Failure Nat) σ where
  result := (subscriber.poll topic handler state storage).1
  state := (subscriber.poll topic handler state storage).2.1
  scene := (subscriber.poll topic handler state storage).2.2.scene storage.fresh
  journal := subscriber.journal topic handler state storage

structure Journal.Reading (entries : Journal) : Prop where
  handed : entries.handed = []
  acknowledged : entries.acknowledged = []
  unended : entries.isCommitted = false

section Poll

variable {σ : Type} {namings : Namings} {topic : String} {storage : Storage} {log : Log}
  {cursors : List CursorRow} {bound : Int}

theorem play_claim (handler : Handler σ) {member : Member} (state : σ)
    (tables : namings.Tables topic storage.committed log cursors)
    (bounded : Cursors.bound member.group cursors = .int bound) :
    (member.claiming namings topic).play handler state storage.outset =
      ((member.fetching namings topic).play handler state storage.snapshot).following
        [.executed (.run (namings.claim topic member.group).statement.action)
          (.ok { after := storage.committed, rows := [[.int bound]] })] := by
  have found : storage.committed.bound (namings.claim topic member.group) = .ok (.int bound) :=
    bounded ▸ Database.bound_of_cursors (namings.claim topic member.group) tables.cursors
  have claims : storage.outset.view.plan storage.outset.clock
      (.run (namings.claim topic member.group).statement.action) =
        .ok (.read storage.committed [[.int bound]]) := by
    change (storage.committed.bound (namings.claim topic member.group)).map _ = _
    rw [found]
    rfl
  have claimed : storage.outset.execute
      (.run (namings.claim topic member.group).statement.action) =
        (.ok { after := storage.committed, rows := [[.int bound]] }, storage.snapshot) :=
    Scene.execute_read claims
  exact play_statement claimed

theorem play_claiming (handler : Handler σ) {member : Member} (state : σ)
    (tables : namings.Tables topic storage.committed log cursors)
    (bounded : Cursors.bound member.group cursors = .int bound)
    (size : member.effectiveBatchSize ≤ Value.greatestInteger) :
    ∃ entries : Journal, entries.Reading ∧
      (member.claiming namings topic).play handler state storage.outset =
        ((member.delivering namings topic (log.after (.int bound) member.effectiveBatchSize) 0).play
          handler state storage.snapshot).following entries := by
  have fetches : storage.snapshot.view.plan storage.snapshot.clock
      (.run (member.fetch namings topic).action) =
        .ok (.read storage.committed
          ((log.after (.int bound) member.effectiveBatchSize).map Log.columns)) := by
    have found := Database.fetch_of_log (namings.claim topic member.group)
      member.effectiveBatchSize tables.messages tables.cursors
    rw [if_neg (Int.not_lt.mpr size)] at found
    rw [← bounded]
    exact found
  have fetched : storage.snapshot.execute (.run (member.fetch namings topic).action) =
      (.ok { after := storage.committed,
             rows := (log.after (.int bound) member.effectiveBatchSize).map Log.columns },
        storage.snapshot) := Scene.execute_read fetches
  have second : (member.fetching namings topic).play handler state storage.snapshot =
      ((member.delivering namings topic (log.after (.int bound) member.effectiveBatchSize) 0).play
        handler state storage.snapshot).following _ := play_statement fetched
  rw [play_claim handler state tables bounded, second]
  exact ⟨[_, _], ⟨rfl, rfl, rfl⟩, rfl⟩

theorem poll_claiming (handler : Handler σ) (member : Member) (state : σ)
    (valid : isTopic topic = true) (fresh : storage.Fresh) :
    (member.subscriber namings).played topic handler state storage =
      (member.claiming namings topic).play handler state storage.outset := by
  have built : (member.subscriber namings).pollScript? topic =
      .ok (member.claiming namings topic) := Member.pollScript_valid valid
  have ran := Script.run_play handler (member.claiming namings topic)
    (Subscriber.poll_runs (member.plain namings topic) built) state storage.beginIsolated.2
    (Storage.unprimed_begin storage)
  have scene : storage.beginIsolated.2.scene storage.beginIsolated.1 = storage.outset :=
    Storage.begin_outset fresh
  rw [← scene, ← ran]
  simp only [Subscriber.played, Subscriber.poll, Subscriber.journal, built]
  rfl

/-- Once a poll has its batch, it does what the rest of its script does. -/
theorem poll_play (handler : Handler σ) {member : Member} (state : σ)
    (valid : isTopic topic = true) (fresh : storage.Fresh)
    (tables : namings.Tables topic storage.committed log cursors)
    (bounded : Cursors.bound member.group cursors = .int bound)
    (size : member.effectiveBatchSize ≤ Value.greatestInteger) :
    ∃ entries : Journal, entries.Reading ∧
      (member.subscriber namings).played topic handler state storage =
        ((member.delivering namings topic (log.after (.int bound) member.effectiveBatchSize) 0).play
          handler state storage.snapshot).following entries := by
  rw [poll_claiming handler member state valid fresh]
  exact play_claiming handler state tables bounded size

theorem Plays.following {member : Member} {table : String} {handler : Handler σ}
    {rows : List LogRow} {count : Nat} {state : σ} {scene : Scene}
    {played : Played (Except Failure Nat) σ} {entries : Journal}
    (plays : Plays member table handler rows count cursors state scene played)
    (reading : entries.Reading) :
    Plays member table handler rows count cursors state scene (played.following entries) where
  result := plays.result
  state := plays.state
  handed := by
    rw [Played.following, Journal.handed_append, reading.handed]
    exact plays.handed
  acknowledged := by
    rw [Played.following, Journal.acknowledged_append, reading.acknowledged]
    exact plays.acknowledged
  ended := by
    rw [Played.following, Journal.isCommitted_append, reading.unended]
    exact plays.ended
  kept := plays.kept
  moved := plays.moved

theorem poll_plays_willing {member : Member} {handler : Handler σ} {good : σ → Prop} {state : σ}
    (valid : isTopic topic = true)
    (willing : Willing handler good
      (member.deliveries (log.after (.int bound) member.effectiveBatchSize)))
    (start : good state) (fresh : storage.Fresh) (free : storage.snapshot.locked = false)
    (arranged : log.Arranged) (tables : namings.Tables topic storage.committed log cursors)
    (bounded : Cursors.bound member.group cursors = .int bound)
    (size : member.effectiveBatchSize ≤ Value.greatestInteger) :
    Plays member (namings.cursorTable topic) handler
      (log.after (.int bound) member.effectiveBatchSize) 0 cursors state storage.snapshot
      ((member.subscriber namings).played topic handler state storage) := by
  obtain ⟨entries, reading, comes⟩ :=
    poll_play handler state valid fresh tables bounded size
  rw [comes]
  refine Plays.following ?_ reading
  refine play_batch valid willing start free storage.snapshot_current rfl tables.cursors bounded
    ?_ ?_
  · exact fun row member => (Log.batch_above member).2
  · exact Log.batch_ascending arranged.ascending bound member.effectiveBatchSize

theorem poll_plays {member : Member} {handler : Handler σ} (state : σ)
    (valid : isTopic topic = true)
    (accepts : ∀ delivery state, (handler delivery state).1 = some .accepted)
    (alone : storage.holds = []) (arranged : log.Arranged)
    (tables : namings.Tables topic storage.committed log cursors)
    (bounded : Cursors.bound member.group cursors = .int bound)
    (size : member.effectiveBatchSize ≤ Value.greatestInteger) :
    Plays member (namings.cursorTable topic) handler
      (log.after (.int bound) member.effectiveBatchSize) 0 cursors state storage.snapshot
      ((member.subscriber namings).played topic handler state storage) := by
  have willing : Willing handler (fun _ => True)
      (member.deliveries (log.after (.int bound) member.effectiveBatchSize)) :=
    fun delivery _ state _ => ⟨accepts delivery state, trivial⟩
  exact poll_plays_willing valid willing trivial (Storage.fresh_of_closed alone)
    (Storage.snapshot_free alone) arranged tables bounded size

end Poll

end TopicLog
