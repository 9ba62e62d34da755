import TopicLog.Proofs.Readers

/-!
The bound that a transaction is told and the bound in its selections are the same. They are read by two
statements, and others may publish, acknowledge and commit in between; still a selection begins after the
bound that was claimed, or after the offset that the transaction acknowledged itself, and its rows are
those that were committed when the transaction took its snapshot.
-/
namespace TopicLog

namespace Reader

variable {names : Names} {topic : String} {reader : Reader}

/-! Answers. -/

theorem ask_plan {statement : Statement} {plan : Plan}
    (unprimed : reader.storage.Unprimed reader.handle)
    (plain : (Command.run statement.action).makes = false)
    (planned : (reader.storage.view reader.handle).plan reader.storage.clock
      (.run statement.action) = .ok plan) (reads : plan.writes = false) :
    (reader.ask (.ok statement)).1 = plan.outcome.mapError .ofFault := by
  have inScene : (reader.storage.scene reader.handle).view.plan
      (reader.storage.scene reader.handle).clock (.run statement.action) = .ok plan := planned
  have answer := (Storage.execute_scene unprimed plain).1
  simp only [Scene.execute, inScene, reads, Bool.false_and, Bool.false_eq_true, if_false] at answer
  simp only [ask, answer]

theorem ask_read {statement : Statement} {rows : List (List Value)}
    (unprimed : reader.storage.Unprimed reader.handle)
    (plain : (Command.run statement.action).makes = false)
    (planned : (reader.storage.view reader.handle).plan reader.storage.clock
      (.run statement.action) = .ok (.read (reader.storage.view reader.handle) rows)) :
    (reader.ask (.ok statement)).1 =
      .ok { after := reader.storage.view reader.handle, rows } :=
  ask_plan unprimed plain planned rfl

theorem ask_fault {statement : Statement} {fault : Fault}
    (planned : (reader.storage.view reader.handle).plan reader.storage.clock
      (.run statement.action) = .error fault) :
    (reader.ask (.ok statement)).1 = .error (.ofFault fault) := by
  simp only [ask, Storage.execute, planned]
  rfl

theorem claimed_eq_ok_iff (valid : isTopic topic = true)
    (unprimed : reader.storage.Unprimed reader.handle) {bound : Int} :
    reader.claimed names topic = .ok bound ↔
      (reader.storage.view reader.handle).bound (names.claim topic reader.group) =
        .ok (.int bound) := by
  rw [claimed, names.claim_built reader.group valid]
  cases bounded : (reader.storage.view reader.handle).bound (names.claim topic reader.group) with
  | error fault =>
      have planned : (reader.storage.view reader.handle).plan reader.storage.clock
          (.run (names.claim topic reader.group).statement.action) = .error fault := by
        simp only [Claim.statement, Database.plan, Database.planAction, bounded, Except.map]
      rw [ask_fault planned]
      constructor
      · intro told
        cases told
      · intro same
        cases same
  | ok value =>
      have planned : (reader.storage.view reader.handle).plan reader.storage.clock
          (.run (names.claim topic reader.group).statement.action) =
            .ok (.read (reader.storage.view reader.handle) [[value]]) := by
        simp only [Claim.statement, Database.plan, Database.planAction, bounded, Except.map]
      rw [ask_read unprimed rfl planned]
      -- An integer is told as it is, any other value is none that can be read.
      cases value with
      | int told =>
          constructor
          · intro same
            exact congrArg (fun told => Except.ok (Value.int told)) (Except.ok.inj same)
          · intro same
            cases same
            rfl
      | null | real _ | text _ | blob _ =>
          constructor
          · intro told
            cases told
          · intro same
            cases same

/-- A selection returns the first rows above the bound, whatever the value of the bound, unless its
limit is no integer. -/
theorem selected_of_bound (valid : isTopic topic = true)
    (unprimed : reader.storage.Unprimed reader.handle) {log : Log} {value : Value}
    (messages : (reader.storage.view reader.handle).contents? (names.messageTable topic) =
      some (.log log))
    (bounded : (reader.storage.view reader.handle).bound (names.claim topic reader.group) =
      .ok value) (batchSize : Nat) (codec : Codec) :
    let limit := if batchSize = 0 then defaultBatchSize else batchSize
    reader.selected names topic batchSize codec =
      if Value.greatestInteger < limit then .error (.ofFault .mismatch)
      else .ok ((log.after value limit).map Log.columns) := by
  intro limit
  have planned : (reader.storage.view reader.handle).plan reader.storage.clock
      (.run (Statement.action ⟨.sqlite,
        .fetch (names.messageTable topic) (names.claim topic reader.group) limit⟩)) = .ok _ :=
    Database.fetch_of_bound limit messages bounded
  rw [selected, names.fetch_built reader.group valid]
  by_cases large : Value.greatestInteger < limit
  · rw [if_pos large] at planned ⊢
    rw [ask_plan unprimed rfl planned rfl]
    rfl
  · rw [if_neg large] at planned ⊢
    rw [ask_read unprimed rfl planned]
    rfl

theorem selected_eq (valid : isTopic topic = true)
    (unprimed : reader.storage.Unprimed reader.handle) {log : Log} {bound : Int}
    (messages : (reader.storage.view reader.handle).contents? (names.messageTable topic) =
      some (.log log))
    (bounded : (reader.storage.view reader.handle).bound (names.claim topic reader.group) =
      .ok (.int bound)) {batchSize : Nat} (positive : 0 < batchSize)
    (small : (batchSize : Int) ≤ Value.greatestInteger) (codec : Codec) :
    reader.selected names topic batchSize codec =
      .ok (((log.rows.filter fun row => bound < row.offset).take batchSize).map Log.columns) := by
  have selects := selected_of_bound valid unprimed messages bounded batchSize codec
  simp only [Nat.ne_of_gt positive, if_false, if_neg (Int.not_lt.mpr small), Log.after_int] at selects
  exact selects

/-! Runs. -/

theorem Sound.run (valid : isTopic topic = true) (sound : reader.Sound names topic)
    (events : List ReaderEvent) : (Reader.run names topic events reader).Sound names topic := by
  induction events generalizing reader with
  | nil => exact sound
  | cons event rest ih => exact ih (sound.step valid event)

/-- What stays of a reader from one moment to a later one: whose transaction and group it is, the
snapshot once it is taken, and that something was acknowledged. -/
structure Continues (earlier later : Reader) : Prop where
  handle : later.handle = earlier.handle
  group : later.group = earlier.group
  snapshot : ∀ base, earlier.snapshot = some base → later.snapshot = some base
  acknowledged : later.acknowledged = none → earlier.acknowledged = none

theorem continues_refl (reader : Reader) : Continues reader reader :=
  ⟨rfl, rfl, fun _ taken => taken, fun silent => silent⟩

theorem Continues.trans {first second third : Reader} (earlier : Continues first second)
    (later : Continues second third) : Continues first third where
  handle := later.handle.trans earlier.handle
  group := later.group.trans earlier.group
  snapshot base taken := later.snapshot base (earlier.snapshot base taken)
  acknowledged silent := earlier.acknowledged (later.acknowledged silent)

theorem continues_after (reader : Reader) (statement : Statement) (offset : Option Int) :
    Continues reader (reader.after (.ok statement) offset) where
  handle := rfl
  group := rfl
  snapshot base taken := by
    rw [after_snapshot, taken]
    rfl
  acknowledged silent := by
    rw [after_acknowledged] at silent
    cases answer : (reader.storage.execute reader.handle (.run statement.action)).1 with
    | error fault =>
        rw [answer] at silent
        exact silent
    | ok effect =>
        rw [answer] at silent
        exact (Option.or_eq_none_iff.mp silent).2

theorem continues_step (names : Names) (valid : isTopic topic = true) (reader : Reader)
    (event : ReaderEvent) : Continues reader (reader.step names topic event) := by
  cases event with
  | claim group =>
      rw [step, names.claim_built group valid]
      exact continues_after reader _ none
  | select group batchSize codec =>
      rw [step, names.fetch_built group valid]
      exact continues_after reader _ none
  | write upsert =>
      rw [step, upsert.built names valid]
      exact continues_after reader _ _
  | aside aside => exact ⟨rfl, rfl, fun _ taken => taken, fun silent => silent⟩

theorem continues_run (names : Names) (valid : isTopic topic = true) (reader : Reader)
    (events : List ReaderEvent) : Continues reader (Reader.run names topic events reader) := by
  induction events generalizing reader with
  | nil => exact continues_refl reader
  | cons event rest ih => exact (continues_step names valid reader event).trans (ih _)

theorem untaken_run {events : List ReaderEvent} (untaken : reader.snapshot = none)
    (others : ∀ event ∈ events, ∃ aside, event = .aside aside) :
    (Reader.run names topic events reader).snapshot = none := by
  induction events generalizing reader with
  | nil => exact untaken
  | cons event rest ih =>
      obtain ⟨aside, rfl⟩ := others event List.mem_cons_self
      exact ih untaken fun later member => others later (List.mem_cons_of_mem _ member)

theorem Sound.taken (valid : isTopic topic = true) (sound : reader.Sound names topic) {bound : Int}
    (claimed : reader.claimed names topic = .ok bound) :
    (reader.step names topic (.claim reader.group)).snapshot = some reader.base := by
  obtain ⟨hold, held⟩ := sound.stands.held
  have bounded := (claimed_eq_ok_iff valid sound.unprimed).mp claimed
  have planned : (reader.storage.view reader.handle).plan reader.storage.clock
      (.run (names.claim topic reader.group).statement.action) =
        .ok (.read (reader.storage.view reader.handle) [[.int bound]]) := by
    simp only [Claim.statement, Database.plan, Database.planAction, bounded, Except.map]
  have answered := ask_read sound.unprimed rfl planned
  rw [Reader.step, names.claim_built reader.group valid]
  have plain : (Command.run (names.claim topic reader.group).statement.action).makes = false := rfl
  rcases Storage.execute_seen held sound.unprimed plain with
    ⟨fault, failed, -⟩ | ⟨plan, next, -, -, holds, shows⟩
  · simp only [ask, failed] at answered
    cases answered
  · exact taken_after holds shows

end Reader

/-- Whatever a transaction and all others did before it is told a bound, and whatever they do after that,
its selections return the first rows above the bound of the messages that were committed when it took
its snapshot, which is when it was told the bound if it read nothing before. Where it acknowledged an
offset itself, the last one takes the place of the bound, in selections and in further claims. -/
theorem selections_begin_at_claim (names : Names) {topic : String} (valid : isTopic topic = true)
    (group : String) {storage : Storage} (fresh : storage.Fresh) (arranged : storage.Arranged)
    (before after : List ReaderEvent) (bound : Int) (log : Log)
    (messages : (Reader.run names topic before (.opened group storage)).base.contents?
      (names.messageTable topic) = some (.log log))
    (claimed : (Reader.run names topic before (.opened group storage)).claimed names topic =
      .ok bound) :
    let told := Reader.run names topic before (.opened group storage)
    let reader := Reader.run names topic (before ++ .claim group :: after) (.opened group storage)
    let current := reader.acknowledged.getD bound
    ((∀ event ∈ before, ∃ aside, event = .aside aside) → told.base = told.storage.committed) ∧
      reader.claimed names topic = .ok current ∧
      (∀ (batchSize : Nat) (codec : Codec), 0 < batchSize →
        (batchSize : Int) ≤ Value.greatestInteger →
        reader.selected names topic batchSize codec =
          .ok (((log.rows.filter fun row => current < row.offset).take batchSize).map
            Log.columns)) ∧
      log.rows.Pairwise fun a b => a.offset < b.offset := by
  intro told reader current
  have opened : (Reader.opened group storage).Sound names topic :=
    Reader.sound_opened fresh arranged group
  have told_sound : told.Sound names topic := opened.run valid before
  have told_group : told.group = group := (Reader.continues_run names valid _ before).group
  have split : reader = Reader.run names topic after (told.step names topic (.claim told.group)) := by
    rw [told_group]
    exact List.foldl_append
  have sound : reader.Sound names topic :=
    split ▸ (told_sound.step valid (.claim told.group)).run valid after
  have continues : Reader.Continues (told.step names topic (.claim told.group)) reader :=
    split ▸ Reader.continues_run names valid _ after
  have since := Reader.continues_step names valid told (.claim told.group)
  have taken := continues.snapshot _ (told_sound.taken valid claimed)
  have follows := sound.stands.follows
  rw [Reader.base, taken, Option.getD_some] at follows
  -- The snapshot was taken before the claim or by it, and what is seen follows from it ever since.
  have messages_seen := follows.messages log messages
  have bounded : (reader.storage.view reader.handle).bound (names.claim topic reader.group) =
      .ok (.int current) := by
    have told_bound := (Reader.claimed_eq_ok_iff valid told_sound.unprimed).mp claimed
    have same : reader.group = told.group := continues.group.trans since.group
    rw [same] at follows ⊢
    exact told_sound.stands.follows.bound_later follows
      (fun silent => since.acknowledged (continues.acknowledged silent)) told_bound
  refine ⟨?_, (Reader.claimed_eq_ok_iff valid sound.unprimed).mpr bounded, ?_, ?_⟩
  · intro others
    rw [Reader.base, Reader.untaken_run rfl others]
    rfl
  · intro batchSize codec positive small
    exact Reader.selected_eq valid sound.unprimed messages_seen bounded positive small codec
  · exact ((sound.arranged.view reader.handle).contents messages_seen).ascending

def halfRead : Database where
  tables :=
    [⟨Namings.usual.messageTable "orders", .log ⟨[⟨1, .text "a", .text "", .null, .null⟩,
        ⟨2, .text "b", .text "", .null, .null⟩], 2⟩⟩,
      ⟨Namings.usual.cursorTable "orders", .cursors [⟨.text "billing", .int 1, .int 1⟩]⟩]

def publishing (handle : Handle) (uuid : String) : List ReaderEvent :=
  [.aside .begin,
    .aside (.execute handle
      (.run (.append (Namings.usual.messageTable "orders") [⟨uuid, [], []⟩]))),
    .aside (.commit handle)]

def overtaking (handle : Handle) (offset : Int) : List ReaderEvent :=
  [.aside .begin,
    .aside (.execute handle
      (.run (.acknowledge (Namings.usual.cursorTable "orders") "billing" offset))),
    .aside (.commit handle)]

def billing (events : List ReaderEvent) : Reader :=
  Reader.run Namings.usual.names "orders" events
    (.opened "billing" { clock := newYear, committed := halfRead })

/-- A message is published before the claim and one after it, and another member acknowledges them. The
selection returns what was there at the claim; with an offset of its own it begins after that one. -/
theorem selections_begin_at_claim_overtaken :
    let names := Namings.usual.names
    let storage : Storage := { clock := newYear, committed := halfRead }
    let third : LogRow := ⟨3, .text "c", .text newYear.toText, .blob [], .blob []⟩
    let log : Log := ⟨[⟨1, .text "a", .text "", .null, .null⟩, ⟨2, .text "b", .text "", .null, .null⟩,
      third], 3⟩
    isTopic "orders" = true ∧ storage.Fresh ∧ storage.Arranged ∧
      (billing (publishing 1 "c")).base.contents? (names.messageTable "orders") =
        some (.log log) ∧
      (billing (publishing 1 "c")).claimed names "orders" = .ok 1 ∧
      (billing (publishing 1 "c" ++ .claim "billing" ::
        (publishing 2 "d" ++ overtaking 3 4))).selected names "orders" 1 .json =
          .ok [[.int 2, .text "b", .text "", .null, .null]] ∧
      (billing (publishing 1 "c" ++ .claim "billing" ::
        [.write (.acknowledge ⟨2, newYear, {}⟩ "billing")])).selected names "orders" 1 .json =
          .ok [Log.columns third] := by
  intro names storage third log
  have fresh : storage.Fresh := Storage.fresh_of_closed rfl
  have arranged : storage.Arranged := ⟨by decide +kernel, by simp [storage]⟩
  have messages : (billing (publishing 1 "c")).base.contents? (names.messageTable "orders") =
      some (.log log) := by decide +kernel
  have claimed : (billing (publishing 1 "c")).claimed Namings.usual.names "orders" = .ok 1 := by rfl
  have valid : isTopic "orders" = true := by decide
  have begins (after : List ReaderEvent) :=
    (selections_begin_at_claim names valid "billing" fresh arranged (publishing 1 "c") after 1 log
      messages claimed).2.2.1 1 .json (by decide) (by decide)
  have silent : (billing (publishing 1 "c" ++ .claim "billing" ::
      (publishing 2 "d" ++ overtaking 3 4))).acknowledged = none := by decide +kernel
  have written : (billing (publishing 1 "c" ++ .claim "billing" ::
      [.write (.acknowledge ⟨2, newYear, {}⟩ "billing")])).acknowledged = some 2 := by
    decide +kernel
  unfold billing at silent written ⊢
  refine ⟨valid, fresh, arranged, messages, claimed, ?_, ?_⟩
  · rw [begins, silent]
    rfl
  · rw [begins, written]
    rfl

end TopicLog
