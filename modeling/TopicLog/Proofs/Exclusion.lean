import TopicLog.Proofs.ExactlyOnce

/-!
Of all polls of a topic one at a time has its handler at work. A poll that claimed before another one
committed an acknowledgment sees an older state, and can mark no row any more.
-/
namespace TopicLog

/-! What a step of another leaves to a poll. -/

def Event.isOutside : Event → Bool
  | .publish _ _ _ _ | .setUp _ | .move _ | .pause _ => true
  | _ => false

/-- A storage after steps that are no poll's. -/
structure Forward (system : System) (storage : Storage) : Prop where
  unused : storage.Fresh
  fresh : system.storage.fresh ≤ storage.fresh
  version : system.storage.version ≤ storage.version
  held : ∀ handle poll, system.polls handle = some poll →
    storage.held? handle = system.storage.held? handle

section Forward

variable {namings : Namings} {topic : String} {system : System} {storage next : Storage}
  {handle : Handle} {poll : Poll} {event : Event}

theorem Forward.step (forward : Forward system storage) (unused : next.Fresh)
    (elsewhere : Storage.Elsewhere handle storage next) (side : system.polls handle = none) :
    Forward system next where
  unused := unused
  fresh := Nat.le_trans forward.fresh elsewhere.fresh
  version := Nat.le_trans forward.version elsewhere.version
  held other poll found := by
    have apart : other ≠ handle := by
      rintro rfl
      cases side.symm.trans found
    exact (elsewhere.held other apart).trans (forward.held other poll found)

theorem forward_refl (invariant : Invariant namings topic system) :
    Forward system system.storage where
  unused := invariant.consistent.fresh
  fresh := Nat.le_refl _
  version := Nat.le_refl _
  held _ _ _ := rfl

theorem forward_survives (invariant : Invariant namings topic system) :
    namings.Survives topic (fun handle => system.polls handle = none) (Forward system) where
  begin storage forward := by
    have side : system.polls storage.fresh = none := by
      cases found : system.polls storage.fresh with
      | none => rfl
      | some poll =>
          have given := (invariant.polls _ poll found).1
          exact absurd (Nat.lt_of_lt_of_le given forward.fresh) (Nat.lt_irrefl _)
    exact ⟨side, forward.step (Storage.fresh_begin forward.unused)
      (Storage.elsewhere_begin forward.unused) side⟩
  execute storage handle action forward side _ :=
    forward.step (Storage.fresh_execute forward.unused)
      (Storage.elsewhere_execute handle (.run action) storage) side
  commit storage handle forward side :=
    forward.step (Storage.fresh_commit forward.unused) (Storage.elsewhere_commit handle storage) side
  rollback storage handle forward side :=
    forward.step (Storage.fresh_rollback forward.unused) (Storage.elsewhere_rollback handle storage)
      side

theorem forward_step (valid : isTopic topic = true) (invariant : Invariant namings topic system)
    (outside : event.isOutside = true) :
    Forward system (system.step namings topic event).storage ∧
      (system.step namings topic event).polls = system.polls := by
  have survives : namings.Survives topic _ (Forward system) := forward_survives invariant
  have here := forward_refl invariant
  cases event with
  | begin | advance | drop => cases outside
  | publish codec settings initialized messages =>
      exact ⟨survives.publish valid here rfl, rfl⟩
  | setUp member => exact ⟨survives.subscriber_setUp here, rfl⟩
  | move move => exact ⟨survives.moved here move, rfl⟩
  | pause clock => exact ⟨⟨here.unused, here.fresh, here.version, here.held⟩, rfl⟩

theorem step_grows (valid : isTopic topic = true) (invariant : Invariant namings topic system)
    (event : Event) :
    system.storage.fresh ≤ (system.step namings topic event).storage.fresh ∧
      system.storage.version ≤ (system.step namings topic event).storage.version := by
  by_cases outside : event.isOutside = true
  · have forward := (forward_step valid invariant outside).1
    exact ⟨forward.fresh, forward.version⟩
  cases event with
  | publish | setUp | move | pause => exact absurd rfl outside
  | begin member =>
      simp only [System.step, Member.pollScript_valid valid]
      have elsewhere := Storage.elsewhere_beginIsolated invariant.consistent.fresh
      exact ⟨elsewhere.fresh, elsewhere.version⟩
  | advance handle verdict =>
      cases found : system.polls handle with
      | none => simp [System.step, found]
      | some poll =>
          have elsewhere := poll.script.advance_elsewhere handle verdict system.storage
          simp only [System.step, found]
          exact ⟨elsewhere.fresh, elsewhere.version⟩
  | drop handle =>
      cases found : system.polls handle with
      | none => simp [System.step, found]
      | some poll =>
          have elsewhere := Storage.elsewhere_rollback handle system.storage
          simp only [System.step, found]
          exact ⟨elsewhere.fresh, elsewhere.version⟩

theorem step_spares (valid : isTopic topic = true) (invariant : Invariant namings topic system)
    (event : Event) (given : handle < system.storage.fresh)
    (apart : ∀ verdict, event ≠ .advance handle verdict) (kept : event ≠ .drop handle) :
    (system.step namings topic event).polls handle = system.polls handle ∧
      ∀ poll, system.polls handle = some poll →
        (system.step namings topic event).storage.held? handle = system.storage.held? handle := by
  by_cases outside : event.isOutside = true
  · obtain ⟨forward, polls⟩ := forward_step valid invariant outside
    exact ⟨congrFun polls handle, fun poll found => forward.held handle poll found⟩
  cases event with
  | publish | setUp | move | pause => exact absurd rfl outside
  | begin member =>
      have other : handle ≠ system.storage.fresh := Nat.ne_of_lt given
      simp only [System.step, Member.pollScript_valid valid]
      exact ⟨if_neg other, fun _ _ =>
        (Storage.elsewhere_beginIsolated invariant.consistent.fresh).held handle other⟩
  | advance mover verdict =>
      have other : handle ≠ mover := by
        rintro rfl
        exact apart verdict rfl
      cases found : system.polls mover with
      | none => simp [System.step, found]
      | some poll =>
          simp only [System.step, found]
          exact ⟨if_neg other, fun _ _ =>
            (poll.script.advance_elsewhere mover verdict system.storage).held handle other⟩
  | drop mover =>
      have other : handle ≠ mover := by
        rintro rfl
        exact kept rfl
      cases found : system.polls mover with
      | none => simp [System.step, found]
      | some poll =>
          simp only [System.step, found]
          exact ⟨if_neg other, fun _ _ =>
            (Storage.elsewhere_rollback mover system.storage).held handle other⟩

end Forward

/-! Polls that were overtaken. -/

/-- A poll that claimed before the commit with a version, and how many steps it has left. -/
inductive Stale (namings : Namings) (topic : String) (newest : Nat) :
    Nat → Option Hold → Poll → Prop where
  | fetching {poll : Poll} {view : Database} {version : Nat} (old : version < newest)
      (script : poll.script = poll.member.fetching namings topic) (calm : poll.journal.Calm)
      (sound : namings.Sound topic view) :
      Stale namings topic newest 3 (some (.reading view version)) poll
  | fetched {poll : Poll} {view : Database} {version : Nat} {rows : List LogRow}
      (old : version < newest) (script : poll.script = poll.member.delivering namings topic rows 0)
      (calm : poll.journal.Calm) (sound : namings.Sound topic view) :
      Stale namings topic newest 2 (some (.reading view version)) poll
  | leaving {poll : Poll} {hold : Hold} {result : Except Failure Nat}
      (script : poll.script = .rollback (.done result)) (calm : poll.journal.Calm) :
      Stale namings topic newest 1 (some hold) poll
  | ended {poll : Poll} {result : Except Failure Nat} (script : poll.script = .done result)
      (calm : poll.journal.Calm) : Stale namings topic newest 0 none poll

section Stale

variable {namings : Namings} {topic : String} {newest count : Nat} {storage : Storage}
  {handle : Handle} {poll : Poll} {held : Option Hold}

theorem Stale.calm (stale : Stale namings topic newest count held poll) : poll.journal.Calm := by
  cases stale with
  | fetching _ _ calm | fetched _ _ calm | leaving _ calm | ended _ calm => exact calm

theorem Stale.unhanded (valid : isTopic topic = true)
    (stale : Stale namings topic newest count held poll) : poll.script.handing? = none := by
  cases stale with
  | fetching _ own | leaving own | ended own =>
      rw [own]
      rfl
  | fetched _ own =>
      rcases poll.member.delivering_cases namings valid _ _ with
        ⟨result, commits⟩ | ⟨row, rest, delivery, -, -, statement⟩
      · rw [own, commits]
        rfl
      · rw [own, statement]
        rfl

theorem Stale.ends (stale : Stale namings topic newest 0 held poll) : held = none := by
  cases stale
  rfl

/-- When a transaction commits what it wrote, every other poll that claimed becomes stale. -/
theorem Stage.stale {committed : Database} {hold : Hold}
    (stage : Stage namings topic committed (some hold) poll) (claimed : poll.journal.claimed = true)
    (free : Storage.isWriting hold = false)
    (older : ∀ view version, hold = .reading view version → version < newest) :
    ∃ count ≤ 3, Stale namings topic newest count (some hold) poll := by
  cases stage with
  | claiming script calm =>
      rw [calm] at claimed
      cases claimed
  | fetching script calm sound =>
      exact ⟨3, Nat.le_refl _, .fetching (older _ _ rfl) script calm sound⟩
  | fetched script calm sound batch =>
      exact ⟨2, by decide, .fetched (older _ _ rfl) script calm sound⟩
  | handing | accepted | delivering => cases free
  | leaving script calm => exact ⟨1, by decide, .leaving script (calm free)⟩

theorem Stale.advance (valid : isTopic topic = true) (unprimed : storage.Unprimed handle)
    (overtaken : newest ≤ storage.version)
    (stale : Stale namings topic newest count (storage.held? handle) poll) (verdict : Verdict) :
    ∃ left ≤ count - 1, Stale namings topic newest left
      ((poll.script.advance handle verdict storage).storage.held? handle)
      (poll.after (poll.script.advance handle verdict storage)) := by
  generalize own : storage.held? handle = held at stale
  cases stale with
  | @fetching _ view version old script calm sound =>
      have hold := Storage.hold_of_held own
      have sees : storage.view handle = view := by rw [Storage.view, hold]
      have snapshot : storage.holdAfterRead handle = .reading view version := by
        rw [Storage.holdAfterRead, hold]
      apply after_statement (fun held poll => ∃ left ≤ 2, Stale namings topic newest left held poll)
        own unprimed rfl script
      · intro fault kept _
        exact ⟨1, by decide, .leaving rfl (Journal.calm_append calm (Journal.calm_fault _ fault))⟩
      · intro plan effect planned outcome _
        rw [sees] at planned
        rw [snapshot, (fetch_reads sound planned outcome).2]
        exact ⟨2, Nat.le_refl _,
          .fetched old rfl (Journal.calm_append calm (Journal.calm_fetch _ _ _ _)) sound⟩
      · intro plan effect planned outcome writes
        rw [sees] at planned
        cases (fetch_reads sound planned outcome).1.symm.trans writes
  | @fetched _ view version rows old script calm sound =>
      have hold := Storage.hold_of_held own
      rcases poll.member.delivering_cases namings valid rows 0 with
        ⟨result, commits⟩ | ⟨row, rest, delivery, -, -, statement⟩
      · have ended := storage.held_commit_self handle
        simp only [script, commits, Script.advance, ended]
        exact ⟨0, Nat.zero_le _, .ended rfl (Journal.calm_append calm ⟨rfl, rfl, rfl⟩)⟩
      · apply after_statement
          (fun held poll => ∃ left ≤ 1, Stale namings topic newest left held poll)
          own unprimed rfl (script.trans statement)
        · intro fault kept _
          exact ⟨1, Nat.le_refl _,
            .leaving rfl (Journal.calm_append calm (Journal.calm_fault _ fault))⟩
        · intro plan effect planned outcome reads
          have sees : storage.view handle = view := by rw [Storage.view, hold]
          rw [sees] at planned
          cases (mark_writes valid sound planned outcome).1.symm.trans reads
        -- To write, its snapshot would have to be the newest state.
        · intro plan effect _ _ _ current
          have newer : version = storage.version := by
            simpa [Storage.isOutdated, hold] using current
          omega
  | @leaving _ hold result script calm =>
      have ended := storage.held_rollback_self handle
      simp only [script, Script.advance, ended]
      exact ⟨0, Nat.le_refl _, .ended rfl (Journal.calm_append calm ⟨rfl, rfl, rfl⟩)⟩
  | @ended _ result script calm =>
      simp only [script, Script.advance, own]
      exact ⟨0, Nat.le_refl _, .ended rfl (Journal.calm_append calm ⟨rfl, rfl, rfl⟩)⟩

end Stale

/-- A poll that was overtaken by the commit with a version, and has no more than some steps left. If it
was dropped, its handle is not given out again. -/
structure Overtaken (namings : Namings) (topic : String) (newest : Nat) (handle : Handle)
    (count : Nat) (system : System) : Prop where
  given : handle < system.storage.fresh
  version : newest ≤ system.storage.version
  stale : ∀ poll, system.polls handle = some poll → ∃ left ≤ count,
    Stale namings topic newest left (system.storage.held? handle) poll

def Event.advances (handle : Handle) : Event → Bool
  | .advance other _ => other = handle
  | _ => false

section Overtaken

variable {namings : Namings} {topic : String} {newest count : Nat} {handle : Handle}
  {system : System}

theorem Overtaken.step (valid : isTopic topic = true) (invariant : Invariant namings topic system)
    (overtaken : Overtaken namings topic newest handle count system) (event : Event) :
    Overtaken namings topic newest handle (count - if event.advances handle then 1 else 0)
      (system.step namings topic event) := by
  obtain ⟨fresh, version⟩ := step_grows valid invariant event
  refine ⟨Nat.lt_of_lt_of_le overtaken.given fresh, Nat.le_trans overtaken.version version, ?_⟩
  intro poll found
  by_cases own : ∃ verdict, event = .advance handle verdict
  · obtain ⟨verdict, rfl⟩ := own
    cases before : system.polls handle with
    | none =>
        simp only [System.step, before] at found
        cases found
    | some earlier =>
        have unprimed := (invariant.polls handle earlier before).2.1
        obtain ⟨left, few, stale⟩ := overtaken.stale earlier before
        obtain ⟨fewer, less, next⟩ := stale.advance valid unprimed overtaken.version verdict
        simp only [System.step, before, System.advance, System.setPoll, ↓reduceIte] at found ⊢
        cases found
        refine ⟨fewer, ?_, next⟩
        simp only [Event.advances, decide_true, ↓reduceIte]
        omega
  -- Any other event leaves the poll where it is, or drops it.
  · have apart : ∀ verdict, event ≠ .advance handle verdict := fun verdict same =>
      own ⟨verdict, same⟩
    have idle : event.advances handle = false := by
      cases event with
      | advance other verdict =>
          have other : other ≠ handle := by
            rintro rfl
            exact apart verdict rfl
          simp [Event.advances, other]
      | _ => rfl
    by_cases dropped : event = .drop handle
    · subst dropped
      cases before : system.polls handle with
      | none =>
          simp only [System.step, before] at found
          cases found
      | some earlier => simp [System.step, before, System.setPoll] at found
    · obtain ⟨polls, held⟩ := step_spares valid invariant event overtaken.given apart dropped
      rw [polls] at found
      simpa [idle, held poll found] using overtaken.stale poll found

theorem Overtaken.run (valid : isTopic topic = true) (invariant : Invariant namings topic system)
    (overtaken : Overtaken namings topic newest handle count system) (events : List Event) :
    Overtaken namings topic newest handle (count - events.countP (Event.advances handle))
      (System.run namings topic events system) := by
  induction events generalizing system count with
  | nil => exact overtaken
  | cons event rest ih =>
      have next := ih (invariant.step valid event) (overtaken.step valid invariant event)
      rw [List.countP_cons]
      have sum : count - (if event.advances handle then 1 else 0) -
          rest.countP (Event.advances handle) =
          count - (rest.countP (Event.advances handle) +
            if event.advances handle then 1 else 0) := by omega
      rw [← sum]
      exact next

end Overtaken

section Accepted

variable {namings : Namings} {topic : String} {database : Database} {polls : List Poll}

theorem Log.Ordered.same_row {log : Log} (ordered : log.Ordered) {row other : LogRow}
    (inside : row ∈ log.rows) (otherInside : other ∈ log.rows)
    (same : row.offset = other.offset) : row = other := by
  have ascending := ordered.ascending
  generalize log.rows = rows at inside otherInside ascending
  induction rows with
  | nil => cases inside
  | cons first rest ih =>
      obtain ⟨above, later⟩ := List.pairwise_cons.mp ascending
      rcases List.mem_cons.mp inside with rfl | inRest
      · rcases List.mem_cons.mp otherInside with rfl | otherInRest
        · rfl
        · have := above other otherInRest
          omega
      · rcases List.mem_cons.mp otherInside with rfl | otherInRest
        · have := above row inRest
          omega
        · exact ih inRest otherInRest later

theorem accepted_of_past {poll : Poll} {past : List LogRow} {row : LogRow}
    (handed : poll.journal.handed.map (fun (delivery, verdict) => (Except.ok delivery, verdict)) =
      past.map fun row => (poll.member.decode row, some Verdict.accepted)) (member : row ∈ past) :
    ∃ given, poll.member.decode row = .ok given ∧
      (given, some .accepted) ∈ poll.journal.handed := by
  have listed : (poll.member.decode row, some Verdict.accepted) ∈
      past.map fun row => (poll.member.decode row, some Verdict.accepted) :=
    List.mem_map.mpr ⟨row, member, rfl⟩
  rw [← handed] at listed
  obtain ⟨⟨given, verdict⟩, inside, same⟩ := List.mem_map.mp listed
  obtain ⟨decodes, accepted⟩ := Prod.mk.inj same
  exact ⟨given, decodes.symm, accepted ▸ inside⟩

theorem Account.accepted (account : Account namings topic database polls)
    (ordered : (namings.log topic database).Ordered) {group : String} {row : LogRow}
    (inside : row ∈ (namings.log topic database).upTo (namings.acked topic database group)) :
    ∃ poll ∈ polls, poll.group = group ∧ ∃ given, poll.member.decode row = .ok given ∧
      (given, some .accepted) ∈ poll.journal.handed := by
  have acknowledged : row.offset ∈ acknowledgedBy group polls := by
    rw [account.history group]
    exact List.mem_map.mpr ⟨row, inside, rfl⟩
  obtain ⟨poll, listed, offset⟩ := List.mem_flatMap.mp acknowledged
  obtain ⟨member, mine⟩ := List.mem_filter.mp listed
  obtain ⟨past, fulfilled⟩ := account.fulfilled poll member
  rw [fulfilled.acknowledged] at offset
  obtain ⟨other, inPast, same⟩ := List.mem_map.mp offset
  -- The poll acknowledged the offset for a row of the log, and there is one row with an offset.
  have inLog := (List.mem_filter.mp inside).1
  have equal := ordered.same_row (fulfilled.stored other inPast) inLog same
  subst equal
  exact ⟨poll, member, by simpa using mine, accepted_of_past fulfilled.handed inPast⟩

end Accepted

section Moments

variable {namings : Namings} {topic : String} {system : System} {handle : Handle} {poll : Poll}

theorem Invariant.accepted_before {view : Database} {past rest : List LogRow} {row other : LogRow}
    (invariant : Invariant namings topic system)
    (underway : Underway namings topic poll.member system.storage.committed view poll.journal past
      (row :: rest))
    (inside : other ∈ (namings.log topic system.storage.committed).rows)
    (positive : 0 < other.offset) (before : other.offset < row.offset) :
    ∃ earlier, (earlier ∈ system.committed ∨ earlier = poll) ∧ earlier.group = poll.group ∧
      ∃ given, earlier.member.decode other = .ok given ∧
        (given, some .accepted) ∈ earlier.journal.handed := by
  have ordered := invariant.sound.ordered
  have split := Log.upTo_batch ordered.ascending (invariant.sound.within poll.group).1
    underway.batch
  have listed : other ∈ (namings.log topic system.storage.committed).upTo row.offset := by
    refine List.mem_filter.mpr ⟨inside, ?_⟩
    simp only [decide_eq_true_eq]
    omega
  -- Up to the bound the committed polls accepted, and above it this poll did.
  rw [split] at listed
  rcases List.mem_append.mp listed with below | inBatch
  · obtain ⟨earlier, member, mine, accepted⟩ := invariant.account.accepted ordered below
    exact ⟨earlier, .inl member, mine, accepted⟩
  · rcases List.mem_append.mp inBatch with inPast | isRow
    · exact ⟨poll, .inr rfl, rfl, accepted_of_past underway.handed inPast⟩
    · rw [List.mem_singleton.mp isRow] at before
      exact absurd before (Int.lt_irrefl _)

theorem Invariant.marked_alone {view : Database} {changed : Bool} {other : Handle} {another : Poll}
    (invariant : Invariant namings topic system)
    (held : system.storage.held? handle = some (.writing view changed)) (apart : other ≠ handle)
    (found : system.polls other = some another) (marked : another.journal.marked ≠ []) :
    system.storage.held? other = none := by
  obtain ⟨-, -, stage⟩ := invariant.polls other another found
  cases open_ : system.storage.held? other with
  | none => rfl
  | some hold =>
      rw [open_] at stage
      cases writes : Storage.isWriting hold with
      | false => exact absurd (stage.marked writes).marked marked
      | true =>
          exact absurd (invariant.consistent.single other handle hold _ open_ held writes rfl) apart

theorem Invariant.overtakes {winner : Handle} {committer : Poll} (verdict : Verdict)
    (valid : isTopic topic = true) (invariant : Invariant namings topic system)
    (apart : handle ≠ winner) (winning : system.polls winner = some committer)
    (commits : committer.script.commits = true) (acknowledged : committer.journal.acknowledged ≠ [])
    (found : system.polls handle = some poll) (claimed : poll.journal.claimed = true)
    (unended : system.storage.held? handle ≠ none) :
    Overtaken namings topic (system.storage.version + 1) handle 3
      (system.step namings topic (.advance winner verdict)) := by
  obtain ⟨next, script⟩ := Script.commit_of_commits commits
  obtain ⟨-, -, winnerStage⟩ := invariant.polls winner committer winning
  obtain ⟨given, -, stage⟩ := invariant.polls handle poll found
  have stepped : (system.step namings topic (.advance winner verdict)).storage =
      system.storage.commit winner := by
    simp only [System.step, winning, System.advance, script, Script.advance]
  have other : ∀ answer, Event.advance winner verdict ≠ .advance handle answer :=
    fun _ same => apart (Event.advance.inj same).1.symm
  obtain ⟨polls, held⟩ :=
    step_spares valid invariant (.advance winner verdict) given other Event.noConfusion
  rcases winnerStage.committing script with
    ⟨view, version, -, calm⟩ | ⟨view, past, rest, writes, -⟩
  · exact absurd calm.acknowledged acknowledged
  · have newest := (Storage.commit_written writes).2
    constructor
    · rw [stepped]
      exact Nat.lt_of_lt_of_le given (Storage.elsewhere_commit winner system.storage).fresh
    · rw [stepped]
      exact Nat.le_of_eq newest.symm
    · intro left remaining
      rw [polls, found] at remaining
      cases remaining
      rw [held poll found]
      cases open_ : system.storage.held? handle with
      | none => exact absurd open_ unended
      | some hold =>
          rw [open_] at stage
          -- The lock is held once, and the winner holds it.
          have free : Storage.isWriting hold = false := by
            cases writing : Storage.isWriting hold with
            | false => rfl
            | true =>
                exact absurd
                  (invariant.consistent.single handle winner hold _ open_ writes writing rfl) apart
          apply stage.stale claimed free
          intro view version reading
          have known := invariant.consistent.snapshot handle view version (reading ▸ open_)
          exact Nat.lt_succ_of_le known.1

end Moments

/-- When a poll hands a row over, no poll of its group that committed acknowledged it, all rows before
it were accepted, and no other poll that marked a row is open. A poll that has claimed when another
one commits an acknowledgment hands over nothing, and after three more steps it has ended. -/
theorem one_handler_at_a_time (namings : Namings) {topic : String}
    (valid : isTopic topic = true) {storage : Storage} (blank : namings.Blank topic storage)
    (events : List Event) :
    let system := System.run namings topic events { storage }
    let log := namings.log topic system.storage.committed
    (∀ handle poll delivery, system.polls handle = some poll →
      poll.script.handing? = some delivery →
      (∃ row ∈ log.rows, row.offset = delivery.offset ∧ poll.member.decode row = .ok delivery) ∧
      namings.acked topic system.storage.committed poll.group < delivery.offset ∧
      (∀ row ∈ log.rows, 0 < row.offset → row.offset < delivery.offset →
        ∃ earlier, (earlier ∈ system.committed ∨ earlier = poll) ∧ earlier.group = poll.group ∧
          ∃ given, earlier.member.decode row = .ok given ∧
            (given, some .accepted) ∈ earlier.journal.handed) ∧
      ∀ other another, other ≠ handle → system.polls other = some another →
        another.journal.marked ≠ [] → system.storage.held? other = none) ∧
    ∀ winner committer handle poll verdict later, handle ≠ winner →
      system.polls winner = some committer → committer.script.commits = true →
      committer.journal.acknowledged ≠ [] →
      system.polls handle = some poll → poll.journal.claimed = true →
      system.storage.held? handle ≠ none →
      let after := System.run namings topic (.advance winner verdict :: later) system
      ∀ left, after.polls handle = some left →
        left.journal.handed = [] ∧ left.script.handing? = none ∧
          (3 ≤ later.countP (Event.advances handle) → after.storage.held? handle = none) := by
  intro system log
  have invariant : Invariant namings topic system := blank.invariant.run valid events
  constructor
  · intro handle poll delivery found handing
    obtain ⟨next, script⟩ := Script.hand_of_handing handing
    obtain ⟨-, -, stage⟩ := invariant.polls handle poll found
    obtain ⟨view, changed, past, rest, row, held, decodes, underway⟩ :=
      stage.handing_of_hand valid script
    have offset := Member.decode_offset decodes
    have inBatch : row ∈ poll.member.batch namings topic system.storage.committed := by
      rw [underway.batch]
      simp
    obtain ⟨inLog, above⟩ := Log.batch_above inBatch
    refine ⟨⟨row, inLog, offset.symm, decodes⟩, offset ▸ above, ?_, ?_⟩
    · intro other inside positive before
      exact invariant.accepted_before underway inside positive (offset ▸ before)
    · intro other another apart running marked
      exact invariant.marked_alone held apart running marked
  · intro winner committer handle poll verdict later apart winning commits acknowledged found
      claimed unended after left remaining
    have overtaken := invariant.overtakes verdict valid apart winning commits acknowledged found
      claimed unended
    have ran := overtaken.run valid (invariant.step valid (.advance winner verdict)) later
    obtain ⟨count, few, stale⟩ := ran.stale left remaining
    refine ⟨stale.calm.handed, stale.unhanded valid, fun enough => ?_⟩
    have none : count = 0 := by omega
    subst none
    exact stale.ends

/-- In the race, one member has accepted the first message and is handed the second; after its commit
the other one has to leave. -/
theorem one_handler_at_a_time_race :
    isTopic "orders" = true ∧ Namings.usual.Blank "orders" { clock := newYear } ∧
      (let system := System.run Namings.usual "orders" (race.take 13) { storage := { clock := newYear } }
      ∃ poll delivery, system.polls 3 = some poll ∧ poll.script.handing? = some delivery ∧
        delivery.offset = 2 ∧
        Namings.usual.acked "orders" system.storage.committed poll.group < delivery.offset) ∧
      let system := System.run Namings.usual "orders" (race.take 15) { storage := { clock := newYear } }
      let after := System.run Namings.usual "orders"
        [.advance 3 .accepted, .advance 4 .accepted, .advance 4 .accepted, .advance 4 .accepted] system
      ∃ left, after.polls 4 = some left ∧ left.journal.handed = [] ∧
        after.storage.held? 4 = none := by
  have topic : isTopic "orders" = true := by decide
  have blank : Namings.usual.Blank "orders" { clock := newYear } := blank_new _ _ _
  refine ⟨topic, blank, ?_, ?_⟩
  · intro system
    have handing : ((system.polls 3).bind fun poll => poll.script.handing?).map Delivery.offset =
        some 2 := by decide +kernel
    obtain ⟨delivery, given, second⟩ := Option.map_eq_some_iff.mp handing
    obtain ⟨poll, found, hands⟩ := Option.bind_eq_some_iff.mp given
    have moment := (one_handler_at_a_time Namings.usual topic blank (race.take 13)).1 3 poll delivery
      found hands
    exact ⟨poll, delivery, found, hands, second, moment.2.1⟩
  · intro system after
    have winning : (system.polls 3).any (fun poll =>
        poll.script.commits && poll.journal.acknowledged ≠ []) = true := by decide +kernel
    have running : (system.polls 4).any (fun poll => poll.journal.claimed) = true := by
      decide +kernel
    have unended : (system.storage.held? 4).isSome = true := by decide +kernel
    have remains : (after.polls 4).isSome = true := by decide +kernel
    obtain ⟨committer, winner, commits⟩ := (Option.any_eq_true _ _).mp winning
    obtain ⟨poll, found, claimed⟩ := (Option.any_eq_true _ _).mp running
    obtain ⟨left, later⟩ := Option.isSome_iff_exists.mp remains
    have both : committer.script.commits = true ∧ committer.journal.acknowledged ≠ [] := by
      simpa using commits
    have moment := (one_handler_at_a_time Namings.usual topic blank (race.take 15)).2 3 committer 4
      poll .accepted [.advance 4 .accepted, .advance 4 .accepted, .advance 4 .accepted] (by decide)
      winner both.1 both.2 found claimed (Option.isSome_iff_ne_none.mp unended) left later
    exact ⟨left, later, moment.1, moment.2.2 (by decide)⟩

end TopicLog
