import TopicLog.Proofs.Undecodable

/-!
A poll commits exactly the rows of its batch that come before the first one that cannot be decoded.
-/
namespace TopicLog

section

variable {σ : Type} {namings : Namings} {topic : String} {member : Member} {handler : Handler σ}
  {state : σ} {storage : Storage} {log : Log} {cursors : List CursorRow} {bound : Int}
  {played : Played (Except Failure Nat) σ}

/-- The batch of a poll: the first rows above the bound. -/
def Member.taken (member : Member) (log : Log) (bound : Int) : List LogRow :=
  (log.rows.filter fun row => bound < row.offset).take member.effectiveBatchSize

theorem taken_eq (member : Member) (log : Log) (bound : Int) :
    log.after (.int bound) member.effectiveBatchSize = member.taken log bound :=
  log.after_int bound member.effectiveBatchSize

theorem taken_nil : member.taken log bound = [] ↔ ∀ row ∈ log.rows, row.offset ≤ bound := by
  have positive : member.effectiveBatchSize ≠ 0 := Nat.ne_of_gt member.effectiveBatchSize_positive
  simp [Member.taken, List.take_eq_nil_iff, positive, List.filter_eq_nil_iff]

theorem Plays.rewritten
    (plays : Plays member (namings.cursorTable topic) handler (member.taken log bound) 0 cursors
      state storage.snapshot played) {last : LogRow}
    (reached : (member.decodable (member.taken log bound)).getLast? = some last) :
    ∃ rewritten,
      played.scene.committed =
        storage.committed.put (namings.cursorTable topic) (.cursors rewritten) ∧
      Cursors.find? member.group rewritten =
        some ⟨.text member.group, .int last.offset, .int last.offset⟩ ∧
      rewritten.filter (fun row => row.group ≠ .text member.group) =
        cursors.filter fun row => row.group ≠ .text member.group := by
  refine ⟨_, plays.moved last reached, ?_, Cursors.others_upsert (by simp) rfl cursors⟩
  rw [Cursors.find_acknowledge]
  cases found : Cursors.find? member.group cursors with
  | none => rfl
  | some row =>
      have named : row.group = .text member.group := by
        simpa using List.find?_some found
      simp [named]

theorem Plays.next (valid : isTopic topic = true) (arranged : log.Arranged)
    (tables : namings.Tables topic storage.committed log cursors)
    (bounded : Cursors.bound member.group cursors = .int bound)
    (plays : Plays member (namings.cursorTable topic) handler (member.taken log bound) 0 cursors
      state storage.snapshot played) {row : LogRow} {rest : List LogRow}
    (split : member.taken log bound =
      member.decodable (member.taken log bound) ++ row :: rest) :
    namings.Next topic member.group row played.scene.committed := by
  have batch := (taken_eq member log bound).trans split
  have inBatch : row ∈ log.after (.int bound) member.effectiveBatchSize := batch ▸ by simp
  obtain ⟨inLog, -⟩ := Log.batch_above inBatch
  have above := Log.reached_lt arranged.ascending batch
  have smallest : ∀ other ∈ log.rows,
      Log.reached bound (member.decodable (member.taken log bound)) < other.offset →
        row.offset ≤ other.offset :=
    fun other member high => Log.batch_smallest arranged.ascending batch member high
  -- The new bound is the last row that was delivered, or the old one if there is none.
  cases reached : (member.decodable (member.taken log bound)).getLast? with
  | none =>
      have nothing := List.getLast?_eq_none_iff.mp reached
      rw [nothing] at above smallest
      rw [plays.kept nothing]
      exact ⟨log, cursors, bound, tables, bounded, inLog, above, smallest⟩
  | some last =>
      have moved : Log.reached bound (member.decodable (member.taken log bound)) = last.offset := by
        rw [Log.reached, reached]
        rfl
      rw [moved] at above smallest
      rw [plays.moved last reached]
      exact ⟨log, _, last.offset, tables.put_cursors valid _, Cursors.bound_acknowledge _ _ _,
        inLog, above, smallest⟩

theorem ending_taken (decodes : member.decodable (member.taken log bound) ≠ member.taken log bound) :
    ∃ row rest failure,
      member.taken log bound = member.decodable (member.taken log bound) ++ row :: rest ∧
      member.decode row = .error failure ∧
      member.ending 0 (member.taken log bound) = .error failure := by
  have whole : member.decodable (member.taken log bound) ++
      (member.taken log bound).dropWhile member.decodes = member.taken log bound :=
    List.takeWhile_append_dropWhile
  cases left : (member.taken log bound).dropWhile member.decodes with
  | nil =>
      rw [left, List.append_nil] at whole
      exact absurd whole decodes
  | cons row rest =>
      rw [left] at whole
      obtain ⟨failure, undecodable, ends⟩ := Member.ending_of_split 0 whole.symm
      exact ⟨row, rest, failure, whole.symm, undecodable, ends⟩

end

/-- A poll whose handler accepts everything commits exactly what can be decoded of its batch. It hands
over those rows in their order, moves both offsets of the group to the last of them and writes no other
row. If that is the whole batch then their number is the result. Otherwise the result is the failure of
the row after them, which now is the next one for the group, and with which every further poll ends
while it is so. -/
theorem poll_commits_decodable_prefix {σ : Type} (namings : Namings) (topic : String)
    (member : Member) (handler : Handler σ) (state : σ) (storage : Storage) (log : Log)
    (cursors : List CursorRow) (bound : Int) (valid : isTopic topic = true)
    (accepts : ∀ delivery state, (handler delivery state).1 = some .accepted)
    (alone : storage.holds = []) (arranged : storage.committed.Arranged)
    (tables : namings.Tables topic storage.committed log cursors)
    (bounded : Cursors.bound member.group cursors = .int bound)
    (size : member.effectiveBatchSize ≤ Value.greatestInteger) :
    let batch := (log.rows.filter fun row => bound < row.offset).take member.effectiveBatchSize
    let decodable := batch.takeWhile member.decodes
    let result := ((member.subscriber namings).poll topic handler state storage).1
    let after := ((member.subscriber namings).poll topic handler state storage).2.2
    (∃ deliveries : List Delivery,
        deliveries.map Except.ok = decodable.map member.decode ∧
        ((member.subscriber namings).journal topic handler state storage).handed =
          deliveries.map (fun delivery => (delivery, some .accepted)) ∧
        ((member.subscriber namings).poll topic handler state storage).2.1 =
          deliveries.foldl (fun state delivery => (handler delivery state).2) state) ∧
      (decodable = [] → after.committed = storage.committed) ∧
      (∀ last, decodable.getLast? = some last → ∃ rewritten,
        after.committed =
          storage.committed.put (namings.cursorTable topic) (.cursors rewritten) ∧
        Cursors.find? member.group rewritten =
          some ⟨.text member.group, .int last.offset, .int last.offset⟩ ∧
        rewritten.filter (fun row => row.group ≠ .text member.group) =
          cursors.filter fun row => row.group ≠ .text member.group) ∧
      (decodable = batch → result = some (.ok batch.length)) ∧
      (result = some (.ok 0) ↔ ∀ row ∈ log.rows, row.offset ≤ bound) ∧
      (decodable ≠ batch → ∃ row rest failure, batch = decodable ++ row :: rest ∧
        member.decode row = .error failure ∧ result = some (.error failure) ∧
        (∀ place reason cause, failure = .decode place reason cause → place = some row.offset) ∧
        namings.Next topic member.group row after.committed ∧
        namings.Stuck topic member.group row after ∧
        (∀ later, namings.Further topic member.group member.codec after later →
          namings.Stuck topic member.group row later) ∧
        ∀ later, namings.Stuck topic member.group row later →
          ∀ {τ : Type} (other : Member) (handler : Handler τ) (state : τ),
            other.group = member.group → other.codec = member.codec →
            other.effectiveBatchSize ≤ Value.greatestInteger →
            ((other.subscriber namings).poll topic handler state later).1 =
                some (.error failure) ∧
              ((other.subscriber namings).poll topic handler state later).2.1 = state ∧
              ((other.subscriber namings).journal topic handler state later).handed = [] ∧
              later.Alike ((other.subscriber namings).poll topic handler state later).2.2) := by
  intro batch decodable result after
  have ordered : log.Arranged := arranged.contents tables.messages
  have fresh := Storage.fresh_of_closed alone
  have plays : Plays member (namings.cursorTable topic) handler (member.taken log bound) 0 cursors
      state storage.snapshot ((member.subscriber namings).played topic handler state storage) :=
    taken_eq member log bound ▸
      poll_plays state valid accepts alone ordered tables bounded size
  have ended : result = some (member.ending 0 batch) := plays.result
  refine ⟨?_, ?_, fun last => plays.rewritten, ?_, ?_, ?_⟩
  · exact ⟨member.deliveries batch, Member.deliveries_decode batch, plays.handed, plays.state⟩
  · intro nothing
    exact congrArg Scene.committed (plays.kept nothing)
  · intro whole
    rw [ended, Member.ending_of_all whole, Nat.zero_add]
  · constructor
    · intro none
      by_cases whole : decodable = batch
      · rw [ended, Member.ending_of_all whole, Nat.zero_add] at none
        have count : batch.length = 0 := Except.ok.inj (Option.some.inj none)
        exact taken_nil.mp (List.length_eq_zero_iff.mp count)
      · obtain ⟨row, rest, failure, -, -, ends⟩ := ending_taken whole
        have fails : result = some (.error failure) := ended.trans (congrArg some ends)
        cases none.symm.trans fails
    · intro low
      have empty : batch = [] := taken_nil.mpr low
      rw [ended, empty]
      rfl
  · intro partly
    obtain ⟨row, rest, failure, split, undecodable, ends⟩ := ending_taken partly
    have next : namings.Next topic member.group row after.committed :=
      plays.next valid ordered tables bounded split
    have holds : after.holds = [] := by
      have kept : after.holds = storage.holds :=
        Subscriber.poll_holds (member.subscriber namings) topic handler state fresh
      rw [kept, alone]
    have stuck : namings.Stuck topic member.group row after := by
      have every : storage.Arranged := by
        constructor
        · exact arranged
        · intro entry inside
          rw [alone] at inside
          cases inside
      have left := (member.subscriber namings).poll_arranged topic handler state every
      refine ⟨Subscriber.poll_fresh _ topic handler state fresh, ⟨left.committed, next⟩, ?_⟩
      · intro entry inside
        rw [holds] at inside
        cases inside
    refine ⟨row, rest, failure, split, undecodable, ended.trans (congrArg some ends), ?_, next,
      stuck, ?_, ?_⟩
    · intro place reason cause same
      subst same
      rcases Member.failed_decode undecodable with ⟨_, _, other⟩ | ⟨_, _, named⟩
      · cases other
      · cases named
        rfl
    · intro later further
      exact stuck.further valid undecodable further
    · intro later still τ other handler state group codec small
      have again : other.decode row = .error failure := by
        rw [Member.decode, codec]
        exact undecodable
      rw [← group] at still
      obtain ⟨failed, unmoved, unhanded, alike, -⟩ :=
        still.poll handler state valid again small
      exact ⟨failed, unmoved, unhanded, alike⟩

def brokenSecond : Storage :=
  let publisher : Publisher := { layout := Namings.usual.layout defaultBatchSize .json }
  let member : Member := { settings := { group := "billing" } }
  let published := publisher.publish "orders" [{ payload := [1] }] { clock := newYear }
  let inserted := published.2.2.autocommit (.insertRow (Namings.usual.messageTable "orders")
    { uuid := some (.text "lost"), payload := some (.blob [2]), metadata := some (.blob [2]) })
  let completed := publisher.publish "orders" [{ payload := [3] }] inserted.2
  ((member.subscriber .usual).setUp "orders" completed.2.2).2

def acceptAll : Handler Unit := fun _ state => (some .accepted, state)

/-- The first message is delivered, and the third one never. -/
theorem poll_commits_decodable_prefix_broken :
    let member : Member := { settings := { group := "billing" } }
    let after := ((member.subscriber .usual).poll "orders" acceptAll () brokenSecond).2.2
    brokenSecond.holds = [] ∧ brokenSecond.committed.Arranged ∧
      ∃ row failure, row.offset = 2 ∧ member.decode row = .error failure ∧
        ((member.subscriber .usual).poll "orders" acceptAll () brokenSecond).1 =
          some (.error failure) ∧
        ((member.subscriber .usual).journal "orders" acceptAll () brokenSecond).handed.map
          (fun given => given.1.offset) = [1] ∧
        Namings.usual.Stuck "orders" "billing" row after := by
  intro member after
  have alone : brokenSecond.holds = [] := by decide +kernel
  have arranged : brokenSecond.committed.Arranged := by decide +kernel
  have tables : Namings.usual.Tables "orders" brokenSecond.committed
      (Namings.usual.log "orders" brokenSecond.committed)
      (Namings.usual.cursorRows "orders" brokenSecond.committed) :=
    ⟨by decide +kernel, by decide +kernel⟩
  obtain ⟨-, -, -, -, -, stops⟩ := poll_commits_decodable_prefix .usual "orders" member acceptAll ()
    brokenSecond _ _ 0 (by decide) (fun _ _ => rfl) alone arranged tables (by decide +kernel)
    (by decide)
  obtain ⟨row, rest, failure, split, undecodable, failed, -, -, stuck, -⟩ :=
    stops (by decide +kernel)
  have second : row.offset = 2 := by
    have first : (member.decodable (member.taken
        (Namings.usual.log "orders" brokenSecond.committed) 0)).map LogRow.offset = [1] := by
      decide +kernel
    have all : (member.taken (Namings.usual.log "orders" brokenSecond.committed) 0).map
        LogRow.offset = [1, 2, 3] := by
      decide +kernel
    have offsets : [1, 2, 3] = [1] ++ row.offset :: rest.map LogRow.offset := by
      rw [← all, ← first, ← List.map_cons, ← List.map_append]
      exact congrArg (List.map LogRow.offset) split
    exact (List.cons.inj (List.cons.inj offsets).2).1.symm
  exact ⟨alone, arranged, row, failure, second, undecodable, failed, by decide +kernel, stuck⟩

end TopicLog
