import Mathlib.Data.List.TakeWhile
import TopicLog.Proofs.ClaimedBatch
import TopicLog.Proofs.DecodablePrefix
import TopicLog.Proofs.Dialects
import TopicLog.Proofs.TimestampText

/-!
Which batch sizes work. A batch size stands in a selection in decimal, and what is read there is an
integer of 64 bits, or else a double. Up to the greatest integer every size works, whatever a topic
holds. From there on the limit is a double beyond all integers: no selection succeeds, and a poll fails
after its claim.
-/
namespace TopicLog

/-! The limit as a statement spells it. -/

namespace Binary64

theorem exponent_one {n : Nat} (positive : n ≠ 0) : exponent n 1 = n.log2 := by
  have one : Nat.log2 1 = 0 := rfl
  have reached : 1 <<< n.log2 ≤ n := by
    rw [Nat.one_shiftLeft]
    exact Nat.log2_self_le positive
  simp [exponent, one, reached]

theorem div_le_divideEven (num den : Nat) : num / den ≤ divideEven num den := by
  unfold divideEven
  dsimp only
  split
  · exact Nat.le_refl _
  · split
    · exact Nat.le_succ _
    · exact Nat.le_add_right _ _

theorem roundQuotient_large {n : Nat} (large : 2 ^ 63 ≤ n) :
    ∃ whole : Nat, roundQuotient n 1 = whole ∧ 2 ^ 63 ≤ whole := by
  have positive : n ≠ 0 := by omega
  have high : 63 ≤ n.log2 := (Nat.le_log2 positive).mpr large
  have step : max (exponent n 1 - 52) (-1074) = ((n.log2 - 52 : Nat) : Int) := by
    rw [exponent_one positive]
    omega
  -- Of the bits of the number, the highest is among those that are kept.
  have bits : 2 ^ 52 ≤ n / 2 ^ (n.log2 - 52) := by
    rw [Nat.le_div_iff_mul_le (Nat.two_pow_pos _), ← Nat.pow_add]
    apply Nat.le_trans _ (Nat.log2_self_le positive)
    exact Nat.pow_le_pow_right (by decide) (by omega)
  refine ⟨divideEven n (1 <<< (n.log2 - 52)) <<< (n.log2 - 52), ?_, ?_⟩
  · simp only [roundQuotient, step]
    simp
  · rw [Nat.one_shiftLeft, Nat.shiftLeft_eq]
    calc 2 ^ 63 ≤ 2 ^ 52 * 2 ^ (n.log2 - 52) := by
          rw [← Nat.pow_add]
          exact Nat.pow_le_pow_right (by decide) (by omega)
      _ ≤ n / 2 ^ (n.log2 - 52) * 2 ^ (n.log2 - 52) := Nat.mul_le_mul_right _ bits
      _ ≤ _ := Nat.mul_le_mul_right _ (div_le_divideEven n _)

end Binary64

namespace Value

/-- What a limit is read as that a statement spells in decimal. -/
def literal? (limit : Nat) : Option Value := (numeral? (toString limit).toList).map ofNumeral

theorem isPad_digit {c : Char} (digit : Decimal.isDigit c) : isPad c = false := by
  have bounds := Decimal.digit_bounds digit
  have blank : c ≠ ' ' := by
    rintro rfl
    exact absurd bounds.1 (by decide)
  simp only [isPad, blank, decide_false, Bool.false_or, Bool.and_eq_false_iff,
    decide_eq_false_iff_not]
  omega

theorem dropWhile_digits {digits : List Char} (all : ∀ c ∈ digits, Decimal.isDigit c) :
    digits.dropWhile isPad = digits := by
  cases digits with
  | nil => rfl
  | cons c rest =>
      rw [List.dropWhile_cons_of_neg]
      simp [isPad_digit (all c List.mem_cons_self)]

theorem numeral_digits {digits : List Char} (nonempty : digits ≠ [])
    (all : ∀ c ∈ digits, Decimal.isDigit c) :
    numeral? digits = some ⟨false, digits, none, none⟩ := by
  have trimmed : ((digits.dropWhile isPad).reverse.dropWhile isPad).reverse = digits := by
    rw [dropWhile_digits all, dropWhile_digits, List.reverse_reverse]
    exact fun c member => all c (List.mem_reverse.mp member)
  have unsigned (sign : Char) (other : Decimal.isDigit sign = false) :
      digits.head? ≠ some sign := by
    intro first
    have digit := all sign (List.mem_of_head? first)
    rw [other] at digit
    cases digit
  have whole : digits.takeWhile Decimal.isDigit = digits :=
    List.takeWhile_eq_self_iff.mpr all
  simp [numeral?, trimmed, unsigned '-' rfl, unsigned '+' rfl, whole, nonempty]

theorem value_toDigits (n : Nat) : Decimal.value (Nat.toDigits 10 n) = n := by
  have unpadded : Decimal.padded 0 n = Nat.toDigits 10 n := by simp [Decimal.padded]
  rw [← unpadded, Decimal.value_padded]

theorem literal_eq (limit : Nat) :
    literal? limit = some (ofNumeral ⟨false, Nat.toDigits 10 limit, none, none⟩) := by
  have text : (toString limit).toList = Nat.toDigits 10 limit := by
    rw [Nat.toString_eq_repr, Nat.toList_repr]
  rw [literal?, text, numeral_digits Nat.toDigits_ne_nil]
  · rfl
  · intro c member
    rw [Decimal.isDigit_eq]
    exact Nat.isDigit_of_mem_toDigits (by decide) (by decide) member

theorem literal_integer {limit : Nat} (small : limit ≤ greatestInteger) :
    literal? limit = some (.int limit) := by
  have least : leastInteger ≤ limit := by
    unfold leastInteger
    omega
  rw [literal_eq, ofNumeral, Numeral.spelled?]
  simp [value_toDigits, least, small]

theorem literal_double {limit : Nat} (large : greatestInteger < limit) :
    ∃ whole : Nat, literal? limit = some (.real whole) ∧ greatestInteger < whole := by
  have high : 2 ^ 63 ≤ limit := by
    unfold greatestInteger at large
    omega
  -- It is spelled as an integer, but one that does not fit, and so becomes a double.
  have unspelled : Numeral.spelled? ⟨false, Nat.toDigits 10 limit, none, none⟩ = none := by
    simp [Numeral.spelled?, value_toDigits, large]
  obtain ⟨whole, rounds, beyond⟩ := Binary64.roundQuotient_large high
  have double : Numeral.double ⟨false, Nat.toDigits 10 limit, none, none⟩ = whole := by
    have nonzero : limit ≠ 0 := by omega
    simp [Numeral.double, value_toDigits, nonzero, rounds]
  have greater : greatestInteger < whole := by
    unfold greatestInteger
    omega
  refine ⟨whole, ?_, greater⟩
  rw [literal_eq, ofNumeral, unspelled, double, ofDouble, if_neg]
  simp only [Rat.num_natCast]
  omega

end Value

/-! Members and their batches. -/

/-- What a batch size is to do. In any transaction, whatever was done in it, a selection returns the
first rows above the bound that it reads. A poll while no other transaction has written, with a handler
that accepts everything, acknowledges as many if they can be decoded, and comes further if there are any. -/
structure Member.Works (member : Member) (namings : Namings) (topic : String) : Prop where
  selects : ∀ (storage : Storage) (events : List ReaderEvent), storage.Fresh → storage.Arranged →
    let names := namings.names
    let reader := Reader.run names topic events (.opened member.group storage)
    let view := reader.storage.view reader.handle
    ∀ log value, view.contents? (names.messageTable topic) = some (.log log) →
      view.bound (names.claim topic member.group) = .ok value →
      let above := log.rows.filter fun row => value.belowInteger row.offset
      above.Pairwise (fun a b => a.offset < b.offset) ∧
        reader.selected names topic member.batchSize member.codec =
          .ok ((above.take member.effectiveBatchSize).map Log.columns)
  progresses : ∀ {σ : Type} (handler : Handler σ) (state : σ) (storage : Storage) (log : Log)
      (cursors : List CursorRow) (bound : Int),
    (∀ delivery state, (handler delivery state).1 = some .accepted) →
    storage.Fresh → (∀ entry ∈ storage.holds, Storage.isWriting entry.2 = false) →
    storage.committed.Arranged →
    namings.Tables topic storage.committed log cursors →
    Cursors.bound member.group cursors = .int bound →
    let above := log.rows.filter fun row => bound < row.offset
    let batch := above.take member.effectiveBatchSize
    (∀ row ∈ batch, ∃ delivery, member.decode row = .ok delivery) →
    let polled := (member.subscriber namings).poll topic handler state storage
    polled.1 = some (.ok (min member.effectiveBatchSize above.length)) ∧
      (above ≠ [] → ∃ last, batch.getLast? = some last ∧ bound < last.offset ∧
        polled.2.2.committed.bound (namings.claim topic member.group) = .ok (.int last.offset))

/-- What a batch size does that is no limit. Every selection fails that finds its tables, and so does
every poll that is told its bound; it hands nothing over and leaves no trace. -/
structure Member.Fails (member : Member) (namings : Namings) (topic : String) : Prop where
  selects : ∀ (storage : Storage) (events : List ReaderEvent), storage.Fresh → storage.Arranged →
    let names := namings.names
    let reader := Reader.run names topic events (.opened member.group storage)
    let view := reader.storage.view reader.handle
    ∀ log value, view.contents? (names.messageTable topic) = some (.log log) →
      view.bound (names.claim topic member.group) = .ok value →
      reader.selected names topic member.batchSize member.codec = .error (.ofFault .mismatch)
  polls : ∀ {σ : Type} (handler : Handler σ) (state : σ) (storage : Storage) (log : Log)
      (cursors : List CursorRow) (bound : Int),
    storage.Fresh → namings.Tables topic storage.committed log cursors →
    Cursors.bound member.group cursors = .int bound →
    let polled := (member.subscriber namings).poll topic handler state storage
    polled.1 = some (.error (.ofFault .mismatch)) ∧ polled.2.1 = state ∧
      ((member.subscriber namings).journal topic handler state storage).handed = [] ∧
      Subscriber.Traceless storage polled.2.2

section

variable {names : Names} {namings : Namings} {topic : String} {member : Member}

theorem Member.selected_run (valid : isTopic topic = true) {storage : Storage}
    (fresh : storage.Fresh) (arranged : storage.Arranged) (events : List ReaderEvent) {log : Log}
    {value : Value} :
    let reader := Reader.run names topic events (.opened member.group storage)
    let view := reader.storage.view reader.handle
    view.contents? (names.messageTable topic) = some (.log log) →
    view.bound (names.claim topic member.group) = .ok value →
    log.Arranged ∧ reader.selected names topic member.batchSize member.codec =
      if Value.greatestInteger < member.effectiveBatchSize then .error (.ofFault .mismatch)
      else .ok ((log.after value member.effectiveBatchSize).map Log.columns) := by
  intro reader view messages bounded
  have sound : reader.Sound names topic :=
    (Reader.sound_opened fresh arranged member.group).run valid events
  have group : reader.group = member.group :=
    (Reader.continues_run names valid _ events).group
  constructor
  · exact (sound.arranged.view reader.handle).contents messages
  · rw [← group] at bounded
    exact Reader.selected_of_bound valid sound.unprimed messages bounded member.batchSize
      member.codec

theorem Member.fetch_sql (member : Member) (names : Names) (valid : isTopic topic = true) :
    ∃ statement text,
      (names.layout member.batchSize member.codec).fetch topic member.group names.cursorLayout =
        .ok statement ∧
      statement.sql = text ++ " ASC\nLIMIT " ++ toString member.effectiveBatchSize := by
  have built := names.fetch_built member.group valid member.batchSize member.codec
  have spelled : ∃ text, Statement.sql ⟨.sqlite, .fetch (names.messageTable topic)
      (names.claim topic member.group) member.effectiveBatchSize⟩ =
        text ++ " ASC\nLIMIT " ++ toString member.effectiveBatchSize := by
    rw [Statement.sql_fetch, Dialect.selection]
    simp only [String.join_cons, String.join_nil, String.append_empty, ← String.append_assoc]
    exact ⟨_, rfl⟩
  obtain ⟨text, spelled⟩ := spelled
  exact ⟨_, text, built, spelled⟩

theorem play_mismatch {σ : Type} (handler : Handler σ) (state : σ) {storage : Storage} {log : Log}
    {cursors : List CursorRow} (tables : namings.Tables topic storage.committed log cursors)
    (large : Value.greatestInteger < member.effectiveBatchSize) :
    (member.fetching namings topic).play handler state storage.snapshot =
      ⟨some (.error (.ofFault .mismatch)), state, storage.snapshot.rollback,
        [.executed (.run (member.fetch namings topic).action) (.error .mismatch), .rolledBack]⟩ := by
  have planned : storage.snapshot.view.plan storage.snapshot.clock
      (.run (member.fetch namings topic).action) = .ok ⟨false, .error .mismatch⟩ := by
    have found := Database.fetch_of_log (namings.claim topic member.group)
      member.effectiveBatchSize tables.messages tables.cursors
    rw [if_pos large] at found
    exact found
  have failed : storage.snapshot.execute (.run (member.fetch namings topic).action) =
      (.error .mismatch, storage.snapshot) := by
    simp only [Scene.execute, planned, Bool.false_and, Bool.false_eq_true, if_false]
    rfl
  simp only [Member.fetching, Script.statement, Script.play, failed]

theorem Member.fails (valid : isTopic topic = true)
    (large : Value.greatestInteger < member.effectiveBatchSize) : member.Fails namings topic where
  selects storage events fresh arranged := by
    intro names reader view log value messages bounded
    have selects := (selected_run valid fresh arranged events messages bounded).2
    rw [if_pos large] at selects
    exact selects
  polls handler state storage log cursors bound fresh tables bounded := by
    have played : (member.subscriber namings).played topic handler state storage = _ :=
      poll_claiming handler member state valid fresh
    -- The claim is answered and the fetch is not, so the transaction ends without a commit.
    rw [play_claim handler state tables bounded, play_mismatch handler state tables large] at played
    refine ⟨congrArg Played.result played, congrArg Played.state played, ?_, ?_⟩
    · exact congrArg (fun played => played.journal.handed) played
    · exact Subscriber.poll_uncommitted fresh
        (congrArg (fun played => played.journal.isCommitted) played)

theorem Plays.bound_moved {σ : Type} {handler : Handler σ} {state : σ} {storage : Storage} {log : Log}
    {cursors : List CursorRow} {rows : List LogRow} {count : Nat} {last : LogRow}
    (tables : namings.Tables topic storage.committed log cursors)
    (plays : Plays member (namings.cursorTable topic) handler rows count cursors state
      storage.snapshot ((member.subscriber namings).played topic handler state storage))
    (reached : (member.decodable rows).getLast? = some last) :
    ((member.subscriber namings).poll topic handler state storage).2.2.committed.bound
      (namings.claim topic member.group) = .ok (.int last.offset) := by
  have committed : ((member.subscriber namings).poll topic handler state storage).2.2.committed =
      storage.committed.put (namings.cursorTable topic)
        (.cursors (Cursors.acknowledge member.group last.offset cursors)) := plays.moved last reached
  rw [committed]
  have held : (storage.committed.put (namings.cursorTable topic)
      (.cursors (Cursors.acknowledge member.group last.offset cursors))).contents?
        (namings.claim topic member.group).table = some (.cursors _) :=
    Database.contents_put_held _ tables.cursors
  exact (Database.bound_of_cursors _ held).trans
    (congrArg Except.ok (Cursors.bound_acknowledge _ _ _))

theorem Member.works (valid : isTopic topic = true)
    (small : member.effectiveBatchSize ≤ Value.greatestInteger) : member.Works namings topic where
  selects storage events fresh arranged := by
    intro names reader view log value messages bounded above
    obtain ⟨ordered, selects⟩ := selected_run valid fresh arranged events messages bounded
    rw [if_neg (Int.not_lt.mpr small)] at selects
    exact ⟨ordered.ascending.filter _, selects⟩
  progresses handler state storage log cursors bound accepts fresh idle arranged tables bounded := by
    intro above batch decodes polled
    have whole : member.decodable batch = batch :=
      List.takeWhile_eq_self_iff.mpr fun row member => decodes_iff.mpr (decodes row member)
    have willing : Willing handler (fun _ => True)
        (member.deliveries (log.after (.int bound) member.effectiveBatchSize)) :=
      fun delivery _ state _ => ⟨accepts delivery state, trivial⟩
    have plays : Plays member (namings.cursorTable topic) handler
        (log.after (.int bound) member.effectiveBatchSize) 0 cursors state storage.snapshot
        ((member.subscriber namings).played topic handler state storage) :=
      poll_plays_willing valid willing trivial fresh (Storage.snapshot_unlocked idle)
        (arranged.contents tables.messages) tables bounded small
    rw [Log.after_int] at plays
    -- Every row of the batch is delivered, so the bound comes to the last one.
    constructor
    · have result := plays.result
      rw [ending_of_all whole, Nat.zero_add, List.length_take] at result
      exact result
    · intro rows
      have filled : batch ≠ [] := by
        have positive := member.effectiveBatchSize_positive
        simp only [batch, ne_eq, List.take_eq_nil_iff, not_or]
        exact ⟨Nat.ne_of_gt positive, rows⟩
      have last := List.getLast?_eq_some_getLast filled
      have inBatch : batch.getLast filled ∈ above := List.mem_of_mem_take (List.getLast_mem filled)
      refine ⟨batch.getLast filled, last, ?_, ?_⟩
      · simpa using (List.mem_filter.mp inBatch).2
      · exact plays.bound_moved tables (whole.symm ▸ last)

def Namings.blank (namings : Namings) (topic : String) : Storage where
  clock := newYear
  committed :=
    { tables := [⟨namings.messageTable topic, .log {}⟩, ⟨namings.cursorTable topic, .cursors []⟩] }

theorem Namings.blank_tables (namings : Namings) (valid : isTopic topic = true) :
    namings.Tables topic (namings.blank topic).committed {} [] where
  messages := by
    simp [Database.contents?, Database.table?, blank, sameName_refl]
  cursors := by
    have apart : sameName (namings.messageTable topic) (namings.cursorTable topic) = false :=
      namings.apart topic valid
    simp [Database.contents?, Database.table?, blank, sameName_refl, apart]

theorem Namings.blank_arranged (namings : Namings) (topic : String) :
    (namings.blank topic).committed.Arranged := by
  simp [Database.Arranged, Contents.Arranged, blank, Log.arranged_empty]

theorem Member.not_works (valid : isTopic topic = true)
    (large : Value.greatestInteger < member.effectiveBatchSize) : ¬ member.Works namings topic := by
  intro works
  have tables := namings.blank_tables valid
  have fails : member.Fails namings topic := Member.fails valid large
  have polls := fails.polls acceptAll () (namings.blank topic) {} [] 0 (Storage.fresh_of_closed rfl)
    tables rfl
  have progresses := works.progresses acceptAll () (namings.blank topic) {} [] 0 (fun _ _ => rfl)
    (Storage.fresh_of_closed rfl) (fun _ member => absurd member List.not_mem_nil)
    (namings.blank_arranged topic) tables rfl (by simp)
  cases progresses.1.symm.trans polls.1

end

/-- A batch size works exactly if the limit that it puts into a selection is read as an integer, which it
is up to the greatest one. A larger limit is read as a double beyond all integers; then every selection
and every poll fails, and polls leave no trace. -/
theorem batch_sizes_work_up_to_greatest_integer (namings : Namings) {topic : String}
    (valid : isTopic topic = true) (member : Member) :
    (∃ statement text,
      (namings.layout member.batchSize member.codec).fetch topic member.group
        namings.cursorLayout = .ok statement ∧
      statement.sql = text ++ " ASC\nLIMIT " ++ toString member.effectiveBatchSize) ∧
    (member.Works namings topic ↔ member.effectiveBatchSize ≤ Value.greatestInteger) ∧
    (member.effectiveBatchSize ≤ Value.greatestInteger →
      Value.literal? member.effectiveBatchSize = some (.int member.effectiveBatchSize)) ∧
    (Value.greatestInteger < member.effectiveBatchSize →
      member.Fails namings topic ∧
        ∃ whole : Nat, Value.literal? member.effectiveBatchSize = some (.real whole) ∧
          Value.greatestInteger < whole) := by
  refine ⟨member.fetch_sql namings.names valid, ?_, Value.literal_integer, ?_⟩
  · constructor
    · intro works
      by_contra large
      exact Member.not_works valid (Int.not_le.mp large) works
    · exact Member.works valid
  · intro large
    exact ⟨Member.fails valid large, Value.literal_double large⟩

def unread : Storage :=
  let publisher : Publisher := { layout := Namings.usual.layout defaultBatchSize .json }
  let member : Member := { settings := { group := "billing" } }
  let published := publisher.publish "orders" [{ payload := [1] }] { clock := newYear }
  ((member.subscriber .usual).setUp "orders" published.2.2).2.begin.2

theorem unread_fresh : unread.Fresh := by
  unfold Storage.Fresh
  decide +kernel

def choosing (batchSize : Nat) : Member := { settings := { group := "billing" }, batchSize }

theorem unread_tables : Namings.usual.Tables "orders" unread.committed
    (Namings.usual.log "orders" unread.committed) [] :=
  ⟨by decide +kernel, by decide +kernel⟩

/-- The greatest integer is the last batch size with which the message is delivered. -/
theorem batch_sizes_work_up_to_greatest_integer_orders :
    isTopic "orders" = true ∧
      (((choosing 9223372036854775807).subscriber .usual).poll "orders" acceptAll () unread).1 =
        some (.ok 1) ∧
      (((choosing 9223372036854775808).subscriber .usual).poll "orders" acceptAll () unread).1 =
        some (.error (.ofFault .mismatch)) := by
  have valid : isTopic "orders" = true := by decide
  have one : ((Namings.usual.log "orders" unread.committed).rows.filter fun row =>
      0 < row.offset).length = 1 := by decide +kernel
  have works := (batch_sizes_work_up_to_greatest_integer .usual valid
    (choosing 9223372036854775807)).2.1.mpr (by decide)
  have fails := ((batch_sizes_work_up_to_greatest_integer .usual valid
    (choosing 9223372036854775808)).2.2.2 (by decide)).1
  have decodes : ∀ row ∈ ((Namings.usual.log "orders" unread.committed).rows.filter fun row =>
      0 < row.offset).take (choosing 9223372036854775807).effectiveBatchSize,
      (choosing 9223372036854775807).decodes row = true := by decide +kernel
  refine ⟨valid, ?_, ?_⟩
  · have progresses := works.progresses acceptAll () unread _ [] 0 (fun _ _ => rfl) unread_fresh
      (by decide +kernel) (by decide +kernel) unread_tables rfl fun row member =>
        Member.decodes_iff.mp (decodes row member)
    rw [one] at progresses
    exact progresses.1
  · have polls := fails.polls acceptAll () unread _ [] 0 unread_fresh unread_tables rfl
    exact polls.1

/-- A batch size of 64 bits need not be an integer, and then the next message is never delivered. -/
theorem batch_size_beyond_integers_fails :
    ¬ (∀ batchSize < 2 ^ 64, (choosing batchSize).Works .usual "orders") ∧
      (((choosing (2 ^ 63)).subscriber .usual).poll "orders" acceptAll () unread).1 =
        some (.error (.database (.database ⟨some "20", "datatype mismatch"⟩))) ∧
      (((choosing (2 ^ 63)).subscriber .usual).journal "orders" acceptAll () unread).handed = [] := by
  have fails : (choosing (2 ^ 63)).Fails .usual "orders" := Member.fails (by decide) (by decide)
  have polls := fails.polls acceptAll () unread _ [] 0 unread_fresh unread_tables rfl
  refine ⟨?_, polls.1, polls.2.2.1⟩
  intro works
  exact Member.not_works (by decide) (by decide) (works (2 ^ 63) (by decide))

end TopicLog
