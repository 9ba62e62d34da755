import TopicLog.Database

/-!
The order of a log. Published records go to the end with offsets that were never used before, so what
lies up to a bound never changes again, and a batch continues it without a gap.
-/
namespace TopicLog.Log

/-- A log as a database keeps it: ascending offsets, none above the largest ever used. -/
structure Arranged (log : Log) : Prop where
  ascending : log.rows.Pairwise fun a b => a.offset < b.offset
  used : ∀ row ∈ log.rows, row.offset ≤ log.last

/-- A log that was only published to. -/
structure Ordered (log : Log) : Prop extends Arranged log where
  positive : ∀ row ∈ log.rows, 0 < row.offset
  last : 0 ≤ log.last

theorem arranged_empty : Arranged {} := ⟨.nil, by simp⟩

theorem ordered_empty : Ordered {} where
  toArranged := arranged_empty
  positive := by simp
  last := Int.le_refl 0

theorem arranged_filter {log : Log} (arranged : log.Arranged) (keep : LogRow → Bool) :
    Arranged { log with rows := log.rows.filter keep } where
  ascending := arranged.ascending.sublist List.filter_sublist
  used row member := arranged.used row (List.mem_filter.mp member).1

/-! Insertion. -/

theorem mem_place {row other : LogRow} {rows : List LogRow} :
    other ∈ place row rows ↔ other = row ∨ other ∈ rows := by
  induction rows with
  | nil => simp [place]
  | cons first rest ih =>
      by_cases before : row.offset < first.offset
      · simp [place, before]
      · simp only [place, before, ↓reduceIte, List.mem_cons, ih]
        exact or_left_comm

theorem place_ascending {row : LogRow} {rows : List LogRow}
    (ascending : rows.Pairwise fun a b => a.offset < b.offset)
    (unused : ∀ other ∈ rows, other.offset ≠ row.offset) :
    (place row rows).Pairwise fun a b => a.offset < b.offset := by
  induction rows with
  | nil => exact List.pairwise_singleton _ row
  | cons first rest ih =>
      obtain ⟨beforeRest, later⟩ := List.pairwise_cons.mp ascending
      by_cases before : row.offset < first.offset
      · simp only [place, before, ↓reduceIte]
        refine List.pairwise_cons.mpr ⟨?_, ascending⟩
        intro other member
        rcases List.mem_cons.mp member with rfl | inRest
        · exact before
        · exact Int.lt_trans before (beforeRest other inRest)
      · simp only [place, before, ↓reduceIte]
        rw [List.pairwise_cons]
        constructor
        · intro other member
          rcases mem_place.mp member with rfl | inRest
          · have := unused first List.mem_cons_self
            omega
          · exact beforeRest other inRest
        · exact ih later fun other member => unused other (List.mem_cons_of_mem first member)

theorem insert_places {log after : Log} {table : String} {now : Timestamp} {draft : LogDraft}
    (inserted : log.insert table now draft = .ok after) :
    ∃ row, (∀ other ∈ log.rows, other.offset ≠ row.offset) ∧
      after = ⟨place row log.rows, max log.last row.offset⟩ := by
  simp only [insert, bind, Except.bind, pure, Except.pure] at inserted
  repeat' split at inserted
  -- Every case but the last is that of a fault.
  all_goals try cases inserted
  rename_i unused
  refine ⟨_, ?_, rfl⟩
  intro other member same
  exact unused (List.any_eq_true.mpr ⟨other, member, decide_eq_true same⟩)

theorem insert_arranged {log after : Log} {table : String} {now : Timestamp} {draft : LogDraft}
    (arranged : log.Arranged) (inserted : log.insert table now draft = .ok after) :
    after.Arranged := by
  obtain ⟨row, unused, rfl⟩ := insert_places inserted
  refine ⟨place_ascending arranged.ascending unused, ?_⟩
  intro other member
  change other.offset ≤ max log.last row.offset
  rcases mem_place.mp member with rfl | old
  · exact Int.le_max_right _ _
  · exact Int.le_trans (arranged.used other old) (Int.le_max_left _ _)

/-! Publishing. -/

theorem place_above {row : LogRow} {rows : List LogRow}
    (above : ∀ old ∈ rows, old.offset < row.offset) : place row rows = rows ++ [row] := by
  induction rows with
  | nil => rfl
  | cons first rest ih =>
      have before := above first List.mem_cons_self
      have later := ih fun old member => above old (List.mem_cons_of_mem first member)
      have notBelow : ¬ row.offset < first.offset := by omega
      simp [place, notBelow, later]

def rowOf (log : Log) (now : Timestamp) (record : Record) : LogRow :=
  ⟨log.last + 1, .text record.uuid, .text now.toText, .blob record.payload, .blob record.metadata⟩

theorem insert_record {log after : Log} {table : String} {now : Timestamp} {record : Record}
    (arranged : log.Arranged) (inserted : log.insert table now (draftOf record) = .ok after) :
    after = ⟨log.rows ++ [log.rowOf now record], log.last + 1⟩ := by
  have below : ∀ old ∈ log.rows, old.offset < log.last + 1 := by
    intro old member
    have := arranged.used old member
    omega
  have fresh : log.rows.any (fun row => row.offset = log.last + 1) = false := by
    simp only [List.any_eq_false, decide_eq_true_eq]
    intro old member same
    have := below old member
    omega
  have larger : max log.last (log.last + 1) = log.last + 1 := by omega
  by_cases full : Value.greatestInteger ≤ log.last
  · simp [insert, draftOf, LogDraft.requested, Value.inIntegerColumn, assign, full, bind,
      Except.bind] at inserted
  · have placed : place (log.rowOf now record) log.rows = _ := place_above below
    simp only [insert, draftOf, LogDraft.requested, Option.getD_none, Option.getD_some,
      Value.inIntegerColumn, Value.inTextColumn, assign, full, required, bind, Except.bind, pure,
      Except.pure, ↓reduceIte, fresh, larger] at inserted
    rw [← placed]
    exact (Except.ok.inj inserted).symm

/-- A log after records were published to another: the old rows stay, and the new ones have
offsets above all that were used before. -/
structure Extends (old new : Log) : Prop where
  rows : ∃ added, new.rows = old.rows ++ added ∧ ∀ row ∈ added, old.last < row.offset
  last : old.last ≤ new.last

theorem extends_refl (log : Log) : Extends log log := ⟨⟨[], by simp⟩, Int.le_refl _⟩

theorem extends_trans {a b c : Log} (first : Extends a b) (second : Extends b c) :
    Extends a c := by
  obtain ⟨⟨some, firstRows, firstAbove⟩, firstLast⟩ := first
  obtain ⟨⟨more, secondRows, secondAbove⟩, secondLast⟩ := second
  refine ⟨⟨some ++ more, by rw [secondRows, firstRows, List.append_assoc], ?_⟩, by omega⟩
  intro row member
  rcases List.mem_append.mp member with early | late
  · exact firstAbove row early
  · have := secondAbove row late
    omega

theorem ordered_extends {old new : Log} (ordered : old.Ordered) (grown : Extends old new)
    (arranged : new.Arranged) : new.Ordered where
  toArranged := arranged
  positive row member := by
    obtain ⟨added, rows, above⟩ := grown.rows
    have nonnegative := ordered.last
    rw [rows] at member
    rcases List.mem_append.mp member with inOld | new
    · exact ordered.positive row inOld
    · exact Int.lt_of_le_of_lt nonnegative (above row new)
  last := Int.le_trans ordered.last grown.last

theorem append_extends {log after : Log} {table : String} {now : Timestamp}
    {records : List Record} (arranged : log.Arranged)
    (appended : log.append table now records = .ok after) :
    after.Arranged ∧ Extends log after := by
  induction records generalizing log with
  | nil =>
      cases appended
      exact ⟨arranged, extends_refl _⟩
  | cons record rest ih =>
      cases inserted : log.insert table now (draftOf record) with
      | error fault => simp [append, inserted] at appended
      | ok middle =>
          simp only [append, inserted] at appended
          have grown : Extends log middle := by
            rw [insert_record arranged inserted]
            refine ⟨⟨[log.rowOf now record], rfl, ?_⟩, by dsimp only; omega⟩
            intro row member
            rw [List.mem_singleton.mp member]
            exact Int.lt_succ log.last
          obtain ⟨afterArranged, later⟩ := ih (insert_arranged arranged inserted) appended
          exact ⟨afterArranged, extends_trans grown later⟩

/-! Rows up to a bound. -/

def upTo (log : Log) (bound : Int) : List LogRow :=
  log.rows.filter fun row => 0 < row.offset ∧ row.offset ≤ bound

theorem upTo_extends {old new : Log} {bound : Int} (grown : Extends old new)
    (within : bound ≤ old.last) : new.upTo bound = old.upTo bound := by
  obtain ⟨added, rows, above⟩ := grown.rows
  have none : added.filter (fun row => 0 < row.offset ∧ row.offset ≤ bound) = [] := by
    rw [List.filter_eq_nil_iff]
    intro row member
    have := above row member
    simp only [decide_eq_true_eq]
    omega
  rw [upTo, rows, List.filter_append, none, List.append_nil, upTo]

theorem after_int (log : Log) (bound : Int) (limit : Nat) :
    log.after (.int bound) limit =
      (log.rows.filter fun row => bound < row.offset).take limit := by
  simp [after, Value.belowInteger]

theorem ascending_split {rows : List LogRow}
    (ascending : rows.Pairwise fun a b => a.offset < b.offset) (bound : Int) :
    rows = (rows.filter fun row => row.offset ≤ bound) ++
      rows.filter fun row => bound < row.offset := by
  induction rows with
  | nil => rfl
  | cons first rest ih =>
      obtain ⟨before, later⟩ := List.pairwise_cons.mp ascending
      by_cases low : first.offset ≤ bound
      · have notHigh : ¬ bound < first.offset := by omega
        simpa [low, notHigh] using ih later
      · have allHigh : ∀ row ∈ rest, bound < row.offset := by
          intro row member
          have := before row member
          omega
        have noneLow : rest.filter (fun row => row.offset ≤ bound) = [] := by
          rw [List.filter_eq_nil_iff]
          intro row member
          have := allHigh row member
          simp only [decide_eq_true_eq]
          omega
        have all : rest.filter (fun row => bound < row.offset) = rest :=
          List.filter_eq_self.mpr fun row member => by simpa using allHigh row member
        have high : bound < first.offset := by omega
        simp [low, high, noneLow, all]

theorem batch_split {log : Log} {bound : Int} {limit : Nat} {past rest : List LogRow}
    {row : LogRow} (ascending : log.rows.Pairwise fun a b => a.offset < b.offset)
    (batch : log.after (.int bound) limit = past ++ row :: rest) :
    ∃ later, log.rows =
      (log.rows.filter fun row => row.offset ≤ bound) ++ (past ++ row :: later) := by
  rw [after_int] at batch
  have start : past ++ [row] <+: log.rows.filter fun row => bound < row.offset := by
    have shorter : past ++ [row] <+: past ++ row :: rest := ⟨rest, by simp⟩
    exact shorter.trans (batch ▸ List.take_prefix limit _)
  obtain ⟨later, whole⟩ := start
  refine ⟨later, ?_⟩
  have split := ascending_split ascending bound
  rw [← whole] at split
  simpa using split

theorem batch_above {log : Log} {bound : Int} {limit : Nat} {row : LogRow}
    (member : row ∈ log.after (.int bound) limit) : row ∈ log.rows ∧ bound < row.offset := by
  rw [after_int] at member
  simpa using List.mem_of_mem_take member

theorem batch_ascending {log : Log}
    (ascending : log.rows.Pairwise fun a b => a.offset < b.offset) (bound : Int) (limit : Nat) :
    (log.after (.int bound) limit).Pairwise fun a b => a.offset < b.offset := by
  rw [after_int]
  exact (ascending.sublist List.filter_sublist).sublist (List.take_sublist _ _)

/-- The bound after the rows of a batch that are past. -/
def reached (bound : Int) (past : List LogRow) : Int :=
  (past.getLast?.map LogRow.offset).getD bound

@[simp]
theorem reached_nil (bound : Int) : reached bound [] = bound := rfl

@[simp]
theorem reached_snoc (bound : Int) (past : List LogRow) (row : LogRow) :
    reached bound (past ++ [row]) = row.offset := by simp [reached]

theorem after_first {log : Log} {bound : Int} {limit : Nat} {row : LogRow}
    (ascending : log.rows.Pairwise fun a b => a.offset < b.offset) (positive : 0 < limit)
    (member : row ∈ log.rows) (above : bound < row.offset)
    (smallest : ∀ other ∈ log.rows, bound < other.offset → row.offset ≤ other.offset) :
    ∃ rest, log.after (.int bound) limit = row :: rest := by
  rw [after_int]
  have listed : row ∈ log.rows.filter fun row => bound < row.offset :=
    List.mem_filter.mpr ⟨member, by simpa using above⟩
  have order : (log.rows.filter fun row => bound < row.offset).Pairwise fun a b =>
      a.offset < b.offset := ascending.sublist List.filter_sublist
  cases filtered : log.rows.filter fun row => bound < row.offset with
  | nil =>
      rw [filtered] at listed
      cases listed
  | cons first others =>
      have firstListed : first ∈ log.rows.filter fun row => bound < row.offset := by
        rw [filtered]
        exact List.mem_cons_self
      obtain ⟨inLog, firstAbove⟩ := List.mem_filter.mp firstListed
      have notAbove := smallest first inLog (by simpa using firstAbove)
      rw [filtered] at listed order
      obtain ⟨size, rfl⟩ : ∃ size, limit = size + 1 := ⟨limit - 1, by omega⟩
      rcases List.mem_cons.mp listed with rfl | later
      · exact ⟨others.take size, rfl⟩
      · have := (List.pairwise_cons.mp order).1 row later
        omega

theorem le_reached {bound : Int} {past : List LogRow}
    (above : ∀ row ∈ past, bound < row.offset) : bound ≤ reached bound past := by
  rcases List.eq_nil_or_concat past with rfl | ⟨earlier, last, rfl⟩
  · exact Int.le_refl _
  · rw [List.concat_eq_append, reached_snoc]
    exact Int.le_of_lt (above last (by simp))

theorem reached_greatest (bound : Int) {past : List LogRow}
    (ascending : past.Pairwise fun a b => a.offset < b.offset) :
    ∀ row ∈ past, row.offset ≤ reached bound past := by
  intro row member
  rcases List.eq_nil_or_concat past with rfl | ⟨earlier, last, rfl⟩
  · cases member
  · rw [List.concat_eq_append] at ascending member ⊢
    rw [reached_snoc]
    obtain ⟨-, -, before⟩ := List.pairwise_append.mp ascending
    rcases List.mem_append.mp member with inside | isLast
    · exact Int.le_of_lt (before row inside last List.mem_cons_self)
    · exact Int.le_of_eq (congrArg LogRow.offset (List.mem_singleton.mp isLast))

theorem batch_smallest {log : Log} {bound : Int} {limit : Nat} {past rest : List LogRow}
    {row : LogRow} (ascending : log.rows.Pairwise fun a b => a.offset < b.offset)
    (batch : log.after (.int bound) limit = past ++ row :: rest) {other : LogRow}
    (member : other ∈ log.rows) (above : reached bound past < other.offset) :
    row.offset ≤ other.offset := by
  obtain ⟨later, whole⟩ := batch_split ascending batch
  have pastAbove : ∀ old ∈ past, bound < old.offset := by
    intro old inside
    exact (batch_above (batch ▸ List.mem_append_left _ inside)).2
  rw [whole] at ascending member
  obtain ⟨-, order, -⟩ := List.pairwise_append.mp ascending
  obtain ⟨pastOrder, tail, -⟩ := List.pairwise_append.mp order
  rcases List.mem_append.mp member with low | high
  · have below : other.offset ≤ bound := by simpa using (List.mem_filter.mp low).2
    have := le_reached pastAbove
    omega
  · rcases List.mem_append.mp high with inPast | atOrAfter
    · have := reached_greatest bound pastOrder other inPast
      omega
    · rcases List.mem_cons.mp atOrAfter with rfl | after
      · exact Int.le_refl _
      · exact Int.le_of_lt ((List.pairwise_cons.mp tail).1 other after)

/-- Up to a row of a batch lies what lay up to the bound, then the batch up to that row. -/
theorem upTo_batch {log : Log} {bound : Int} {limit : Nat} {past rest : List LogRow}
    {row : LogRow} (ascending : log.rows.Pairwise fun a b => a.offset < b.offset)
    (positive : 0 ≤ bound) (batch : log.after (.int bound) limit = past ++ row :: rest) :
    log.upTo row.offset = log.upTo bound ++ (past ++ [row]) := by
  obtain ⟨later, whole⟩ := batch_split ascending batch
  have above : ∀ other ∈ past ++ row :: rest, bound < other.offset := fun other member =>
    (batch_above (batch ▸ member)).2
  have rowAbove := above row (by simp)
  rw [whole] at ascending
  obtain ⟨-, order, -⟩ := List.pairwise_append.mp ascending
  obtain ⟨-, tail, before⟩ := List.pairwise_append.mp order
  have beyond : ∀ other ∈ later, row.offset < other.offset := (List.pairwise_cons.mp tail).1
  have keptLow (limit : Int) (high : bound ≤ limit) :
      (log.rows.filter fun row => row.offset ≤ bound).filter
        (fun other => 0 < other.offset ∧ other.offset ≤ limit) = log.upTo bound := by
    rw [List.filter_filter, upTo]
    apply List.filter_congr
    intro other _
    rw [Bool.eq_iff_iff]
    simp only [Bool.and_eq_true, decide_eq_true_eq]
    omega
  have keptPast : past.filter (fun other => 0 < other.offset ∧ other.offset ≤ row.offset) = past := by
    rw [List.filter_eq_self]
    intro other member
    have low := above other (List.mem_append_left _ member)
    have high := before other member row List.mem_cons_self
    simp only [decide_eq_true_eq]
    omega
  have droppedLater :
      later.filter (fun other => 0 < other.offset ∧ other.offset ≤ row.offset) = [] := by
    rw [List.filter_eq_nil_iff]
    intro other member
    have := beyond other member
    simp only [decide_eq_true_eq]
    omega
  have keptRow : 0 < row.offset ∧ row.offset ≤ row.offset := by omega
  rw [upTo, whole, List.filter_append, keptLow row.offset (by omega), List.filter_append, keptPast,
    List.filter_cons_of_pos (by simpa using keptRow), droppedLater]

theorem reached_lt {log : Log} {bound : Int} {limit : Nat} {past rest : List LogRow} {row : LogRow}
    (ascending : log.rows.Pairwise fun a b => a.offset < b.offset)
    (batch : log.after (.int bound) limit = past ++ row :: rest) :
    reached bound past < row.offset := by
  rcases List.eq_nil_or_concat past with rfl | ⟨earlier, last, rfl⟩
  · exact (batch_above (batch ▸ by simp : row ∈ log.after (.int bound) limit)).2
  · have order := batch_ascending ascending bound limit
    rw [batch] at order
    obtain ⟨-, -, before⟩ := List.pairwise_append.mp order
    rw [List.concat_eq_append, reached_snoc]
    exact before last (by simp) row List.mem_cons_self

theorem upTo_reached {log : Log} {bound : Int} {limit : Nat} {past rest : List LogRow}
    (ascending : log.rows.Pairwise fun a b => a.offset < b.offset) (positive : 0 ≤ bound)
    (batch : log.after (.int bound) limit = past ++ rest) :
    log.upTo (reached bound past) = log.upTo bound ++ past := by
  rcases List.eq_nil_or_concat past with rfl | ⟨earlier, last, rfl⟩
  · simp
  · rw [List.concat_eq_append, reached_snoc]
    rw [List.concat_eq_append, List.append_assoc] at batch
    exact upTo_batch ascending positive batch

end TopicLog.Log
