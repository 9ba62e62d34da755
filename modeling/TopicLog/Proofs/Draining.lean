import Mathlib.Data.List.TakeWhile
import TopicLog.MessageLayout.Decorated
import TopicLog.Proofs.Refusals

/-!
Polling until nothing is left. However the batches are cut, and whatever the handler refuses for a
while, all rows after the bound are acknowledged once and in their order, and the database comes to be
the same.
-/
namespace TopicLog

/-! The rows that are left. -/

namespace Log

def pending (log : Log) (bound : Int) : List LogRow := log.rows.filter fun row => bound < row.offset

variable {log : Log} {bound : Int}

theorem pending_ascending (arranged : log.Arranged) (bound : Int) :
    (log.pending bound).Pairwise fun a b => a.offset < b.offset :=
  arranged.ascending.sublist List.filter_sublist

theorem pending_drop (arranged : log.Arranged) {size : Nat} {last : LogRow}
    (reached : ((log.pending bound).take size).getLast? = some last) :
    log.pending last.offset = (log.pending bound).drop size := by
  obtain ⟨front, batch⟩ := List.getLast?_eq_some_iff.mp reached
  have whole : log.pending bound = front ++ [last] ++ (log.pending bound).drop size := by
    rw [← batch, List.take_append_drop]
  have ascending := pending_ascending arranged bound
  rw [whole, List.pairwise_append] at ascending
  obtain ⟨early, -, later⟩ := ascending
  have inside : bound < last.offset := by
    have listed : last ∈ log.pending bound := by
      rw [whole]
      simp
    simpa using (List.mem_filter.mp listed).2
  have twice : log.pending last.offset =
      (log.pending bound).filter fun row => last.offset < row.offset := by
    rw [pending, pending, List.filter_filter]
    apply List.filter_congr
    intro row _
    have : last.offset < row.offset → bound < row.offset := Int.lt_trans inside
    simpa using this
  -- No row of the batch lies above its last one, and all rows behind it do.
  have none : (front ++ [last]).filter (fun row => last.offset < row.offset) = [] := by
    rw [List.filter_eq_nil_iff]
    intro row member
    rcases List.mem_append.mp member with before | self
    · have := (List.pairwise_append.mp early).2.2 row before last List.mem_cons_self
      simpa using Int.le_of_lt this
    · rw [List.mem_singleton.mp self]
      simp
  have all : ((log.pending bound).drop size).filter (fun row => last.offset < row.offset) =
      (log.pending bound).drop size := by
    rw [List.filter_eq_self]
    intro row member
    simpa using later last (by simp) row member
  rw [twice]
  calc
    _ = (front ++ [last] ++ (log.pending bound).drop size).filter
        fun row => last.offset < row.offset := congrArg (List.filter _) whole
    _ = _ := by rw [List.filter_append, none, all, List.nil_append]

end Log

theorem mem_of_batch {rows past rest : List LogRow} {row : LogRow} {size : Nat}
    (split : rows.take size = past ++ row :: rest) : row ∈ rows := by
  have inside : row ∈ rows.take size := by
    rw [split]
    simp
  exact List.mem_of_mem_take inside

def refusalsOn (refusals : Int → Nat) : List LogRow → Nat
  | [] => 0
  | row :: rest => refusals row.offset + refusalsOn refusals rest

theorem refusalsOn_none {refusals : Int → Nat} {rows : List LogRow}
    (none : ∀ row ∈ rows, refusals row.offset = 0) : refusalsOn refusals rows = 0 := by
  induction rows with
  | nil => rfl
  | cons first rest ih =>
      rw [refusalsOn, none first List.mem_cons_self, Nat.zero_add]
      exact ih fun row member => none row (List.mem_cons_of_mem first member)

theorem refusalsOn_append (refusals : Int → Nat) (before after : List LogRow) :
    refusalsOn refusals (before ++ after) =
      refusalsOn refusals before + refusalsOn refusals after := by
  induction before with
  | nil => exact (Nat.zero_add _).symm
  | cons first rest ih => rw [List.cons_append, refusalsOn, refusalsOn, ih, Nat.add_assoc]

theorem refusalsOn_split (refusals : Int → Nat) (rows : List LogRow) (size : Nat) :
    refusalsOn refusals (rows.take size) + refusalsOn refusals (rows.drop size) =
      refusalsOn refusals rows := by
  rw [← refusalsOn_append, List.take_append_drop]

theorem refusalsOn_others {refusals : Int → Nat} {rows : List LogRow} {offset : Int} (count : Nat)
    (others : ∀ row ∈ rows, row.offset ≠ offset) :
    refusalsOn (Function.update refusals offset count) rows = refusalsOn refusals rows := by
  induction rows with
  | nil => rfl
  | cons first rest ih =>
      rw [refusalsOn, refusalsOn, Function.update_of_ne (others first List.mem_cons_self),
        ih fun row member => others row (List.mem_cons_of_mem first member)]

theorem refusalsOn_update {refusals : Int → Nat} {rows : List LogRow} {row : LogRow} {count : Nat}
    (ascending : rows.Pairwise fun a b => a.offset < b.offset) (member : row ∈ rows)
    (left : refusals row.offset = count + 1) :
    refusalsOn refusals rows = refusalsOn (Function.update refusals row.offset count) rows + 1 := by
  induction rows with
  | nil => cases member
  | cons first rest ih =>
      obtain ⟨before, later⟩ := List.pairwise_cons.mp ascending
      rw [refusalsOn, refusalsOn]
      rcases List.mem_cons.mp member with rfl | inside
      -- Offsets ascend, so no other row has the one that is updated.
      · rw [refusalsOn_others count fun each inside => Int.ne_of_gt (before each inside),
          Function.update_self, left]
        omega
      · rw [Function.update_of_ne (Int.ne_of_lt (before row inside)), ih later inside]
        omega

/-! Polling with sizes of all kinds. -/

/-- How a poll comes to its batch size: by the layout of messages that it has, or by a decorator that
fetches in another size than the layout inside. -/
inductive Sizing where
  | plain (batchSize : Nat)
  | decorated (batchSize : Nat)

namespace Sizing

def batchSize : Sizing → Nat
  | .plain batchSize => batchSize
  | .decorated batchSize => batchSize

def effective (sizing : Sizing) : Nat :=
  if sizing.batchSize = 0 then defaultBatchSize else sizing.batchSize

end Sizing

structure Polled where
  result : PollResult
  journal : Journal

namespace Polled

def failed (polled : Polled) : Bool :=
  match polled.result with
  | some (.error _) => true
  | _ => false

def progressed (polled : Polled) : Bool :=
  match polled.result with
  | some (.ok (_ + 1)) => true
  | _ => false

end Polled

def acknowledgedIn (polls : List Polled) : List Int :=
  (polls.filter fun polled => polled.journal.isCommitted).flatMap fun polled =>
    polled.journal.acknowledged

namespace Member

def sized (member : Member) (namings : Namings) : Sizing → Subscriber
  | .plain batchSize => { member with batchSize }.subscriber namings
  | .decorated batchSize =>
      let decorated : Decorated := { inner := namings.layout member.batchSize member.codec }
      ⟨(decorated.withFetch (namings.layout batchSize member.codec).fetch).layout,
        namings.cursorLayout, member.settings⟩

def drain {σ : Type} (member : Member) (namings : Namings) (topic : String) (handler : Handler σ) :
    Nat → (Nat → Sizing) → σ → Storage → List Polled × Storage
  | 0, _, _, storage => ([], storage)
  | count + 1, sizes, state, storage =>
      let subscriber := member.sized namings (sizes 0)
      let (result, after, left) := subscriber.poll topic handler state storage
      let (later, final) :=
        drain member namings topic handler count (fun place => sizes (place + 1)) after left
      (⟨result, subscriber.journal topic handler state storage⟩ :: later, final)

theorem sized_subscriber (member : Member) (namings : Namings) (sizing : Sizing) :
    member.sized namings sizing =
      Member.subscriber { member with batchSize := sizing.batchSize } namings := by
  cases sizing <;> rfl

end Member

/-- What polling comes to that goes on until nothing is left. -/
structure Drained (sizes : Nat → Sizing) (pending : List LogRow) (refusals : Int → Nat)
    (polls : List Polled) : Prop where
  ends : ∃ earlier last, polls = earlier ++ [last] ∧ last.result = some (.ok 0) ∧
    ∀ polled ∈ earlier, polled.result ≠ some (.ok 0)
  results : ∀ polled ∈ polls, (∃ count, polled.result = some (.ok count)) ∨
    ∃ row ∈ pending, ∃ text, polled.result = some (.error (.handler row.offset (.other text)))
  failures : polls.countP Polled.failed = refusalsOn refusals pending
  acknowledged : acknowledgedIn polls = pending.map LogRow.offset
  batches : ∀ size, (∀ place, (sizes place).effective = size) →
    polls.countP Polled.progressed = (pending.length + size - 1) / size

theorem ceil_step {count size : Nat} (positive : 0 < size) (some : 0 < count) :
    (count - size + size - 1) / size + 1 = (count + size - 1) / size := by
  rcases Nat.le_total count size with small | large
  · have last : (count - size + size - 1) / size = 0 := Nat.div_eq_of_lt (by omega)
    have one : count + size - 1 = count - 1 + size := by omega
    rw [last, one, Nat.add_div_right _ positive, Nat.div_eq_of_lt (by omega)]
  · have one : count + size - 1 = (count - size + size - 1) + size := by omega
    rw [one, Nat.add_div_right _ positive]

theorem Sizing.effective_positive (sizing : Sizing) : 0 < sizing.effective := by
  unfold effective
  split
  · decide
  · omega

theorem Sizing.take_moves (sizing : Sizing) {pending : List LogRow} (some : pending ≠ []) :
    ∃ count, (pending.take sizing.effective).length = count + 1 := by
  have positive := sizing.effective_positive
  have length := List.length_pos_iff.mpr some
  rw [List.length_take]
  exact ⟨min sizing.effective pending.length - 1, by omega⟩

theorem acknowledgedIn_committed {polled : Polled} {polls : List Polled}
    (committed : polled.journal.isCommitted = true) :
    acknowledgedIn (polled :: polls) = polled.journal.acknowledged ++ acknowledgedIn polls := by
  simp [acknowledgedIn, committed]

theorem acknowledgedIn_uncommitted {polled : Polled} {polls : List Polled}
    (uncommitted : polled.journal.isCommitted = false) :
    acknowledgedIn (polled :: polls) = acknowledgedIn polls := by
  simp [acknowledgedIn, uncommitted]

section Drained

variable {sizes : Nat → Sizing} {pending : List LogRow} {refusals : Int → Nat} {polled : Polled}
  {polls : List Polled}

theorem Drained.nothing (result : polled.result = some (.ok 0))
    (acknowledged : polled.journal.acknowledged = []) :
    Drained sizes [] refusals [polled] where
  ends := ⟨[], polled, rfl, result, by simp⟩
  results other member := by
    rw [List.mem_singleton.mp member]
    exact .inl ⟨0, result⟩
  failures := by simp [Polled.failed, result, refusalsOn]
  acknowledged := by
    by_cases committed : polled.journal.isCommitted = true <;>
      simp [acknowledgedIn, committed, acknowledged]
  batches size fixed := by
    have positive : 0 < size := fixed 0 ▸ (sizes 0).effective_positive
    have none : (0 + size - 1) / size = 0 := Nat.div_eq_of_lt (by omega)
    rw [List.length_nil, none]
    simp [Polled.progressed, result]

theorem Drained.ends_cons (drained : Drained (fun place => sizes (place + 1)) pending refusals polls)
    (found : polled.result ≠ some (.ok 0)) :
    ∃ earlier last, polled :: polls = earlier ++ [last] ∧ last.result = some (.ok 0) ∧
      ∀ other ∈ earlier, other.result ≠ some (.ok 0) := by
  obtain ⟨earlier, last, split, empty, others⟩ := drained.ends
  refine ⟨polled :: earlier, last, congrArg (polled :: ·) split, empty, ?_⟩
  intro other inside
  rcases List.mem_cons.mp inside with rfl | later
  · exact found
  · exact others other later

theorem Drained.failing {row : LogRow} {text : String} {count : Nat}
    (ascending : pending.Pairwise fun a b => a.offset < b.offset) (member : row ∈ pending)
    (left : refusals row.offset = count + 1)
    (result : polled.result = some (.error (.handler row.offset (.other text))))
    (uncommitted : polled.journal.isCommitted = false)
    (drained : Drained (fun place => sizes (place + 1)) pending
      (Function.update refusals row.offset count) polls) :
    Drained sizes pending refusals (polled :: polls) where
  ends := drained.ends_cons (by simp [result])
  results other inside := by
    rcases List.mem_cons.mp inside with rfl | later
    · exact .inr ⟨row, member, text, result⟩
    · exact drained.results other later
  failures := by
    have fails : polled.failed = true := by simp [Polled.failed, result]
    rw [List.countP_cons_of_pos fails, drained.failures, refusalsOn_update ascending member left]
  acknowledged := by
    rw [acknowledgedIn_uncommitted uncommitted]
    exact drained.acknowledged
  batches size fixed := by
    have stays : ¬ polled.progressed = true := by simp [Polled.progressed, result]
    rw [List.countP_cons_of_neg stays]
    exact drained.batches size fun place => fixed (place + 1)

theorem Drained.advancing (some : pending ≠ [])
    (none : ∀ row ∈ pending.take (sizes 0).effective, refusals row.offset = 0)
    (result : polled.result = .some (.ok (pending.take (sizes 0).effective).length))
    (committed : polled.journal.isCommitted = true)
    (acknowledged : polled.journal.acknowledged =
      (pending.take (sizes 0).effective).map LogRow.offset)
    (drained : Drained (fun place => sizes (place + 1)) (pending.drop (sizes 0).effective) refusals
      polls) :
    Drained sizes pending refusals (polled :: polls) where
  ends := by
    apply drained.ends_cons
    obtain ⟨count, moved⟩ := (sizes 0).take_moves some
    simp [result, moved]
  results other inside := by
    rcases List.mem_cons.mp inside with rfl | later
    · exact .inl ⟨_, result⟩
    · rcases drained.results other later with ⟨count, counted⟩ | ⟨row, left, text, failed⟩
      · exact .inl ⟨count, counted⟩
      · exact .inr ⟨row, List.mem_of_mem_drop left, text, failed⟩
  failures := by
    have succeeds : ¬ polled.failed = true := by simp [Polled.failed, result]
    have split := refusalsOn_split refusals pending (sizes 0).effective
    rw [refusalsOn_none none, Nat.zero_add] at split
    rw [List.countP_cons_of_neg succeeds, drained.failures, split]
  acknowledged := by
    rw [acknowledgedIn_committed committed, acknowledged, drained.acknowledged, ← List.map_append,
      List.take_append_drop]
  batches size fixed := by
    have rest := drained.batches size fun place => fixed (place + 1)
    have positive : 0 < size := fixed 0 ▸ (sizes 0).effective_positive
    have length := List.length_pos_iff.mpr some
    have moves : polled.progressed = true := by
      obtain ⟨count, moved⟩ := (sizes 0).take_moves some
      simp [Polled.progressed, result, moved]
    rw [List.countP_cons_of_pos moves, rest, fixed 0, List.length_drop]
    exact ceil_step positive length

end Drained

/-- A database in which a group has acknowledged all rows that were pending. -/
def Namings.settled (namings : Namings) (topic group : String) (cursors : List CursorRow)
    (pending : List LogRow) (database : Database) : Database :=
  match pending.getLast? with
  | none => database
  | some last =>
      database.put (namings.cursorTable topic) (.cursors (Cursors.acknowledge group last.offset cursors))

theorem Namings.settled_drop (namings : Namings) (topic group : String) (cursors : List CursorRow)
    {pending : List LogRow} {size : Nat} {last : LogRow} (database : Database)
    (reached : (pending.take size).getLast? = some last) :
    namings.settled topic group (Cursors.acknowledge group last.offset cursors) (pending.drop size)
        (database.put (namings.cursorTable topic)
          (.cursors (Cursors.acknowledge group last.offset cursors))) =
      namings.settled topic group cursors pending database := by
  have whole : pending.getLast? = (pending.drop size).getLast?.or (some last) := by
    rw [← reached, ← List.getLast?_append, List.take_append_drop]
  unfold settled
  rw [whole]
  cases (pending.drop size).getLast? with
  | none => rfl
  | some final =>
      simp only [Option.some_or, Database.put_put, Cursors.acknowledge_acknowledge]

section Run

variable {σ : Type} {handler : Handler σ} {left : σ → Int → Nat} {namings : Namings} {topic : String}
  {member : Member} {log : Log} {cursors : List CursorRow} {bound : Int} {state : σ}
  {storage : Storage} {sizes : Nat → Sizing}

/-- The member with the batch size of its next poll. -/
def Member.next (member : Member) (sizes : Nat → Sizing) : Member :=
  { member with batchSize := (sizes 0).batchSize }

theorem Member.drain_succ (count : Nat) :
    let subscriber := (member.next sizes).subscriber namings
    let polled := subscriber.poll topic handler state storage
    let rest := member.drain namings topic handler count (fun place => sizes (place + 1)) polled.2.1
      polled.2.2
    member.drain namings topic handler (count + 1) sizes state storage =
      (⟨polled.1, subscriber.journal topic handler state storage⟩ :: rest.1, rest.2) := by
  rw [drain, sized_subscriber]
  rfl

theorem Namings.Awaits.after_poll (awaits : namings.Awaits topic member.group log cursors bound storage)
    {subscriber : Subscriber} {rewritten : List CursorRow} {reached : Int}
    (tables : namings.Tables topic (subscriber.poll topic handler state storage).2.2.committed log
      rewritten)
    (bounded : Cursors.bound member.group rewritten = .int reached) :
    namings.Awaits topic member.group log rewritten reached
      (subscriber.poll topic handler state storage).2.2 where
  alone := by
    rw [subscriber.poll_holds topic handler state (Storage.fresh_of_closed awaits.alone)]
    exact awaits.alone
  arranged := awaits.arranged
  tables := tables
  bounded := bounded

/-- Polling comes to an end, and has then acknowledged all rows after the bound. -/
def Member.Drains (member : Member) (namings : Namings) (topic : String) (handler : Handler σ)
    (left : σ → Int → Nat) (log : Log) (cursors : List CursorRow) (bound : Int)
    (sizes : Nat → Sizing) (state : σ) (storage : Storage) : Prop :=
  ∃ count,
    Drained sizes (log.pending bound) (left state)
      (member.drain namings topic handler (count + 1) sizes state storage).1 ∧
    (member.drain namings topic handler (count + 1) sizes state storage).2.committed =
      namings.settled topic member.group cursors (log.pending bound) storage.committed

section Step

variable (valid : isTopic topic = true) (yields : Yields handler left)
  (small : ∀ place, (sizes place).effective ≤ Value.greatestInteger)
  (awaits : namings.Awaits topic member.group log cursors bound storage)
  (decodes : ∀ row ∈ log.pending bound, member.decodes row = true)
include valid yields small awaits decodes

theorem Member.next_accepting
    (none : ∀ row ∈ (log.pending bound).take (sizes 0).effective, left state row.offset = 0) :
    let batch := (log.pending bound).take (sizes 0).effective
    let subscriber := (member.next sizes).subscriber namings
    let polled := subscriber.poll topic handler state storage
    let journal := subscriber.journal topic handler state storage
    polled.1 = some (.ok batch.length) ∧ left polled.2.1 = left state ∧
      journal.isCommitted = true ∧ journal.acknowledged = batch.map LogRow.offset ∧
      polled.2.2.committed = namings.settled topic member.group cursors batch storage.committed := by
  intro batch subscriber polled journal
  have reads : namings.Awaits topic (member.next sizes).group log cursors bound storage := awaits
  obtain ⟨plays, same⟩ := poll_accepting valid yields reads (small 0) none
  have whole : (member.next sizes).decodable batch = batch := by
    rw [decodable, List.takeWhile_eq_self_iff]
    exact fun row inside => decodes row (List.mem_of_mem_take inside)
  refine ⟨?_, same, plays.ended, ?_, ?_⟩
  · have ended : (member.next sizes).ending 0 batch = .ok (0 + batch.length) := ending_of_all whole
    rw [Nat.zero_add] at ended
    exact plays.result.trans (congrArg some ended)
  · exact plays.acknowledged.trans (congrArg _ whole)
  · unfold Namings.settled
    cases reached : batch.getLast? with
    | none =>
        have empty : batch = [] := List.getLast?_eq_none_iff.mp reached
        exact congrArg Scene.committed (plays.kept (whole.trans empty))
    | some last => exact plays.moved last ((congrArg List.getLast? whole).trans reached)

theorem Member.Drains.nothing (empty : log.pending bound = []) :
    member.Drains namings topic handler left log cursors bound sizes state storage := by
  have none : ∀ row ∈ (log.pending bound).take (sizes 0).effective, left state row.offset = 0 := by
    simp [empty]
  obtain ⟨result, -, -, acknowledged, committed⟩ :=
    Member.next_accepting valid yields small awaits decodes none
  rw [empty, List.take_nil] at result acknowledged committed
  refine ⟨0, ?_⟩
  rw [Member.drain_succ, empty]
  exact ⟨.nothing result acknowledged, committed⟩

theorem Member.Drains.accepting {last : LogRow}
    (none : ∀ row ∈ (log.pending bound).take (sizes 0).effective, left state row.offset = 0)
    (reached : ((log.pending bound).take (sizes 0).effective).getLast? = some last)
    (later : ∀ state' storage', left state' = left state →
      namings.Awaits topic member.group log
        (Cursors.acknowledge member.group last.offset cursors) last.offset storage' →
      member.Drains namings topic handler left log
        (Cursors.acknowledge member.group last.offset cursors) last.offset
        (fun place => sizes (place + 1)) state' storage') :
    member.Drains namings topic handler left log cursors bound sizes state storage := by
  obtain ⟨result, same, ended, acknowledged, committed⟩ :=
    Member.next_accepting valid yields small awaits decodes none
  -- The rest starts where this poll left the bound, and its last write to the cursors covers this one.
  have put : (((member.next sizes).subscriber namings).poll topic handler state
      storage).2.2.committed = storage.committed.put (namings.cursorTable topic)
        (.cursors (Cursors.acknowledge member.group last.offset cursors)) := by
    rw [committed, Namings.settled, reached]
  have next := awaits.after_poll (put ▸ awaits.tables.put_cursors valid _)
    (Cursors.bound_acknowledge _ _ _)
  obtain ⟨count, drained, settled⟩ := later _ _ same next
  rw [Log.pending_drop awaits.arranged reached] at drained settled
  rw [same] at drained
  have some : log.pending bound ≠ [] := by
    intro empty
    simp [empty] at reached
  refine ⟨count + 1, ?_⟩
  rw [Member.drain_succ]
  constructor
  · exact .advancing some none result ended acknowledged drained
  · rw [settled, put]
    exact namings.settled_drop topic member.group cursors storage.committed reached

theorem Member.Drains.refusing {past rest : List LogRow} {row : LogRow} {refusals : Nat}
    (split : (log.pending bound).take (sizes 0).effective = past ++ row :: rest)
    (none : ∀ each ∈ past, left state each.offset = 0)
    (some : left state row.offset = refusals + 1)
    (later : ∀ state' storage',
      left state' = Function.update (left state) row.offset refusals →
      storage'.committed = storage.committed →
      namings.Awaits topic member.group log cursors bound storage' →
      member.Drains namings topic handler left log cursors bound
        (fun place => sizes (place + 1)) state' storage') :
    member.Drains namings topic handler left log cursors bound sizes state storage := by
  have reads : namings.Awaits topic (member.next sizes).group log cursors bound storage := awaits
  obtain ⟨⟨text, result⟩, update, unended⟩ := poll_refusing valid yields reads (small 0)
    (fun each inside => decodes each (List.mem_of_mem_take inside)) split none some
  have kept := (Subscriber.poll_uncommitted (Storage.fresh_of_closed awaits.alone) unended).alike
  have next := awaits.after_poll (kept.committed.symm ▸ awaits.tables) awaits.bounded
  obtain ⟨count, drained, settled⟩ := later _ _ update kept.committed next
  rw [update] at drained
  refine ⟨count + 1, ?_⟩
  rw [Member.drain_succ]
  constructor
  · exact .failing (Log.pending_ascending awaits.arranged bound) (mem_of_batch split) some result
      unended drained
  · rw [settled, kept.committed]

end Step

/-- Each poll either takes rows from what is pending or refusals from what is left of them. -/
theorem Member.drains (valid : isTopic topic = true) (yields : Yields handler left)
    (small : ∀ place, (sizes place).effective ≤ Value.greatestInteger)
    (awaits : namings.Awaits topic member.group log cursors bound storage)
    (decodes : ∀ row ∈ log.pending bound, member.decodes row = true) :
    member.Drains namings topic handler left log cursors bound sizes state storage := by
  induction measured : (log.pending bound).length + refusalsOn (left state) (log.pending bound)
    using Nat.strongRecOn generalizing sizes state storage cursors bound with
  | ind total ih =>
      have shifted (place : Nat) := small (place + 1)
      cases found : ((log.pending bound).take (sizes 0).effective).find?
          fun row => left state row.offset ≠ 0 with
      | none =>
          have none : ∀ row ∈ (log.pending bound).take (sizes 0).effective,
              left state row.offset = 0 := by
            simpa using List.find?_eq_none.mp found
          cases reached : ((log.pending bound).take (sizes 0).effective).getLast? with
          | none =>
              have positive := (sizes 0).effective_positive
              have empty : log.pending bound = [] := by
                rcases List.take_eq_nil_iff.mp (List.getLast?_eq_none_iff.mp reached) with zero | empty
                · omega
                · exact empty
              exact .nothing valid yields small awaits decodes empty
          | some last =>
              -- Rows are taken from what is pending, and no refusal with them.
              refine .accepting valid yields small awaits decodes none reached ?_
              intro state' storage' same next
              have dropped := Log.pending_drop awaits.arranged reached
              refine ih _ ?_ shifted next ?_ rfl
              · have split := refusalsOn_split (left state) (log.pending bound) (sizes 0).effective
                have positive := (sizes 0).effective_positive
                have some : 0 < (log.pending bound).length := by
                  rw [List.length_pos_iff]
                  intro empty
                  simp [empty] at reached
                rw [dropped, same, List.length_drop]
                omega
              · intro row inside
                rw [dropped] at inside
                exact decodes row (List.mem_of_mem_drop inside)
      | some row =>
          -- The first row that is still refused ends the poll, which takes one refusal and no row.
          obtain ⟨refuses, past, rest, split, accepted⟩ := List.find?_eq_some_iff_append.mp found
          obtain ⟨refusals, some⟩ : ∃ refusals, left state row.offset = refusals + 1 :=
            Nat.exists_eq_succ_of_ne_zero (by simpa using refuses)
          refine .refusing valid yields small awaits decodes split (by simpa using accepted) some ?_
          intro state' storage' update committed next
          refine ih _ ?_ shifted next decodes rfl
          have fewer := refusalsOn_update (Log.pending_ascending awaits.arranged bound)
            (mem_of_batch split) some
          rw [update]
          omega

end Run

/-- To drain a topic comes to the same whatever the batch sizes are, be they the layout's or a
decorator's, and whatever the handler refuses before it accepts it: as many polls fail as there are
refusals on what is pending, and all that is pending is acknowledged as if each batch were of one
message and each message accepted at once. -/
theorem draining_ignores_sizes_and_refusals {σ τ : Type} (namings : Namings) {topic : String}
    (member : Member) {handler : Handler σ} {left : σ → Int → Nat} {willing : Handler τ}
    {sizes : Nat → Sizing} (state : σ) (start : τ) {storage : Storage} {log : Log}
    {cursors : List CursorRow} {bound : Int} (valid : isTopic topic = true)
    (yields : Yields handler left)
    (accepts : ∀ delivery state, (willing delivery state).1 = some .accepted)
    (small : ∀ place, (sizes place).effective ≤ Value.greatestInteger)
    (alone : storage.holds = []) (arranged : log.Arranged)
    (tables : namings.Tables topic storage.committed log cursors)
    (bounded : Cursors.bound member.group cursors = .int bound)
    (decodes : ∀ row ∈ log.pending bound, member.decodes row = true) :
    ∃ count single,
      let run := member.drain namings topic handler (count + 1) sizes state storage
      let plain := member.drain namings topic willing (single + 1) (fun _ => .plain 1) start storage
      Drained sizes (log.pending bound) (left state) run.1 ∧
        Drained (fun _ => .plain 1) (log.pending bound) (fun _ => 0) plain.1 ∧
        run.2.committed = plain.2.committed ∧
        acknowledgedIn run.1 = acknowledgedIn plain.1 := by
  have awaits : namings.Awaits topic member.group log cursors bound storage :=
    ⟨alone, arranged, tables, bounded⟩
  obtain ⟨count, drained, settled⟩ : member.Drains namings topic handler left log cursors bound sizes
      state storage := Member.drains valid yields small awaits decodes
  obtain ⟨single, plain, reached⟩ : member.Drains namings topic willing (fun _ _ => 0) log cursors
      bound (fun _ => .plain 1) start storage :=
    Member.drains valid (yields_willing accepts) (fun _ => by decide) awaits decodes
  exact ⟨count, single, drained, plain, settled.trans reached.symm,
    drained.acknowledged.trans plain.acknowledged.symm⟩

def threeMessages : Storage :=
  let publisher : Publisher := { layout := Namings.usual.layout defaultBatchSize .json }
  let member : Member := { settings := { group := "billing" } }
  let published := publisher.publish "orders" [{ payload := [1] }, { payload := [2] },
    { payload := [3] }] { clock := newYear }
  ((member.subscriber .usual).setUp "orders" published.2.2).2

def waitForStock : Handler Nat := fun delivery state =>
  match delivery.offset, state with
  | 2, count + 1 => (some (.refused "no stock"), count)
  | _, _ => (some .accepted, state)

def stockMissing (state : Nat) (offset : Int) : Nat := if offset = 2 then state else 0

theorem waitForStock_yields : Yields waitForStock stockMissing where
  accepts delivery state none := by
    unfold waitForStock
    split
    · rename_i second
      simp [stockMissing, second] at none
    · exact ⟨rfl, rfl⟩
  refuses delivery state count some := by
    have second : delivery.offset = 2 := by
      by_contra other
      simp [stockMissing, other] at some
    simp only [stockMissing, second, ↓reduceIte] at some
    subst some
    simp only [waitForStock, second]
    refine ⟨⟨_, rfl⟩, ?_⟩
    funext offset
    by_cases same : offset = 2 <;> simp [stockMissing, Function.update, same]

def twoAndThree : Nat → Sizing := fun place => if place % 2 = 0 then .plain 3 else .decorated 2

theorem draining_ignores_sizes_and_refusals_of_stock :
    let member : Member := { settings := { group := "billing" } }
    let log := Namings.usual.log "orders" threeMessages.committed
    let run count := member.drain .usual "orders" waitForStock count twoAndThree 2 threeMessages
    ((run 4).1.map fun polled => polled.result) = [
      some (.error (.handler 2 (.other "no stock"))), some (.error (.handler 2 (.other "no stock"))),
      some (.ok 3), some (.ok 0)] ∧
    ∃ count single,
      let plain := member.drain .usual "orders" acceptAll (single + 1) (fun _ => .plain 1) ()
        threeMessages
      Drained twoAndThree (log.pending 0) (stockMissing 2) (run (count + 1)).1 ∧
        (run (count + 1)).2.committed = plain.2.committed := by
  intro member log run
  have tables : Namings.usual.Tables "orders" threeMessages.committed log
      (Namings.usual.cursorRows "orders" threeMessages.committed) :=
    ⟨by decide +kernel, by decide +kernel⟩
  have arranged : threeMessages.committed.Arranged := by decide +kernel
  have bounded : Cursors.bound member.group
      (Namings.usual.cursorRows "orders" threeMessages.committed) = .int 0 := by decide +kernel
  have accepts (delivery : Delivery) (state : Unit) :
      (acceptAll delivery state).1 = some .accepted := rfl
  have small (place : Nat) : (twoAndThree place).effective ≤ Value.greatestInteger := by
    unfold twoAndThree
    split <;> decide
  obtain ⟨count, single, drained, -, same, -⟩ := draining_ignores_sizes_and_refusals .usual member 2 ()
    (by decide) waitForStock_yields accepts small (by decide +kernel)
    (arranged.contents tables.messages) tables bounded (by decide +kernel)
  exact ⟨by decide +kernel, count, single, drained, same⟩

end TopicLog
