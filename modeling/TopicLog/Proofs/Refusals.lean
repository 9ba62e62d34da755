import Mathlib.Logic.Function.Basic
import TopicLog.Proofs.DecodablePrefix

/-!
A poll whose handler refuses messages for a while. If there is one in the batch that it still refuses,
then the poll fails at the first of them, whatever it accepted before; else the whole batch is
acknowledged.
-/
namespace TopicLog

/-- A handler that still refuses a message so many times, and then accepts it. How many times are left
for each offset is told by its state. -/
structure Yields {σ : Type} (handler : Handler σ) (left : σ → Int → Nat) : Prop where
  accepts : ∀ delivery state, left state delivery.offset = 0 →
    (handler delivery state).1 = some .accepted ∧ left (handler delivery state).2 = left state
  refuses : ∀ delivery state count, left state delivery.offset = count + 1 →
    (∃ text, (handler delivery state).1 = some (.refused text)) ∧
      left (handler delivery state).2 = Function.update (left state) delivery.offset count

theorem yields_willing {σ : Type} {handler : Handler σ}
    (accepts : ∀ delivery state, (handler delivery state).1 = some .accepted) :
    Yields handler fun _ _ => 0 where
  accepts delivery state _ := ⟨accepts delivery state, rfl⟩
  refuses _ _ _ left := by cases left

section Play

variable {σ : Type} {handler : Handler σ} {good : σ → Prop} {member : Member} {namings : Namings}
  {topic : String} {scene : Scene} {state : σ} {cursors : List CursorRow} {count : Nat}
  {row : LogRow} {rest : List LogRow}

structure Refused (handler : Handler σ) (good : σ → Prop) (row : LogRow)
    (played : Played (Except Failure Nat) σ) : Prop where
  judged : ∃ delivery state text, delivery.offset = row.offset ∧ good state ∧
    (handler delivery state).1 = some (.refused text) ∧
    played.state = (handler delivery state).2 ∧
    played.result = some (.error (.handler row.offset (.other text)))
  unended : played.journal.isCommitted = false

theorem Refused.preceded {delivery : Delivery} {played later : Played (Except Failure Nat) σ}
    (first : Precedes delivery played later) (refused : Refused handler good row later) :
    Refused handler good row played where
  judged := by
    rw [first.state, first.result]
    exact refused.judged
  unended := first.ended.trans refused.unended

theorem Refused.following {played : Played (Except Failure Nat) σ} {entries : Journal}
    (reading : entries.Reading) (refused : Refused handler good row played) :
    Refused handler good row (played.following entries) where
  judged := refused.judged
  unended := by
    rw [Played.following, Journal.isCommitted_append, reading.unended]
    exact refused.unended

theorem play_refused {hold : Hold} {delivery : Delivery} {text : String}
    (valid : isTopic topic = true) (decoded : member.decode row = .ok delivery) (start : good state)
    (refuses : (handler delivery state).1 = some (.refused text)) (free : scene.locked = false)
    (current : scene.isOutdated = false) (held : scene.hold = some hold)
    (known : scene.view.contents? (namings.cursorTable topic) = some (.cursors cursors)) :
    Refused handler good row
      ((member.delivering namings topic (row :: rest) count).play handler state scene) := by
  have marks : scene.view.plan scene.clock
      (.run (member.mark namings topic delivery.offset).action) = .ok _ :=
    Database.onCursors_of_cursors known
  obtain ⟨wrote, marked, -⟩ := play_write scene free current held marks
  have judged : handler delivery state =
      (some (.refused text), (handler delivery state).2) := Prod.ext refuses rfl
  rw [Member.delivering_decoded valid decoded, play_statement marked]
  simp only [Script.play]
  rw [judged]
  simp only [Member.judging, Script.play, Member.decode_offset decoded]
  exact ⟨⟨delivery, state, text, Member.decode_offset decoded, start, refuses, rfl, rfl⟩, rfl⟩

theorem play_refusing {hold : Hold} {past : List LogRow} {bound : Int} (valid : isTopic topic = true)
    (decodes : ∀ each ∈ past ++ [row], member.decodes each = true)
    (willing : Willing handler good (member.deliveries past)) (start : good state)
    (refuses : ∀ delivery state, delivery.offset = row.offset → good state →
      ∃ text, (handler delivery state).1 = some (.refused text))
    (free : scene.locked = false) (current : scene.isOutdated = false)
    (held : scene.hold = some hold)
    (known : scene.view.contents? (namings.cursorTable topic) = some (.cursors cursors))
    (bounded : Cursors.bound member.group cursors = .int bound)
    (above : ∀ each ∈ past, bound < each.offset)
    (ascending : past.Pairwise fun a b => a.offset < b.offset) :
    Refused handler good row
      ((member.delivering namings topic (past ++ row :: rest) count).play handler state scene) := by
  -- What is accepted leaves the state good, and the bound below all rows that are left.
  induction past generalizing scene state cursors count hold bound with
  | nil =>
      obtain ⟨delivery, decoded⟩ := Member.decodes_iff.mp (decodes row List.mem_cons_self)
      obtain ⟨text, refused⟩ := refuses delivery state (Member.decode_offset decoded) start
      exact play_refused valid decoded start refused free current held known
  | cons first past ih =>
      obtain ⟨delivery, decoded⟩ := Member.decodes_iff.mp (decodes first List.mem_cons_self)
      obtain ⟨before, later⟩ := List.pairwise_cons.mp ascending
      have moves := bound_ne bounded (above first List.mem_cons_self)
      rw [Member.deliveries_decoded decoded] at willing
      obtain ⟨accepted, next⟩ := willing delivery List.mem_cons_self state start
      apply Refused.preceded (play_row state _ count valid decoded accepted free current held known
        moves)
      exact ih (fun each member => decodes each (List.mem_cons_of_mem first member))
        (fun later member => willing later (List.mem_cons_of_mem delivery member)) next free rfl rfl
        (Scene.acknowledging_known first.offset known) (Cursors.bound_acknowledge _ _ _) before later

end Play

theorem Member.deliveries_offset {member : Member} {rows : List LogRow} {delivery : Delivery}
    (delivers : delivery ∈ member.deliveries rows) : ∃ row ∈ rows, delivery.offset = row.offset := by
  obtain ⟨row, inside, decoded⟩ := List.mem_filterMap.mp delivers
  refine ⟨row, (List.takeWhile_prefix _).subset inside, ?_⟩
  cases decodes : member.decode row with
  | error failure =>
      rw [decodes] at decoded
      cases decoded
  | ok made =>
      rw [decodes] at decoded
      cases decoded
      exact decode_offset decodes

/-- A storage in which no other transaction is open, and a group has come to a bound of the log. -/
structure Namings.Awaits (namings : Namings) (topic group : String) (log : Log)
    (cursors : List CursorRow) (bound : Int) (storage : Storage) : Prop where
  alone : storage.holds = []
  arranged : log.Arranged
  tables : namings.Tables topic storage.committed log cursors
  bounded : Cursors.bound group cursors = .int bound

section Poll

variable {σ : Type} {handler : Handler σ} {left : σ → Int → Nat} {namings : Namings} {topic : String}
  {member : Member} {log : Log} {cursors : List CursorRow} {bound : Int} {state : σ}
  {storage : Storage}

theorem Yields.willing (yields : Yields handler left) (refusals : Int → Nat) {rows : List LogRow}
    (none : ∀ row ∈ rows, refusals row.offset = 0) :
    Willing handler (fun state => left state = refusals) (member.deliveries rows) := by
  intro delivery delivers state same
  obtain ⟨row, inside, offset⟩ := Member.deliveries_offset delivers
  obtain ⟨accepted, kept⟩ := yields.accepts delivery state (by rw [same, offset, none row inside])
  exact ⟨accepted, kept.trans same⟩

theorem poll_accepting (valid : isTopic topic = true) (yields : Yields handler left)
    (awaits : namings.Awaits topic member.group log cursors bound storage)
    (size : member.effectiveBatchSize ≤ Value.greatestInteger)
    (none : ∀ row ∈ member.taken log bound, left state row.offset = 0) :
    Plays member (namings.cursorTable topic) handler (member.taken log bound) 0 cursors state
        storage.snapshot ((member.subscriber namings).played topic handler state storage) ∧
      left ((member.subscriber namings).poll topic handler state storage).2.1 = left state := by
  rw [← taken_eq] at none ⊢
  have willing : Willing handler (fun now => left now = left state)
      (member.deliveries (log.after (.int bound) member.effectiveBatchSize)) :=
    yields.willing (left state) none
  have plays := poll_plays_willing valid willing rfl (Storage.fresh_of_closed awaits.alone)
    (Storage.snapshot_free awaits.alone) awaits.arranged awaits.tables
    awaits.bounded size
  exact ⟨plays, (congrArg left plays.state).trans (willing.foldl rfl)⟩

theorem poll_refusing {past rest : List LogRow} {row : LogRow} {count : Nat}
    (valid : isTopic topic = true) (yields : Yields handler left)
    (awaits : namings.Awaits topic member.group log cursors bound storage)
    (size : member.effectiveBatchSize ≤ Value.greatestInteger)
    (decodes : ∀ each ∈ member.taken log bound, member.decodes each = true)
    (split : member.taken log bound = past ++ row :: rest)
    (none : ∀ each ∈ past, left state each.offset = 0)
    (some : left state row.offset = count + 1) :
    (∃ text, ((member.subscriber namings).poll topic handler state storage).1 =
        .some (.error (.handler row.offset (.other text)))) ∧
      left ((member.subscriber namings).poll topic handler state storage).2.1 =
        Function.update (left state) row.offset count ∧
      ((member.subscriber namings).journal topic handler state storage).isCommitted = false := by
  obtain ⟨entries, reading, comes⟩ := poll_play handler state valid
    (Storage.fresh_of_closed awaits.alone) awaits.tables awaits.bounded size
  have ascending := Log.batch_ascending awaits.arranged.ascending bound member.effectiveBatchSize
  have above : ∀ each ∈ member.taken log bound, bound < each.offset := by
    rw [← taken_eq]
    exact fun each member => (Log.batch_above member).2
  rw [taken_eq, split] at comes
  rw [taken_eq, split] at ascending
  rw [split] at decodes above
  -- The rows before the refused one are willing, and the transaction goes back with all of them.
  have refused : Refused handler (fun now => left now = left state) row
      ((member.subscriber namings).played topic handler state storage) := by
    rw [comes]
    refine Refused.following reading (play_refusing valid ?_ (yields.willing _ none) rfl ?_
      (Storage.snapshot_free awaits.alone) storage.snapshot_current rfl awaits.tables.cursors
      awaits.bounded ?_ (List.pairwise_append.mp ascending).1)
    · intro each member
      apply decodes each
      rcases List.mem_append.mp member with early | last
      · exact List.mem_append_left _ early
      · rw [List.mem_singleton.mp last]
        simp
    · intro delivery now offset same
      exact (yields.refuses delivery now count (by rw [same, offset, some])).1
    · exact fun each member => above each (List.mem_append_left _ member)
  obtain ⟨⟨delivery, now, text, offset, same, judged, after, result⟩, unended⟩ := refused
  refine ⟨⟨text, result⟩, ?_, unended⟩
  have update := (yields.refuses delivery now count (by rw [same, offset, some])).2
  rw [same, offset] at update
  rw [← update]
  exact congrArg left after

end Poll

end TopicLog
