import TopicLog.Proofs.Cursors
import TopicLog.Proofs.Publishing

/-!
What a database says of one topic: its log, and how far each group acknowledged it. Marking moves no
bound, acknowledging moves the bound of one group, and publishing extends the log.
-/
namespace TopicLog.Namings

def acked (namings : Namings) (topic : String) (database : Database) (group : String) : Int :=
  Cursors.acked group (namings.cursorRows topic database)

def claim (namings : Namings) (topic group : String) : Claim :=
  ⟨.sqlite, namings.cursorTable topic, group⟩

/-- A database whose tables of a topic were written by publishers and polls alone. -/
structure Sound (namings : Namings) (topic : String) (database : Database) : Prop where
  messages : ∀ contents, database.contents? (namings.messageTable topic) = some contents →
    ∃ log, contents = .log log
  cursors : ∀ contents, database.contents? (namings.cursorTable topic) = some contents →
    ∃ rows, contents = .cursors rows
  ordered : (namings.log topic database).Ordered
  bound : ∀ group, Cursors.bound group (namings.cursorRows topic database) =
    .int (namings.acked topic database group)
  within : ∀ group, 0 ≤ namings.acked topic database group ∧
    namings.acked topic database group ≤ (namings.log topic database).last

/-- One database after another in which a group's bound may have moved, and nothing else of the
topic. -/
structure Advanced (namings : Namings) (topic : String) (before after : Database) (group : String)
    (bound : Int) : Prop where
  sound : namings.Sound topic after
  log : namings.log topic after = namings.log topic before
  own : namings.acked topic after group = bound
  other : ∀ other, other ≠ group →
    namings.acked topic after other = namings.acked topic before other

/-- One database after another to which records were published, perhaps. -/
structure Published (namings : Namings) (topic : String) (before after : Database) : Prop where
  sound : namings.Sound topic after
  grown : Log.Extends (namings.log topic before) (namings.log topic after)
  cursors : namings.cursorRows topic after = namings.cursorRows topic before

variable {namings : Namings} {topic group : String} {database : Database}

theorem Published.acked {before after : Database} (published : namings.Published topic before after)
    (group : String) : namings.acked topic after group = namings.acked topic before group := by
  rw [Namings.acked, published.cursors]
  rfl

theorem Sound.advanced (sound : namings.Sound topic database) :
    namings.Advanced topic database database group (namings.acked topic database group) :=
  ⟨sound, rfl, rfl, fun _ _ => rfl⟩

theorem Advanced.trans {a b c : Database} {first second : Int}
    (early : namings.Advanced topic a b group first)
    (late : namings.Advanced topic b c group second) :
    namings.Advanced topic a c group second where
  sound := late.sound
  log := late.log.trans early.log
  own := late.own
  other other apart := (late.other other apart).trans (early.other other apart)

theorem Sound.published (sound : namings.Sound topic database) :
    namings.Published topic database database := ⟨sound, Log.extends_refl _, rfl⟩

theorem Published.trans {a b c : Database} (early : namings.Published topic a b)
    (late : namings.Published topic b c) : namings.Published topic a c where
  sound := late.sound
  grown := Log.extends_trans early.grown late.grown
  cursors := late.cursors.trans early.cursors

theorem cursorRows_put {rows : List CursorRow} (written : List CursorRow)
    (holds : database.contents? (namings.cursorTable topic) = some (.cursors rows)) :
    namings.cursorRows topic (database.put (namings.cursorTable topic) (.cursors written)) =
      written :=
  Database.cursorsOf_eq (Database.contents_put_held _ holds)

theorem advanced_put (valid : isTopic topic = true) (sound : namings.Sound topic database)
    {rows rewritten : List CursorRow} {bound : Int}
    (holds : database.contents? (namings.cursorTable topic) = some (.cursors rows))
    (own : Cursors.bound group rewritten = .int bound)
    (elsewhere : ∀ other, other ≠ group →
      Cursors.bound other rewritten = Cursors.bound other rows)
    (within : 0 ≤ bound ∧ bound ≤ (namings.log topic database).last) :
    namings.Advanced topic database
      (database.put (namings.cursorTable topic) (.cursors rewritten)) group bound := by
  have messages := database.contents_put_other (.cursors rewritten)
    (apart_cursors namings valid)
  have cursors := Database.contents_put_held (.cursors rewritten) holds
  have sameLog : namings.log topic (database.put (namings.cursorTable topic) (.cursors rewritten)) =
      namings.log topic database := by simp only [log, Database.logOf, messages]
  have before : namings.cursorRows topic database = rows := Database.cursorsOf_eq holds
  have after := namings.cursorRows_put rewritten holds
  have ownAcked : namings.acked topic
      (database.put (namings.cursorTable topic) (.cursors rewritten)) group = bound := by
    rw [acked, after]
    exact Cursors.acked_of_bound own
  have otherAcked : ∀ other, other ≠ group → namings.acked topic
      (database.put (namings.cursorTable topic) (.cursors rewritten)) other =
        namings.acked topic database other := by
    intro other apart
    rw [acked, acked, after, before, Cursors.acked, Cursors.acked, elsewhere other apart]
  refine ⟨⟨?_, ?_, ?_, ?_, ?_⟩, sameLog, ownAcked, otherAcked⟩
  · rw [messages]
    exact sound.messages
  · intro contents found
    rw [cursors] at found
    exact ⟨rewritten, (Option.some.inj found).symm⟩
  · rw [sameLog]
    exact sound.ordered
  · intro any
    by_cases mine : any = group
    · rw [mine, after, ownAcked, own]
    · rw [otherAcked any mine, after, elsewhere any mine, ← before]
      exact sound.bound any
  · intro any
    rw [sameLog]
    by_cases mine : any = group
    · rw [mine, ownAcked]
      exact within
    · rw [otherAcked any mine]
      exact sound.within any

/-! The statements of a poll. -/

theorem plan_claim (group : String) (sound : namings.Sound topic database) (now : Timestamp) :
    (∃ fault, database.plan now (.run (.claim (namings.claim topic group))) = .error fault) ∨
      database.plan now (.run (.claim (namings.claim topic group))) =
        .ok (.read database [[.int (namings.acked topic database group)]]) := by
  cases held : database.contents? (namings.cursorTable topic) with
  | none => exact .inl ⟨_, by simp [Database.plan, Database.planAction,
      Database.bound_of_missing (namings.claim topic group) held, Except.map]; rfl⟩
  | some contents =>
      obtain ⟨rows, rfl⟩ := sound.cursors contents held
      have known := sound.bound group
      rw [cursorRows, Database.cursorsOf_eq held] at known
      have bound : database.bound (namings.claim topic group) =
          .ok (.int (namings.acked topic database group)) :=
        (Database.bound_of_cursors (namings.claim topic group) held).trans
          (congrArg _ known)
      exact .inr (by simp [Database.plan, Database.planAction, bound, Except.map])

theorem plan_fetch (group : String) (sound : namings.Sound topic database) (now : Timestamp)
    (limit : Nat) :
    (∃ fault, database.plan now (.run (.fetch (namings.messageTable topic)
      (namings.claim topic group) limit)) = .error fault) ∨
    ∃ plan, database.plan now (.run (.fetch (namings.messageTable topic)
      (namings.claim topic group) limit)) = .ok plan ∧ plan.writes = false ∧
      ((∃ fault, plan.outcome = .error fault) ∨ plan.outcome = .ok
        { after := database
          rows := ((namings.log topic database).after
            (.int (namings.acked topic database group)) limit).map Log.columns }) := by
  simp only [Database.plan, Database.planAction]
  cases messages : database.contents? (namings.messageTable topic) with
  | none => exact .inl (Database.fetch_of_missing (.inl messages))
  | some contents =>
      obtain ⟨log, rfl⟩ := sound.messages contents messages
      cases cursors : database.contents? (namings.cursorTable topic) with
      | none => exact .inl (Database.fetch_of_missing (.inr cursors))
      | some contents =>
          obtain ⟨rows, rfl⟩ := sound.cursors contents cursors
          have known := sound.bound group
          rw [cursorRows, Database.cursorsOf_eq cursors] at known
          have sameLog : namings.log topic database = log := Database.logOf_eq messages
          have planned := Database.fetch_of_log (namings.claim topic group) limit
            messages cursors
          refine .inr ⟨_, planned, ?_⟩
          split
          · exact ⟨rfl, .inl ⟨.mismatch, rfl⟩⟩
          · refine ⟨rfl, .inr ?_⟩
            rw [sameLog, ← known]
            rfl

theorem plan_mark (group : String) (valid : isTopic topic = true)
    (sound : namings.Sound topic database) (now : Timestamp) (offset : Int) :
    (∃ fault, database.plan now (.run (.markConsumed (namings.cursorTable topic) group offset)) =
      .error fault) ∨
    ∃ after changed,
      database.plan now (.run (.markConsumed (namings.cursorTable topic) group offset)) =
        .ok (.write after 1 changed) ∧
      namings.Advanced topic database after group (namings.acked topic database group) := by
  simp only [Database.plan, Database.planAction]
  cases held : database.contents? (namings.cursorTable topic) with
  | none => exact .inl ⟨_, Database.onCursors_of_missing held⟩
  | some contents =>
      obtain ⟨rows, rfl⟩ := sound.cursors contents held
      have same : namings.cursorRows topic database = rows := Database.cursorsOf_eq held
      refine .inr ⟨_, _, Database.onCursors_of_cursors held, ?_⟩
      refine advanced_put valid sound held ?_ ?_ (sound.within group)
      · rw [Cursors.bound_mark, ← same]
        exact sound.bound group
      · intro other _
        exact Cursors.bound_mark group other offset rows

theorem plan_acknowledge (group : String) (valid : isTopic topic = true)
    (sound : namings.Sound topic database) (now : Timestamp) {offset : Int} (positive : 0 ≤ offset)
    (used : offset ≤ (namings.log topic database).last) :
    (∃ fault, database.plan now (.run (.acknowledge (namings.cursorTable topic) group offset)) =
      .error fault) ∨
    ∃ after changed,
      database.plan now (.run (.acknowledge (namings.cursorTable topic) group offset)) =
        .ok (.write after 1 changed) ∧
      namings.Advanced topic database after group offset ∧
      (namings.acked topic database group ≠ offset → changed = true) := by
  simp only [Database.plan, Database.planAction]
  cases held : database.contents? (namings.cursorTable topic) with
  | none => exact .inl ⟨_, Database.onCursors_of_missing held⟩
  | some contents =>
      obtain ⟨rows, rfl⟩ := sound.cursors contents held
      have same : namings.cursorRows topic database = rows := Database.cursorsOf_eq held
      refine .inr ⟨_, _, Database.onCursors_of_cursors held, ?_, ?_⟩
      · apply advanced_put valid sound held (Cursors.bound_acknowledge group offset rows)
        · intro other apart
          exact Cursors.bound_acknowledge_other apart offset rows
        · exact ⟨positive, used⟩
      · intro moves
        have bound := sound.bound group
        rw [same] at bound
        simpa using Cursors.acknowledge_changes offset (by simpa [bound] using moves)

/-! The statements of publishers and set-ups. -/

theorem Sound.logged (sound : namings.Sound topic database) : namings.Logged topic database :=
  ⟨sound.messages, sound.ordered⟩

theorem plan_publishes (valid : isTopic topic = true) (sound : namings.Sound topic database)
    {now : Timestamp} {action : Action} {plan : Plan}
    (allowed : namings.publishes topic action = true)
    (planned : database.plan now (.run action) = .ok plan) :
    namings.Published topic database (Storage.leaves database plan).after := by
  have publishing := plan_publishing valid allowed planned
  have grown := publishing.grown sound.logged
  have same := publishing.cursorRows
  have acked : namings.acked topic (Storage.leaves database plan).after =
      namings.acked topic database := by
    funext group
    rw [Namings.acked, Namings.acked, same]
  refine ⟨⟨grown.logged.messages, (publishing.keeps sound.cursors).kept, grown.logged.ordered,
    ?_, ?_⟩, grown.grown, same⟩
  · intro group
    rw [same, acked]
    exact sound.bound group
  · intro group
    rw [acked]
    exact ⟨(sound.within group).1, Int.le_trans (sound.within group).2 grown.grown.last⟩

end TopicLog.Namings
