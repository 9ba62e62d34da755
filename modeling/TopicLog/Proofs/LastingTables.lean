import TopicLog.Proofs.AppendOnly
import TopicLog.Proofs.Readers
import TopicLog.Proofs.Undisturbed

/-!
Tables stay until they are dropped. No other command takes a table away, so what an open transaction
wrote has all tables that are committed, and a commit loses none of them.
-/
namespace TopicLog

def Command.drops : Command → Bool
  | .dropTable _ => true
  | _ => false

def Aside.drops : Aside → Bool
  | .execute _ command => command.drops
  | _ => false

namespace Database

def has (database : Database) (name : String) : Bool := (database.contents? name).isSome

def Covers (database other : Database) : Prop :=
  ∀ name, other.has name = true → database.has name = true

variable {database middle other : Database} {name : String}

theorem covers_refl (database : Database) : database.Covers database := fun _ has => has

theorem Covers.trans (late : database.Covers middle) (early : middle.Covers other) :
    database.Covers other := fun name has => late name (early name has)

theorem covers_put (database : Database) (name : String) (contents : Contents) :
    (database.put name contents).Covers database := by
  intro other held
  rw [has, contents_put]
  split
  · simpa [has] using held
  · exact held

theorem has_addTable (database : Database) (table : Table) :
    (database.addTable table).has table.name = true := by
  simp [has, contents_addTable, sameName_refl]

theorem covers_addTable (database : Database) (table : Table) :
    (database.addTable table).Covers database := by
  intro other held
  rw [has, contents_addTable, Option.isSome_or]
  exact Bool.or_eq_true_iff.mpr (.inl held)

theorem covers_addIndex (database : Database) (index : Index) :
    (database.addIndex index).Covers database := fun _ held => held

variable {now : Timestamp} {plan : Plan}

theorem covers_of_same (same : (Storage.leaves database plan).after = database) :
    (Storage.leaves database plan).after.Covers database := by
  rw [same]
  exact covers_refl database

theorem create_covers {contents : Contents} (planned : database.create name contents = .ok plan) :
    (Storage.leaves database plan).after.Covers database := by
  rcases create_leaves planned with same | ⟨-, made⟩
  · exact covers_of_same same
  · exact made ▸ covers_addTable database _

theorem createIndex_covers {table : String} (planned : database.createIndex name table = .ok plan) :
    (Storage.leaves database plan).after.Covers database := by
  unfold createIndex at planned
  repeat' split at planned
  all_goals cases planned
  · exact covers_refl database
  · exact covers_addIndex database _

theorem onCursors_covers {column : String} {change : List CursorRow → List CursorRow}
    (planned : database.onCursors name column change = .ok plan) :
    (Storage.leaves database plan).after.Covers database := by
  obtain ⟨rows, put⟩ := onCursors_leaves planned
  exact put ▸ covers_put database name _

theorem append_covers {records : List Record}
    (planned : database.append now name records = .ok plan) :
    (Storage.leaves database plan).after.Covers database := by
  rcases append_leaves planned with same | ⟨table, log, grown, -, -, put⟩
  · exact covers_of_same same
  · exact put ▸ covers_put database name _

theorem clear_covers (planned : database.clear name = .ok plan) :
    (Storage.leaves database plan).after.Covers database := by
  simp only [clear, bind, Except.bind, pure, Except.pure] at planned
  repeat' split at planned
  all_goals cases planned
  all_goals exact covers_put database name _

theorem insertRow_covers {draft : LogDraft} (planned : database.insertRow now name draft = .ok plan) :
    (Storage.leaves database plan).after.Covers database := by
  simp only [insertRow, onLog, bind, Except.bind, pure, Except.pure] at planned
  repeat' split at planned
  all_goals cases planned
  all_goals dsimp only [Storage.leaves]
  · exact covers_put database name _
  · exact covers_refl database

theorem deleteRow_covers {offset : Int} (planned : database.deleteRow name offset = .ok plan) :
    (Storage.leaves database plan).after.Covers database := by
  simp only [deleteRow, bind, Except.bind, pure, Except.pure] at planned
  repeat' split at planned
  all_goals cases planned
  · exact covers_refl database
  · exact covers_put database name _

theorem putCursor_covers {row : CursorRow} (planned : database.putCursor name row = .ok plan) :
    (Storage.leaves database plan).after.Covers database := by
  simp only [putCursor, bind, Except.bind, pure, Except.pure] at planned
  repeat' split at planned
  all_goals cases planned
  · exact covers_refl database
  · exact covers_refl database
  · exact covers_put database name _

theorem listCursors_covers (planned : database.listCursors name = .ok plan) :
    (Storage.leaves database plan).after.Covers database := by
  simp only [listCursors, bind, Except.bind, pure, Except.pure] at planned
  split at planned
  all_goals cases planned
  exact covers_refl database

theorem plan_covers {command : Command} (keeps : command.drops = false)
    (planned : database.plan now command = .ok plan) :
    (Storage.leaves database plan).after.Covers database := by
  cases command with
  | run action =>
      cases action with
      | createLog table => exact create_covers planned
      | createCursors table => exact create_covers planned
      | createIndex index table => exact createIndex_covers planned
      | append table records => exact append_covers planned
      | fetch table claim limit =>
          exact covers_of_same ((honest_fetch planned).reads (fetch_unwritten planned))
      | claim claim =>
          exact covers_of_same ((honest_claim now planned).reads (claim_unwritten now planned))
      | markConsumed table group offset => exact onCursors_covers planned
      | acknowledge table group offset => exact onCursors_covers planned
      | startAt table group offset => exact onCursors_covers planned
      | clear table => exact clear_covers planned
  | insertRow table draft => exact insertRow_covers planned
  | deleteRow table offset => exact deleteRow_covers planned
  | dropTable table => cases keeps
  | putCursor table row => exact putCursor_covers planned
  | listCursors table => exact listCursors_covers planned
  | listNames =>
      cases planned
      exact covers_refl database

end Database

namespace Storage

/-- What open transactions wrote has all tables that are committed. -/
abbrev Lasting (storage : Storage) : Prop :=
  storage.Tracks fun _ committed view => view.Covers committed

variable {storage : Storage} {handle : Handle} {command : Command}

theorem lasting_of_closed (closed : storage.holds = []) : storage.Lasting where
  consistent := consistent_of_closed closed
  written handle view changed held := by
    rw [held?, closed] at held
    cases held

theorem Lasting.execute (lasting : storage.Lasting) (keeps : command.drops = false) :
    (storage.execute handle command).2.Lasting :=
  Tracks.execute lasting (Database.covers_refl _) fun _ planned covers =>
    (Database.plan_covers keeps planned).trans covers

theorem commit_committed (storage : Storage) (handle : Handle) :
    (storage.commit handle).committed =
      match storage.hold handle with
      | .writing view true => view
      | _ => storage.committed := by
  unfold commit
  cases storage.hold handle with
  | writing view changed => cases changed <;> rfl
  | _ => rfl

theorem Lasting.commit_covers (lasting : storage.Lasting) (handle : Handle) :
    (storage.commit handle).committed.Covers storage.committed := by
  rw [commit_committed]
  split
  · exact lasting.written handle _ _ (held_of_hold ‹_› (by simp))
  · exact Database.covers_refl _

structure Lasts (before after : Storage) : Prop where
  lasting : after.Lasting
  covers : after.committed.Covers before.committed

theorem Lasting.lasts (lasting : storage.Lasting) : Lasts storage storage :=
  ⟨lasting, Database.covers_refl _⟩

theorem Lasting.lasts_begin (lasting : storage.Lasting) : Lasts storage storage.begin.2 :=
  ⟨lasting.begin, Database.covers_refl _⟩

theorem Lasting.lasts_execute (lasting : storage.Lasting) (handle : Handle)
    (keeps : command.drops = false) :
    Lasts storage (storage.execute handle command).2 :=
  ⟨lasting.execute keeps, (storage.execute_frame handle command).1 ▸ Database.covers_refl _⟩

theorem Lasting.lasts_commit (lasting : storage.Lasting) (handle : Handle) :
    Lasts storage (storage.commit handle) := ⟨Tracks.commit lasting handle, lasting.commit_covers handle⟩

theorem Lasting.lasts_rollback (lasting : storage.Lasting) (handle : Handle) :
    Lasts storage (storage.rollback handle) :=
  ⟨Tracks.rollback lasting handle, (storage.rollback_frame handle).1 ▸ Database.covers_refl _⟩

theorem Lasting.lasts_aside (lasting : storage.Lasting) {aside : Aside} (own : Handle)
    (keeps : aside.drops = false) : Lasts storage (aside.on own storage) := by
  have begun := lasting.lasts_begin
  apply aside.keeps (Lasts storage) lasting.lasts begun
  · exact ⟨⟨⟨begun.lasting.consistent.fresh, begun.lasting.consistent.snapshot,
      begun.lasting.consistent.single⟩, begun.lasting.written⟩, begun.covers⟩
  · rintro handle command rfl -
    exact lasting.lasts_execute handle keeps
  · exact fun handle _ => lasting.lasts_commit handle
  · exact fun handle _ => lasting.lasts_rollback handle
  · exact fun clock => ⟨⟨⟨lasting.consistent.fresh, lasting.consistent.snapshot,
      lasting.consistent.single⟩, lasting.written⟩, Database.covers_refl _⟩

end Storage
end TopicLog
