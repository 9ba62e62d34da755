import TopicLog.Proofs.SideSteps
import TopicLog.Proofs.Cursors
import TopicLog.Proofs.Layouts

/-!
Transactions that claim the bound of a group and then write cursors as they please: any offsets, of any
groups. Any number of them take their steps in between each other, while publishers append and set-ups
make the tables.
-/
namespace TopicLog

namespace Upsert

def apply : Upsert → List CursorRow → List CursorRow
  | .mark delivery group => Cursors.mark group delivery.offset
  | .acknowledge delivery group => Cursors.acknowledge group delivery.offset

def applyAll (upserts : List Upsert) (rows : List CursorRow) : List CursorRow :=
  upserts.foldl (fun rows upsert => upsert.apply rows) rows

/-- Whether one of them, in its turn, writes anything else than what is there. -/
def alter : List Upsert → List CursorRow → Bool
  | [], _ => false
  | upsert :: rest, rows => upsert.apply rows ≠ rows || alter rest (upsert.apply rows)

theorem applyAll_snoc (upserts : List Upsert) (upsert : Upsert) (rows : List CursorRow) :
    applyAll (upserts ++ [upsert]) rows = upsert.apply (applyAll upserts rows) :=
  List.foldl_append

theorem alter_snoc (upserts : List Upsert) (upsert : Upsert) (rows : List CursorRow) :
    alter (upserts ++ [upsert]) rows =
      (alter upserts rows ||
        decide (upsert.apply (applyAll upserts rows) ≠ applyAll upserts rows)) := by
  induction upserts generalizing rows with
  | nil => by_cases same : upsert.apply rows = rows <;> simp [alter, applyAll, same]
  | cons first rest ih =>
      simp only [List.cons_append, alter, ih, Bool.or_assoc]
      rfl

theorem applyAll_unaltered {upserts : List Upsert} {rows : List CursorRow}
    (unaltered : alter upserts rows = false) : applyAll upserts rows = rows := by
  induction upserts with
  | nil => rfl
  | cons first rest ih =>
      obtain ⟨same, later⟩ := Bool.or_eq_false_iff.mp unaltered
      have kept : first.apply rows = rows := by simpa using same
      rw [kept] at later
      change applyAll rest (first.apply rows) = rows
      rw [kept]
      exact ih later

end Upsert

/-- A transaction that claims the bound of a group first. -/
structure Claimant where
  group : String
  claimed : Option Value := none
  upserts : List Upsert := []
  deriving DecidableEq

inductive ClaimEvent where
  | begin (group : String)
  | claim (handle : Handle)
  | select (handle : Handle) (group : String) (batchSize : Nat) (codec : Codec)
  | write (handle : Handle) (upsert : Upsert)
  | commit (handle : Handle)
  | rollback (handle : Handle)
  | publish (codec : Codec) (settings : PublisherSettings) (initialized : List String)
      (messages : List Message)
  | setUp (member : Member)
  | move (move : Move)
  | pause (clock : Timestamp)

structure Claimants where
  storage : Storage
  /-- The transactions that were begun and have not ended. -/
  active : Handle → Option Claimant := fun _ => none

namespace Claimants

def set (claimants : Claimants) (handle : Handle) (claimant : Option Claimant) :
    Handle → Option Claimant :=
  fun other => if other = handle then claimant else claimants.active other

def withStorage (claimants : Claimants) (storage : Storage) : Claimants :=
  { claimants with storage }

def isOutside (claimants : Claimants) (handle : Handle) : Bool := (claimants.active handle).isNone

def attempt (claimants : Claimants) (handle : Handle) (claimant : Claimant)
    (built : Except Failure Statement) (note : Effect → Claimant) : Claimants :=
  match built with
  | .error _ => claimants
  | .ok statement =>
      let (answer, storage) := claimants.storage.execute handle (.run statement.action)
      { storage
        active := claimants.set handle <| some <| match answer with
          | .ok effect => note effect
          | .error _ => claimant }

/-- A transaction claims once; until then it runs nothing else. -/
def step (namings : Namings) (topic : String) (claimants : Claimants) : ClaimEvent → Claimants
  | .begin group =>
      let (handle, storage) := claimants.storage.beginIsolated
      { storage, active := claimants.set handle (some { group }) }
  | .claim handle =>
      match claimants.active handle with
      | none => claimants
      | some claimant =>
          if claimant.claimed.isSome then claimants
          else claimants.attempt handle claimant
            ((namings.cursorLayout.claim topic claimant.group).map Claim.statement)
            fun effect => { claimant with claimed := (effect.rows.headD []).head? }
  | .select handle group batchSize codec =>
      match claimants.active handle with
      | none => claimants
      | some claimant =>
          if claimant.claimed.isNone then claimants
          else claimants.attempt handle claimant
            ((namings.layout batchSize codec).fetch topic group namings.cursorLayout)
            fun _ => claimant
  | .write handle upsert =>
      match claimants.active handle with
      | none => claimants
      | some claimant =>
          if claimant.claimed.isNone then claimants
          else claimants.attempt handle claimant (upsert.statement namings.cursorLayout topic)
            fun _ => { claimant with upserts := claimant.upserts ++ [upsert] }
  | .commit handle =>
      match claimants.active handle with
      | none => claimants
      | some _ =>
          { storage := claimants.storage.commit handle, active := claimants.set handle none }
  | .rollback handle =>
      match claimants.active handle with
      | none => claimants
      | some _ =>
          { storage := claimants.storage.rollback handle, active := claimants.set handle none }
  | .publish codec settings initialized messages =>
      let publisher : Publisher :=
        { layout := namings.layout defaultBatchSize codec, settings, initialized }
      claimants.withStorage (publisher.publish topic messages claimants.storage).2.2
  | .setUp member =>
      claimants.withStorage ((member.subscriber namings).setUp topic claimants.storage).2
  | .move move =>
      claimants.withStorage (move.on namings topic claimants.isOutside claimants.storage)
  | .pause clock => claimants.withStorage { claimants.storage with clock }.settle

def run (namings : Namings) (topic : String) (events : List ClaimEvent) (claimants : Claimants) :
    Claimants :=
  events.foldl (fun claimants event => claimants.step namings topic event) claimants

end Claimants

end TopicLog
