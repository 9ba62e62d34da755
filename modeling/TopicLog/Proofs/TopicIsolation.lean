import TopicLog.Proofs.Dedicated
import TopicLog.Proofs.Matched

/-!
Topics under the usual names. The two tables of one topic are not those of another exactly if the topics
differ in more than the case of letters and neither is the other with `offsets_` before it. Then, and
only then, do operations on one topic leave no trace in the other.
-/
namespace TopicLog

/-- Topics that do not come too close to each other. -/
def Separate (topic other : String) : Prop :=
  sameName topic other = false ∧ sameName topic ("offsets_" ++ other) = false ∧
    sameName ("offsets_" ++ topic) other = false

instance (topic other : String) : Decidable (Separate topic other) :=
  inferInstanceAs (Decidable (_ ∧ _ ∧ _))

def Namings.FourTables (namings : Namings) (topic other : String) : Prop :=
  (namings.tables topic ++ namings.tables other).Pairwise fun a b => sameName a b = false

instance (namings : Namings) (topic other : String) :
    Decidable (namings.FourTables topic other) :=
  inferInstanceAs (Decidable (List.Pairwise _ _))

/-- An operation on a topic, or on none. -/
def Operation.isAbout {σ : Type} (topic : String) (operation : Operation σ) : Bool :=
  match operation.topic? with
  | some other => other = topic
  | none => true

/-- Operations on one topic may be left out without a trace in the other: neither the answers of the
operations on that one nor its tables show whether they were run. -/
def Namings.Isolated (namings : Namings) (topic other : String) : Prop :=
  ∀ (σ : Type) (operations : List (Operation σ)) (site : Site),
    site.Standard namings → site.storage.holds = [] →
    (∀ operation ∈ operations, ∀ named, operation.topic? = some named →
      named = topic ∨ named = other) →
    let whole := site.run namings operations
    let alone := site.run namings (operations.filter (Operation.isAbout other))
    whole.1.filter (fun answered => answered.1.isAbout other) = alone.1 ∧
      ∀ name ∈ namings.tables other,
        whole.2.storage.committed.table? name = alone.2.storage.committed.table? name

theorem sameName_append (text a b : String) :
    sameName (text ++ a) (text ++ b) = sameName a b := by
  rw [Bool.eq_iff_iff, sameName_iff, sameName_iff]
  simp

/-- Names of tables, told apart by what follows the word that they share. -/
theorem usual_tables (topic : String) : Namings.usual.tables topic =
    ["sqlqueue_" ++ topic, "sqlqueue_" ++ ("offsets_" ++ topic)] := by
  have both : "sqlqueue_offsets_" ++ topic = "sqlqueue_" ++ ("offsets_" ++ topic) := by
    rw [← String.append_assoc]
    rfl
  exact congrArg (["sqlqueue_" ++ topic, ·]) both

/-- Each topic has two tables; what is left is that they are not those of the other. -/
theorem Namings.fourTables_iff {namings : Namings} {topic other : String}
    (apart : sameName (namings.messageTable topic) (namings.cursorTable topic) = false)
    (apartToo : sameName (namings.messageTable other) (namings.cursorTable other) = false) :
    namings.FourTables topic other ↔
      ∀ name ∈ namings.tables topic, ∀ own ∈ namings.tables other, sameName name own = false := by
  unfold FourTables
  rw [List.pairwise_append]
  simp [tables, apart, apartToo]

theorem separate_iff (topic other : String) :
    Separate topic other ↔ ∀ name ∈ Namings.usual.tables topic,
      ∀ own ∈ Namings.usual.tables other, sameName name own = false := by
  simp only [Separate, usual_tables, List.forall_mem_cons, List.not_mem_nil, false_implies,
    implies_true, and_true, sameName_append]
  constructor
  · rintro ⟨letters, before, after⟩
    exact ⟨⟨letters, before⟩, after, letters⟩
  · rintro ⟨⟨letters, before⟩, after, -⟩
    exact ⟨letters, before, after⟩

section Isolated

variable {namings : Namings} {topic other : String}

theorem Namings.isolated_of_apart
    (apart : sameName (namings.messageTable other) (namings.cursorTable other) = false)
    (different : topic ≠ other)
    (elsewhere : ∀ name ∈ namings.tables topic, ∀ own ∈ namings.tables other,
      sameName name own = false) : namings.Isolated topic other := by
  intro σ operations site standard closed about whole alone
  let agree := namings.Matched other Eq
  have start : site.Agrees namings other agree site :=
    ⟨⟨closed, closed, rfl, .refl (fun _ => rfl) _⟩, fun _ => ⟨rfl, rfl, rfl⟩, standard⟩
  have kept (operation : Operation σ) (_ : operation ∈ operations)
      (own : operation.isAbout other = true) (first second : Site)
      (agrees : first.Agrees namings other agree second) :
      (first.perform namings operation).1 = (second.perform namings operation).1 ∧
        (first.perform namings operation).2.Agrees namings other agree
          (second.perform namings operation).2 := by
    have about (named : String) (on : operation.topic? = some named) : named = other := by
      simpa [Operation.isAbout, on] using own
    exact agrees.kept Namings.matched_stable
      (operation.respects apart (fun _ => rfl) about fun group _ => Cursors.eq_tells group) about
  have dropped (operation : Operation σ) (member : operation ∈ operations)
      (foreign : operation.isAbout other = false) (first second : Site)
      (agrees : first.Agrees namings other agree second) :
      (first.perform namings operation).2.Agrees namings other agree second := by
    have on : operation.topic? = some topic := by
      cases named : operation.topic? with
      | none => simp [Operation.isAbout, named] at foreign
      | some name =>
          rcases about operation member name named with rfl | rfl
          · rfl
          · simp [Operation.isAbout, named] at foreign
    refine agrees.dropped Namings.matched_stable (operation.spares_topic on elsewhere)
      (by simp [on]) ?_
    rintro number named messages rfl
    cases on
    exact different
  obtain ⟨answers, final⟩ :=
    Site.run_filter (Site.Agrees namings other agree) _ operations kept dropped start
  refine ⟨answers, ?_⟩
  have matched := final.storage.committed
  have cursors : whole.2.storage.committed.table? (namings.cursorTable other) =
      alone.2.storage.committed.table? (namings.cursorTable other) := by
    rcases matched.kinds with ⟨one, two⟩ | ⟨_, _, one, two⟩ | ⟨name, rows, _, one, two, rfl⟩
    · exact one.trans two.symm
    · exact one.trans two.symm
    · exact one.trans two.symm
  simpa [Namings.tables] using ⟨matched.messages, cursors⟩

end Isolated

def emptySite : Site where
  publishers _ := { layout := Namings.usual.layout defaultBatchSize .json }
  storage := { clock := newYear }

theorem Database.table_of_contents {database : Database} {name : String} {contents : Contents}
    (holds : database.contents? name = some contents) : database.table? name ≠ none := by
  intro missing
  simp [Database.contents?, missing] at holds

theorem Member.setUp_makes_tables (member : Member) {topic : String} (valid : isTopic topic = true) :
    ∀ name ∈ Namings.usual.tables topic,
      ((member.subscriber .usual).setUp topic emptySite.storage).2.committed.table? name ≠ none := by
  have owned : Namings.usual.Owned topic emptySite.storage.committed := Namings.owned_empty
  obtain ⟨-, -, log, rows, tables⟩ := member.setUp_owned valid owned rfl (usual_unreserved topic)
  simp only [Namings.tables, List.forall_mem_cons, List.not_mem_nil, false_implies, implies_true,
    and_true]
  exact ⟨Database.table_of_contents tables.messages, Database.table_of_contents tables.cursors⟩

/-- Where one topic has a table of the other, its set-up shows: it makes that table. -/
theorem Namings.Isolated.separate {topic other : String} (valid : isTopic topic = true)
    (different : topic ≠ other) (isolated : Namings.usual.Isolated topic other) :
    Separate topic other := by
  rw [separate_iff]
  intro name member own ownMember
  rw [Bool.eq_false_iff]
  intro same
  let billing : Member := { settings := { group := "billing" } }
  let setUp : Operation Unit := .setUpSubscriber billing topic
  have dropped : ¬ setUp.isAbout other = true := by
    simpa [setUp, Operation.isAbout, Operation.topic?] using different
  obtain ⟨-, untouched⟩ := isolated Unit [setUp] emptySite (fun _ => ⟨_, _, rfl⟩) rfl
    (by simp [setUp, Operation.topic?])
  have left := untouched own ownMember
  rw [List.filter_cons_of_neg dropped, ← Database.table_of_sameName _ same] at left
  exact billing.setUp_makes_tables valid name member left

/-- Under the usual names, the tables of two topics are four different ones, and operations on one of the
topics leave no trace in the other, exactly if the topics are separate. -/
theorem topics_are_isolated_iff_separate (topic other : String) (valid : isTopic topic = true)
    (validToo : isTopic other = true) (different : topic ≠ other) :
    (Namings.usual.FourTables topic other ↔ Separate topic other) ∧
      (Namings.usual.Isolated topic other ↔ Separate topic other) := by
  have apart := Namings.usual.apart topic valid
  have apartToo := Namings.usual.apart other validToo
  constructor
  · exact (Namings.fourTables_iff apart apartToo).trans (separate_iff topic other).symm
  · exact ⟨Namings.Isolated.separate valid different, fun separate =>
      Namings.isolated_of_apart apartToo different ((separate_iff topic other).mp separate)⟩

theorem topics_are_isolated_iff_separate_orders :
    isTopic "orders" = true ∧ isTopic "offsets.orders" = true ∧
      Namings.usual.FourTables "orders" "offsets.orders" ∧
      Namings.usual.Isolated "orders" "offsets.orders" := by
  have separate : Separate "orders" "offsets.orders" := by decide
  have both := topics_are_isolated_iff_separate "orders" "offsets.orders" (by decide) (by decide)
    (by decide)
  exact ⟨by decide, by decide, both.1.mpr separate, both.2.mpr separate⟩

def Answer.count {σ : Type} : Answer σ → Nat
  | .polled _ _ handed => handed.length
  | _ => 0

def capitalOrders : List (Operation Unit) :=
  let billing : Member := { settings := { group := "billing" } }
  [.publish 0 "Orders" [{ uuid := "a" }], .setUpSubscriber billing "orders",
    .poll billing "orders" (fun _ state => (some .accepted, state)) ()]

/-- Topics that differ in the case of letters share both tables, and the messages of one topic are handed
to the groups of the other. With `offsets_` before it, a topic keeps its messages where another one has
its cursors. -/
theorem letter_case_separates_nothing :
    isTopic "Orders" = true ∧ isTopic "orders" = true ∧ "Orders" ≠ "orders" ∧
      ¬ Namings.usual.FourTables "Orders" "orders" ∧
      (emptySite.run .usual capitalOrders).1.map (fun answered => answered.2.count) = [0, 0, 1] ∧
      (emptySite.run .usual (capitalOrders.filter (Operation.isAbout "orders"))).1.map
        (fun answered => answered.2.count) = [0, 0] ∧
      ¬ Namings.usual.Isolated "Orders" "orders" ∧
      Namings.usual.messageTable "offsets_orders" = Namings.usual.cursorTable "orders" := by
  have whole : (emptySite.run .usual capitalOrders).1.map (fun answered => answered.2.count) =
      [0, 0, 1] := by decide +kernel
  have alone : (emptySite.run .usual (capitalOrders.filter (Operation.isAbout "orders"))).1.map
      (fun answered => answered.2.count) = [0, 0] := by decide +kernel
  refine ⟨by decide, by decide, by decide, by decide, whole, alone, fun isolated => ?_, by decide⟩
  obtain ⟨answers, -⟩ := isolated Unit capitalOrders emptySite (fun _ => ⟨_, _, rfl⟩) rfl
    (by simp [capitalOrders, Operation.topic?])
  have counts : ((emptySite.run .usual capitalOrders).1.filter fun answered =>
      answered.1.isAbout "orders").map (fun answered => answered.2.count) = [0, 0] := by
    rw [answers, alone]
  have counted : ((emptySite.run .usual capitalOrders).1.filter fun answered =>
      answered.1.isAbout "orders").map (fun answered => answered.2.count) = [0, 1] := by
    decide +kernel
  rw [counted] at counts
  cases counts

end TopicLog
