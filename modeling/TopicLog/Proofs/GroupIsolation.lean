import TopicLog.Proofs.Acceptance
import TopicLog.Proofs.Matched

/-!
Consumer groups do not influence each other. Once a topic has its tables, what one group sees of it, and
where its cursor stands, is the same whatever other groups poll, claim, mark or acknowledge.
-/
namespace TopicLog

variable {σ : Type} {namings : Namings} {topic : String} {log : Log} {rows : List CursorRow}
  {database : Database}

def Operation.isForeign (group : String) (operation : Operation σ) : Bool :=
  match operation.group? with
  | some other => other ≠ group
  | none => false

theorem Operation.topic_of_group {used : String} {operation : Operation σ}
    (uses : operation.group? = some used) : ∃ named, operation.topic? = some named := by
  cases operation with
  | pause clock => cases uses
  | _ => exact ⟨_, rfl⟩

theorem Operation.foreign_uses {group : String} {operation : Operation σ}
    (foreign : operation.isForeign group = true) :
    ∃ named other, operation.topic? = some named ∧ operation.group? = some other ∧ group ≠ other := by
  unfold isForeign at foreign
  cases uses : operation.group? with
  | none => simp [uses] at foreign
  | some other =>
      have apart : other ≠ group := by simpa [uses] using foreign
      obtain ⟨named, about⟩ := Operation.topic_of_group uses
      exact ⟨named, other, about, rfl, apart.symm⟩

theorem Operation.own_uses {group used : String} {operation : Operation σ}
    (own : operation.isForeign group = false) (uses : operation.group? = some used) :
    used = group := by
  simpa [isForeign, uses] using own

theorem Namings.Tables.apart (tables : namings.Tables topic database log rows) :
    sameName (namings.messageTable topic) (namings.cursorTable topic) = false := by
  rw [Bool.eq_false_iff]
  intro same
  have one := tables.messages
  rw [Database.contents?, database.table_of_sameName same, ← Database.contents?,
    tables.cursors] at one
  cases one

theorem Namings.Matched.cursorRow {group : String} {first second : Database}
    (matched : namings.Matched topic (Cursors.SameFor group) first second) :
    Cursors.find? group (namings.cursorRows topic first) =
      Cursors.find? group (namings.cursorRows topic second) := by
  simp only [Namings.cursorRows, Database.cursorsOf, Database.contents?]
  rcases matched.kinds with ⟨one, other⟩ | ⟨name, log, one, other⟩ |
    ⟨name, rows, rowsToo, one, other, like⟩
  · rw [one, other]
  · rw [one, other]
  · rw [one, other]
    exact like

/-- What other groups poll, claim, mark and acknowledge may be left out: publishers and the group are
answered the same, and the cursor of the group ends the same. -/
theorem groups_are_independent {operations : List (Operation σ)} {site : Site} (group : String)
    (standard : site.Standard namings) (closed : site.storage.holds = [])
    (tables : namings.Tables topic site.storage.committed log rows)
    (about : ∀ operation ∈ operations, ∀ other, operation.topic? = some other → other = topic) :
    let own := operations.filter fun operation => !operation.isForeign group
    let whole := site.run namings operations
    let alone := site.run namings own
    whole.1.filter (fun answered => !answered.1.isForeign group) = alone.1 ∧
      Cursors.find? group (namings.cursorRows topic whole.2.storage.committed) =
        Cursors.find? group (namings.cursorRows topic alone.2.storage.committed) := by
  let agree := namings.Matched topic (Cursors.SameFor group)
  have same (rows : List CursorRow) : Cursors.SameFor group rows rows := rfl
  have start : site.Agrees namings topic agree site :=
    ⟨⟨closed, closed, rfl, .refl same _⟩, fun _ => ⟨rfl, rfl, rfl⟩, standard⟩
  -- The group's own operations and those of publishers tell nothing but what is alike, and those of
  -- others write nothing that is.
  have kept (operation : Operation σ) (member : operation ∈ operations)
      (own : (!operation.isForeign group) = true) (first second : Site)
      (agrees : first.Agrees namings topic agree second) :
      (first.perform namings operation).1 = (second.perform namings operation).1 ∧
        (first.perform namings operation).2.Agrees namings topic agree
          (second.perform namings operation).2 := by
    refine agrees.kept Namings.matched_stable ?_ (about operation member)
    refine operation.respects tables.apart same (about operation member) fun used uses => ?_
    obtain rfl := Operation.own_uses (by simpa using own) uses
    exact Cursors.sameFor_tells used
  have dropped (operation : Operation σ) (member : operation ∈ operations)
      (foreign : (!operation.isForeign group) = false) (first second : Site)
      (agrees : first.Agrees namings topic agree second) :
      (first.perform namings operation).2.Agrees namings topic agree second := by
    obtain ⟨named, other, isAbout, uses, apart⟩ := Operation.foreign_uses (by simpa using foreign)
    obtain rfl := about operation member named isAbout
    refine agrees.dropped Namings.matched_stable ?_ (by simp [isAbout]) ?_
    · exact operation.spares_group tables.apart isAbout uses (Cursors.sameFor_ignores apart)
    · rintro number other messages rfl
      cases uses
  obtain ⟨answers, final⟩ :=
    Site.run_filter (Site.Agrees namings topic agree) _ operations kept dropped start
  exact ⟨answers, final.storage.committed.cursorRow⟩

def freshSite : Site where
  publishers _ := { layout := Namings.usual.layout defaultBatchSize .json }
  storage :=
    { clock := newYear
      committed :=
        { tables := [⟨"sqlqueue_orders", .log {}⟩, ⟨"sqlqueue_offsets_orders", .cursors []⟩] } }

/-- Two groups, one of which accepts while the other refuses, hangs and moves its cursor about. -/
def twoGroups : List (Operation Unit) :=
  let billing : Member := { settings := { group := "billing" }, batchSize := 1 }
  let audit : Member := { settings := { group := "audit" } }
  [.publish 0 "orders" [{ uuid := "a" }, { uuid := "b" }],
    .poll audit "orders" (fun _ state => (some (.refused "no stock"), state)) (),
    .poll billing "orders" (fun _ state => (some .accepted, state)) (),
    .acknowledge "orders" "audit" 9, .mark "orders" "audit" 7,
    .poll audit "orders" (fun _ state => (none, state)) (), .claim "orders" "audit",
    .publish 1 "orders" [{ uuid := "c" }], .claim "orders" "billing",
    .poll billing "orders" (fun _ state => (some .accepted, state)) ()]

theorem groups_are_independent_mixed :
    let own := twoGroups.filter fun operation => !operation.isForeign "billing"
    let whole := freshSite.run .usual twoGroups
    let alone := freshSite.run .usual own
    own.length = 5 ∧
      Cursors.find? "billing" (Namings.usual.cursorRows "orders" whole.2.storage.committed) =
        some ⟨.text "billing", .int 2, .int 2⟩ ∧
      whole.1.filter (fun answered => !answered.1.isForeign "billing") = alone.1 ∧
      Cursors.find? "billing" (Namings.usual.cursorRows "orders" whole.2.storage.committed) =
        Cursors.find? "billing" (Namings.usual.cursorRows "orders" alone.2.storage.committed) := by
  intro own whole alone
  refine ⟨by decide +kernel, by decide +kernel, ?_⟩
  exact groups_are_independent "billing" (fun _ => ⟨defaultBatchSize, .json, rfl⟩) rfl
    ⟨rfl, rfl⟩ (by simp [twoGroups, Operation.topic?])

end TopicLog
