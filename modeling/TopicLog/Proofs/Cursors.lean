import TopicLog.Database

/-!
The bound of a group after its row was written. Marking an offset as consumed moves no bound;
acknowledging one moves the bound of the group and of no other.
-/
namespace TopicLog.Cursors

def acked (group : String) (rows : List CursorRow) : Int :=
  match bound group rows with
  | .int n => n
  | _ => 0

theorem acked_of_bound {group : String} {rows : List CursorRow} {n : Int}
    (bounded : bound group rows = .int n) : acked group rows = n := by simp [acked, bounded]

section Upsert

variable {group other : String} {update : CursorRow → CursorRow} {fresh : CursorRow}
  (keeps : ∀ row, (update row).group = row.group) (named : fresh.group = .text group)
include keeps named

theorem find_upsert_self (rows : List CursorRow) :
    find? group (upsert group update fresh rows) =
      some ((find? group rows).elim fresh update) := by
  induction rows with
  | nil => simp [upsert, find?, named]
  | cons row rest ih =>
      by_cases hit : row.group = .text group
      · simp [upsert, find?, hit, keeps]
      · simpa [upsert, find?, hit] using ih

theorem find_upsert_other (apart : other ≠ group) (rows : List CursorRow) :
    find? other (upsert group update fresh rows) = find? other rows := by
  induction rows with
  | nil => simp [upsert, find?, named, apart.symm]
  | cons row rest ih =>
      by_cases hit : row.group = .text group
      · simp [upsert, find?, hit, keeps, apart.symm]
      · by_cases mine : row.group = .text other
        · simp [upsert, find?, mine, apart]
        · simpa [upsert, find?, hit, mine] using ih

theorem others_upsert (rows : List CursorRow) :
    (upsert group update fresh rows).filter (fun row => row.group ≠ .text group) =
      rows.filter fun row => row.group ≠ .text group := by
  induction rows with
  | nil => simp [upsert, named]
  | cons row rest ih =>
      by_cases hit : row.group = .text group
      · simp [upsert, hit, keeps]
      · simpa [upsert, hit] using ih

end Upsert

theorem upsert_upsert {group : String} {update earlier : CursorRow → CursorRow}
    {fresh first : CursorRow} (keepsEarlier : ∀ row, (earlier row).group = row.group)
    (namedFirst : first.group = .text group) (rows : List CursorRow) :
    upsert group update fresh (upsert group earlier first rows) =
      upsert group (fun row => update (earlier row)) (update first) rows := by
  induction rows with
  | nil => simp [upsert, namedFirst]
  | cons row rest ih =>
      by_cases hit : row.group = .text group
      · simp [upsert, hit, keepsEarlier]
      · simpa [upsert, hit] using ih

theorem find_mark (group : String) (offset : Int) (rows : List CursorRow) :
    find? group (mark group offset rows) =
      some ((find? group rows).elim ⟨.text group, .null, .int offset⟩
        fun row => { row with consumed := .int offset }) :=
  find_upsert_self (by simp) rfl rows

theorem find_mark_other {group other : String} (apart : other ≠ group) (offset : Int)
    (rows : List CursorRow) : find? other (mark group offset rows) = find? other rows :=
  find_upsert_other (by simp) rfl apart rows

theorem find_acknowledge (group : String) (offset : Int) (rows : List CursorRow) :
    find? group (acknowledge group offset rows) =
      some ((find? group rows).elim ⟨.text group, .int offset, .int offset⟩
        fun row => { row with acked := .int offset, consumed := .int offset }) :=
  find_upsert_self (by simp) rfl rows

theorem find_acknowledge_other {group other : String} (apart : other ≠ group) (offset : Int)
    (rows : List CursorRow) :
    find? other (acknowledge group offset rows) = find? other rows :=
  find_upsert_other (by simp) rfl apart rows

theorem bound_of_find {group : String} {rows others : List CursorRow}
    (same : find? group rows = find? group others) : bound group rows = bound group others := by
  simp [bound, same]

theorem bound_mark (group other : String) (offset : Int) (rows : List CursorRow) :
    bound other (mark group offset rows) = bound other rows := by
  by_cases same : other = group
  · subst other
    cases inside : find? group rows <;> simp [bound, find_mark, inside]
  · exact bound_of_find (find_mark_other same offset rows)

theorem bound_acknowledge (group : String) (offset : Int) (rows : List CursorRow) :
    bound group (acknowledge group offset rows) = .int offset := by
  cases inside : find? group rows <;> simp [bound, find_acknowledge, inside]

theorem bound_acknowledge_other {group other : String} (apart : other ≠ group) (offset : Int)
    (rows : List CursorRow) : bound other (acknowledge group offset rows) = bound other rows :=
  bound_of_find (find_acknowledge_other apart offset rows)

theorem acknowledge_changes {group : String} (offset : Int) {rows : List CursorRow}
    (moves : bound group rows ≠ .int offset) : acknowledge group offset rows ≠ rows := by
  intro same
  exact moves (same ▸ bound_acknowledge group offset rows)

theorem acknowledge_mark (group : String) (offset earlier : Int) (rows : List CursorRow) :
    acknowledge group offset (mark group earlier rows) = acknowledge group offset rows :=
  upsert_upsert (by simp) rfl rows

theorem acknowledge_acknowledge (group : String) (offset earlier : Int) (rows : List CursorRow) :
    acknowledge group offset (acknowledge group earlier rows) = acknowledge group offset rows :=
  upsert_upsert (by simp) rfl rows

end TopicLog.Cursors
