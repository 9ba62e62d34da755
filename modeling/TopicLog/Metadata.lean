/-!
Metadata: text keys with text values, each key once. Entries stand in ascending order of their keys,
compared code point by code point, so two metadata with the same look-ups are equal.
-/
namespace TopicLog

structure Metadata where
  entries : List (String × String)
  ascending : entries.Pairwise fun a b => a.1 < b.1
  deriving DecidableEq

namespace Metadata

def empty : Metadata := ⟨[], .nil⟩

instance : Inhabited Metadata := ⟨empty⟩

/-- Puts an entry at its place; an entry of the same key is replaced. -/
def place (key value : String) : List (String × String) → List (String × String)
  | [] => [(key, value)]
  | entry :: rest =>
      if key < entry.1 then (key, value) :: entry :: rest
      else if entry.1 < key then entry :: place key value rest
      else (entry.1, value) :: rest

theorem mem_place {key value : String} {entries : List (String × String)}
    {entry : String × String} (member : entry ∈ place key value entries) :
    entry.1 = key ∨ ∃ old ∈ entries, old.1 = entry.1 := by
  induction entries with
  | nil => simp_all [place]
  | cons head rest ih =>
      simp only [place] at member
      split at member
      · rcases List.mem_cons.mp member with rfl | old
        · exact .inl rfl
        · exact .inr ⟨entry, old, rfl⟩
      · split at member
        · rcases List.mem_cons.mp member with rfl | later
          · exact .inr ⟨entry, List.mem_cons_self, rfl⟩
          · rcases ih later with same | ⟨old, inside, same⟩
            · exact .inl same
            · exact .inr ⟨old, List.mem_cons_of_mem _ inside, same⟩
        · rcases List.mem_cons.mp member with rfl | old
          · exact .inr ⟨head, List.mem_cons_self, rfl⟩
          · exact .inr ⟨entry, List.mem_cons_of_mem _ old, rfl⟩

theorem place_ascending {key value : String} {entries : List (String × String)}
    (ascending : entries.Pairwise fun a b => a.1 < b.1) :
    (place key value entries).Pairwise fun a b => a.1 < b.1 := by
  induction entries with
  | nil => simp [place]
  | cons head rest ih =>
      obtain ⟨before, later⟩ := List.pairwise_cons.mp ascending
      simp only [place]
      split
      · rename_i first
        refine List.pairwise_cons.mpr ⟨fun entry member => ?_, ascending⟩
        rcases List.mem_cons.mp member with rfl | inside
        · exact first
        · exact String.lt_trans first (before entry inside)
      · split
        · rename_i follows
          refine List.pairwise_cons.mpr ⟨fun entry member => ?_, ih later⟩
          rcases mem_place member with same | ⟨old, inside, same⟩
          · exact same ▸ follows
          · exact same ▸ before old inside
        · exact List.pairwise_cons.mpr ⟨before, later⟩

def insert (metadata : Metadata) (key value : String) : Metadata :=
  ⟨place key value metadata.entries, place_ascending metadata.ascending⟩

/-- Entries are added in order, so of equal keys the last one stays. -/
def ofList (entries : List (String × String)) : Metadata :=
  entries.foldl (fun metadata entry => metadata.insert entry.1 entry.2) empty

def get? (metadata : Metadata) (key : String) : Option String := metadata.entries.lookup key

theorem lookup_place (key value other : String) (entries : List (String × String)) :
    (place key value entries).lookup other =
      if other = key then some value else entries.lookup other := by
  induction entries with
  | nil =>
      by_cases same : other = key
      · simp [place, same]
      · simp [place, same, List.lookup_cons, beq_eq_false_iff_ne.mpr same]
  | cons head rest ih =>
      rw [place]
      split
      · by_cases same : other = key
        · simp [same]
        · simp [same, List.lookup_cons, beq_eq_false_iff_ne.mpr same]
      · rename_i notBefore
        split
        · rename_i before
          have different : key ≠ head.1 := fun same => String.lt_irrefl key (same ▸ before)
          rw [List.lookup_cons, List.lookup_cons, ih]
          by_cases same : other = key
          · simp [same, beq_eq_false_iff_ne.mpr different]
          · simp [same]
        · rename_i notAfter
          have same : key = head.1 := String.le_antisymm notAfter notBefore
          rw [List.lookup_cons, List.lookup_cons, same]
          by_cases found : other = head.1
          · simp [found]
          · simp [found, beq_eq_false_iff_ne.mpr found]

theorem get?_insert (metadata : Metadata) (key value other : String) :
    (metadata.insert key value).get? other =
      if other = key then some value else metadata.get? other :=
  lookup_place key value other metadata.entries

theorem lookup_below {key : String} {entries : List (String × String)}
    (below : ∀ entry ∈ entries, key < entry.1) : entries.lookup key = none := by
  apply List.lookup_eq_none_iff.mpr
  intro entry member
  exact bne_iff_ne.mpr fun same => String.lt_irrefl key (same ▸ below entry member)

theorem lookup_head (head : String × String) (rest : List (String × String)) :
    (head :: rest).lookup head.1 = some head.2 := by
  rw [List.lookup_cons, beq_self_eq_true]

theorem first_le {key value : String} {head : String × String} {rest : List (String × String)}
    (ascending : (head :: rest).Pairwise fun a b => a.1 < b.1)
    (found : (head :: rest).lookup key = some value) : head.1 ≤ key := by
  by_cases below : key < head.1
  · have none : (head :: rest).lookup key = none := by
      apply lookup_below
      intro entry member
      rcases List.mem_cons.mp member with rfl | inside
      · exact below
      · exact String.lt_trans below ((List.pairwise_cons.mp ascending).1 entry inside)
    rw [none] at found
    cases found
  · exact String.not_lt.mp below

theorem eq_of_lookup {first second : List (String × String)}
    (left : first.Pairwise fun a b => a.1 < b.1) (right : second.Pairwise fun a b => a.1 < b.1)
    (same : ∀ key, first.lookup key = second.lookup key) : first = second := by
  induction first generalizing second with
  | nil =>
      cases second with
      | nil => rfl
      | cons head rest => exact nomatch (same head.1).trans (lookup_head head rest)
  | cons a first ih =>
      cases second with
      | nil => exact nomatch (same a.1).symm.trans (lookup_head a first)
      | cons b second =>
          have foundLeft := lookup_head a first
          have foundRight := lookup_head b second
          have key : a.1 = b.1 :=
            String.le_antisymm (first_le left ((same b.1).trans foundRight))
              (first_le right ((same a.1).symm.trans foundLeft))
          have value : a.2 = b.2 := by
            have both := foundLeft.symm.trans ((same a.1).trans (key ▸ foundRight))
            exact Option.some.inj both
          have head : a = b := Prod.ext key value
          subst head
          have tails : ∀ other, first.lookup other = second.lookup other := by
            intro other
            by_cases first : other = a.1
            · subst first
              rw [lookup_below (List.pairwise_cons.mp left).1,
                lookup_below (List.pairwise_cons.mp right).1]
            · have whole := same other
              rwa [List.lookup_cons, List.lookup_cons, beq_eq_false_iff_ne.mpr first] at whole
          rw [ih (List.pairwise_cons.mp left).2 (List.pairwise_cons.mp right).2 tails]

theorem eq_of_get? {first second : Metadata} (same : ∀ key, first.get? key = second.get? key) :
    first = second := by
  have entries := eq_of_lookup first.ascending second.ascending same
  cases first
  cases second
  cases entries
  rfl

end Metadata
end TopicLog
