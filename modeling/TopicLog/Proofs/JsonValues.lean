import TopicLog.Proofs.JsonNumbers

/-!
JSON values, as a grammar over bytes. A value may stand where nobody wants it, and then it is passed
over, or where a value of another type is wanted, and then the difference of type is what is found.
Passing over keeps the open brackets in a list; a bracket that is opened is closed again at the end of
its value, so the induction on values holds for any list of brackets around them.
-/
namespace TopicLog.Json

/-! The grammar. -/

section
variable {α : Type} (Item : α → Bytes → Prop)

/-- The items after the first one, each with the comma before it. -/
inductive Listed : List α → Bytes → Prop where
  | none : Listed [] []
  | more {item : α} {items : List α} {comma bytes rest : Bytes} (between : Mark ',' comma)
      (next : Item item bytes) (later : Listed items rest) :
      Listed (item :: items) (comma ++ (bytes ++ rest))

inductive Enclosed (opening closing : Char) : List α → Bytes → Prop where
  | empty {start finish : Bytes} (opened : Mark opening start) (closed : Mark closing finish) :
      Enclosed opening closing [] (start ++ finish)
  | items {item : α} {items : List α} {start bytes rest finish : Bytes}
      (opened : Mark opening start) (first : Item item bytes) (later : Listed Item items rest)
      (closed : Mark closing finish) :
      Enclosed opening closing (item :: items) (start ++ (bytes ++ (rest ++ finish)))

end

inductive Entry : String × Bytes → Bytes → Prop where
  | pair {key : String} {name colon value : Bytes} (spelled : Quoted key name)
      (between : Mark ':' colon) : Entry (key, value) (name ++ (colon ++ value))

/-- The bytes of a value, with numbers of a certain kind only. -/
inductive WellFormed (Admitted : Numeral → Prop) : Bytes → Prop where
  | literal {word : String} (known : word ∈ ["null", "true", "false"]) :
      WellFormed Admitted (Utf8.encode word)
  | number {numeral : Numeral} (admitted : Admitted numeral) : WellFormed Admitted numeral.bytes
  | text {text : String} {quoted : Bytes} (spelled : Quoted text quoted) :
      WellFormed Admitted quoted
  | array {items : List Bytes} {bytes : Bytes} (listed : Enclosed Eq '[' ']' items bytes)
      (each : ∀ item ∈ items, WellFormed Admitted item) : WellFormed Admitted bytes
  | object {members : List (String × Bytes)} {bytes : Bytes}
      (listed : Enclosed Entry '\x7b' '\x7d' members bytes)
      (each : ∀ member ∈ members, WellFormed Admitted member.2) : WellFormed Admitted bytes

/-! Marks. -/

theorem blanks_nil : Blanks [] := fun _ member => absurd member List.not_mem_nil

theorem ended_blanks {blanks rest : Bytes} (blank : Blanks blanks) (ended : Ended rest) :
    Ended (blanks ++ rest) := by
  cases blanks with
  | nil => exact ended
  | cons c tail =>
      intro b next
      cases next
      rcases blank c List.mem_cons_self with rfl | rfl | rfl | rfl <;> decide

theorem ended_mark {mark : Char} (structural : mark ∈ [',', ']', '\x7d']) {bytes : Bytes}
    (marked : Mark mark bytes) (rest : Bytes) : Ended (bytes ++ rest) := by
  obtain ⟨left, right⟩ := marked
  rw [List.append_assoc]
  apply ended_blanks left
  intro b next
  cases next
  simp only [List.mem_cons, List.not_mem_nil, or_false] at structural
  rcases structural with rfl | rfl | rfl <;> decide

theorem ended_listed {α : Type} {Item : α → Bytes → Prop} {items : List α} {bytes finish : Bytes}
    (listed : Listed Item items bytes) {closing : Char} (structural : closing ∈ [',', ']', '\x7d'])
    (closed : Mark closing finish) (rest : Bytes) : Ended (bytes ++ (finish ++ rest)) := by
  cases listed with
  | none => exact ended_mark structural closed rest
  | more between next later =>
      rw [List.append_assoc]
      exact ended_mark (by decide) between _

/-! Passing over strings. -/

theorem skipString_plain {bytes : Bytes} (plain : ∀ b ∈ bytes, IsPlain b) (rest : Bytes) :
    skipString (bytes ++ rest) = skipString rest := by
  induction bytes with
  | nil => rfl
  | cons b bytes ih =>
      have ⟨quote, backslash, printable⟩ := plain b List.mem_cons_self
      rw [List.cons_append, skipString, if_neg quote, if_neg backslash, if_neg printable]
      exact ih fun c member => plain c (List.mem_cons_of_mem b member)

theorem skipString_escape {tail rest : Bytes} (escape : skipEscape tail = .ok rest) :
    skipString ('\\'.toUInt8 :: tail) = skipString rest := by
  rw [skipString, if_neg (by decide), if_pos rfl]
  split
  · rename_i found
    rw [escape] at found
    cases found
  · rename_i found
    rw [escape] at found
    cases found
    rfl

theorem skipEscape_unit {number : Nat} {digits : Bytes} (unit : HexUnit number digits)
    (rest : Bytes) : skipEscape ('u'.toUInt8 :: (digits ++ rest)) = .ok rest := by
  have read : readUnit (digits ++ rest) = .ok (number, rest) :=
    readUnit_eq_ok_iff.mpr ⟨digits, unit, rfl⟩
  have letter : escaped? 'u'.toUInt8 = none := rfl
  simp only [skipEscape, letter, Option.isSome_none, Bool.false_eq_true, ↓reduceIte, read, Except.map]

theorem skipString_spelled {c : Char} {first : Bytes} (spelled : Spelled c first) (rest : Bytes) :
    skipString (first ++ rest) = skipString rest := by
  cases spelled with
  | plain quote backslash printable =>
      exact skipString_plain
        (fun b => isPlain_encodeChar quote backslash (Nat.not_lt.mpr printable)) rest
  | @short letter _ escape =>
      have skipped : skipEscape (letter.toUInt8 :: rest) = .ok rest := by
        rw [skipEscape, escaped_of_mem escape]
        rfl
      exact skipString_escape skipped
  | numbered unit => exact skipString_escape (skipEscape_unit unit rest)
  | @paired _ leading digits beyond high low =>
      rw [List.append_assoc]
      refine (skipString_escape (skipEscape_unit high _)).trans ?_
      exact skipString_escape (skipEscape_unit low rest)

theorem skipString_spelling {chars : List Char} {contents : Bytes}
    (spelling : Spelling chars contents) (rest : Bytes) :
    skipString (contents ++ '"'.toUInt8 :: rest) = .ok rest := by
  induction spelling with
  | nil => rw [List.nil_append, skipString, if_pos rfl]
  | cons head tail ih => rw [List.append_assoc, skipString_spelled head, ih]

theorem skipString_quoted {text : String} {inner : Bytes} (spelled : Quoted text ('"'.toUInt8 :: inner))
    (rest : Bytes) : skipString (inner ++ rest) = .ok rest := by
  generalize made : '"'.toUInt8 :: inner = quoted at spelled
  obtain ⟨spelling⟩ := spelled
  rw [(List.cons.inj made).2]
  exact (congrArg skipString (List.append_assoc _ _ rest)).trans (skipString_spelling spelling rest)

/-! Passing over values. -/

/-- What becomes of a value, without the lengths by which its end is reached. -/
theorem skipValue_step (enclosing : List Bracket) (bytes : Bytes) :
    skipValue enclosing bytes =
      match skipBlanks bytes with
      | [] => .error .truncated
      | b :: tail =>
          if b = '['.toUInt8 then
            match skipBlanks tail with
            | [] => .error .truncated
            | c :: rest =>
                if c = ']'.toUInt8 then skipRest enclosing rest
                else skipValue (.array :: enclosing) tail
          else if b = '\x7b'.toUInt8 then
            match skipBlanks tail with
            | [] => .error .truncated
            | c :: rest =>
                if c = '\x7d'.toUInt8 then skipRest enclosing rest
                else if c = '"'.toUInt8 then
                  match skipKey rest with
                  | .error fault => .error fault
                  | .ok rest => skipValue (.object :: enclosing) rest
                else .error .malformed
          else
            match skipScalar (b :: tail) with
            | .error fault => .error fault
            | .ok rest => skipRest enclosing rest := by
  rw [skipValue]
  repeat' split
  all_goals simp_all

theorem skipRest_step (bracket : Bracket) (outer : List Bracket) (bytes : Bytes) :
    skipRest (bracket :: outer) bytes =
      match bracket with
      | .array =>
          match skipBlanks bytes with
          | [] => .error .truncated
          | b :: rest =>
              if b = ']'.toUInt8 then skipRest outer rest
              else if b = ','.toUInt8 then skipValue (.array :: outer) rest
              else .error .malformed
      | .object =>
          match skipBlanks bytes with
          | [] => .error .truncated
          | b :: rest =>
              if b = '\x7d'.toUInt8 then skipRest outer rest
              else if b = ','.toUInt8 then
                match skipBlanks rest with
                | [] => .error .truncated
                | c :: rest =>
                    if c = '"'.toUInt8 then
                      match skipKey rest with
                      | .error fault => .error fault
                      | .ok rest => skipValue (.object :: outer) rest
                    else .error .malformed
              else .error .malformed := by
  rw [skipRest.eq_def]
  repeat' split
  all_goals simp_all

theorem skipValue_blanks {blanks : Bytes} (blank : Blanks blanks) (enclosing : List Bracket)
    (rest : Bytes) : skipValue enclosing (blanks ++ rest) = skipValue enclosing rest := by
  rw [skipValue_step, skipValue_step enclosing rest, skipBlanks_append blank]

theorem skipRest_blanks {blanks : Bytes} (blank : Blanks blanks) (bracket : Bracket)
    (outer : List Bracket) (rest : Bytes) :
    skipRest (bracket :: outer) (blanks ++ rest) = skipRest (bracket :: outer) rest := by
  rw [skipRest_step, skipRest_step bracket outer rest, skipBlanks_append blank]

theorem skipValue_scalar {enclosing : List Bracket} {b : UInt8} {tail rest : Bytes}
    (solid : isBlankByte b = false) (array : b ≠ '['.toUInt8) (object : b ≠ '\x7b'.toUInt8)
    (scalar : skipScalar (b :: tail) = .ok rest) :
    skipValue enclosing (b :: tail) = skipRest enclosing rest := by
  rw [skipValue_step, skipBlanks_cons solid]
  simp only [array, object, ↓reduceIte, scalar]

def Bracket.closing : Bracket → Char
  | .array => ']'
  | .object => '\x7d'

def Bracket.opening : Bracket → Char
  | .array => '['
  | .object => '\x7b'

theorem Bracket.closing_solid (bracket : Bracket) :
    isBlankByte bracket.closing.toUInt8 = false := by
  cases bracket <;> decide

theorem Bracket.closing_structural (bracket : Bracket) :
    bracket.closing ∈ [',', ']', '\x7d'] := by
  cases bracket <;> decide

theorem skipRest_close (bracket : Bracket) (outer : List Bracket) (rest : Bytes) :
    skipRest (bracket :: outer) (bracket.closing.toUInt8 :: rest) = skipRest outer rest := by
  cases bracket <;> rw [skipRest_step] <;> rfl

/-- A value is passed over, up to blanks after its closing bracket. -/
def Passed (bytes : Bytes) : Prop :=
  ∃ blanks, Blanks blanks ∧ ∀ enclosing rest, Ended rest →
    skipValue enclosing (bytes ++ rest) = skipRest enclosing (blanks ++ rest)

theorem Passed.inside {bytes rest : Bytes} (passed : Passed bytes) (bracket : Bracket)
    (outer : List Bracket) (ended : Ended rest) :
    skipValue (bracket :: outer) (bytes ++ rest) = skipRest (bracket :: outer) rest := by
  obtain ⟨blanks, blank, skipped⟩ := passed
  rw [skipped _ rest ended, skipRest_blanks blank]

section
variable {α : Type} {Item : α → Bytes → Prop} {bracket : Bracket} {items : List α}

/-- Items are passed over with their commas if each of them is, and so is the bracket after them. -/
theorem skipRest_listed {bytes blanks : Bytes} (listed : Listed Item items bytes)
    (each : ∀ item ∈ items, ∀ comma spelled, Mark ',' comma → Item item spelled →
      ∀ outer rest, Ended rest →
        skipRest (bracket :: outer) (comma ++ (spelled ++ rest)) = skipRest (bracket :: outer) rest)
    (blank : Blanks blanks) (outer : List Bracket) (rest : Bytes) :
    skipRest (bracket :: outer) (bytes ++ (blanks ++ bracket.closing.toUInt8 :: rest)) =
      skipRest outer rest := by
  induction listed with
  | none => rw [List.nil_append, skipRest_blanks blank, skipRest_close]
  | @more item items comma spelled later between next further ih =>
      have closed : Mark bracket.closing (blanks ++ bracket.closing.toUInt8 :: []) :=
        .blanks blank blanks_nil
      have ended := ended_listed further bracket.closing_structural closed rest
      simp only [List.append_assoc, List.cons_append, List.nil_append] at ended ⊢
      rw [each item List.mem_cons_self comma spelled between next outer _ ended]
      exact ih fun other member => each other (List.mem_cons_of_mem item member)

end

theorem enclosed_cons {α : Type} {Item : α → Bytes → Prop} {opening closing : Char} {items : List α}
    {bytes : Bytes} (enclosed : Enclosed Item opening closing items bytes) :
    ∃ before tail, Blanks before ∧ bytes = before ++ opening.toUInt8 :: tail := by
  cases enclosed with
  | empty opened closed =>
      obtain @⟨before, after, left, right⟩ := opened
      exact ⟨before, _, left, by rw [List.append_assoc, List.cons_append]⟩
  | items opened first later closed =>
      obtain @⟨before, after, left, right⟩ := opened
      exact ⟨before, _, left, by rw [List.append_assoc, List.cons_append]⟩

/-! The values one by one. -/

theorem skipKey_entry {key : String} {inner colon value : Bytes}
    (spelled : Quoted key ('"'.toUInt8 :: inner)) (between : Mark ':' colon) (passed : Passed value)
    {rest : Bytes} (ended : Ended rest) (outer : List Bracket) :
    ∃ after, skipKey (inner ++ (colon ++ (value ++ rest))) = .ok after ∧
      skipValue (.object :: outer) after = skipRest (.object :: outer) rest := by
  obtain @⟨left, right, leftBlank, rightBlank⟩ := between
  have colon : readColon (left ++ ':'.toUInt8 :: right ++ (value ++ rest)) =
      .ok (right ++ (value ++ rest)) :=
    readColon_eq_ok_iff.mpr ⟨left, leftBlank, by simp only [List.append_assoc, List.cons_append]⟩
  refine ⟨right ++ (value ++ rest), ?_, ?_⟩
  · simp only [skipKey, skipString_quoted spelled, colon]
  · rw [skipValue_blanks rightBlank, passed.inside .object outer ended]

theorem passed_scalar {b : UInt8} {tail : Bytes} (solid : isBlankByte b = false)
    (array : b ≠ '['.toUInt8) (object : b ≠ '\x7b'.toUInt8)
    (scalar : ∀ rest, Ended rest → skipScalar (b :: (tail ++ rest)) = .ok rest) :
    Passed (b :: tail) := by
  refine ⟨[], blanks_nil, ?_⟩
  intro enclosing rest ended
  exact skipValue_scalar solid array object (scalar rest ended)

theorem passed_numeral (numeral : Numeral) : Passed numeral.bytes := by
  obtain ⟨b, tail, made, start⟩ := numeral_cons numeral
  obtain ⟨solid, -, -, array, object⟩ := other_of_startsNumber start
  rw [made]
  apply passed_scalar solid array object
  intro rest ended
  rw [← List.cons_append, ← made]
  exact skipScalar_numeral numeral ended

theorem passed_quoted {text : String} {quoted : Bytes} (spelled : Quoted text quoted) :
    Passed quoted := by
  obtain ⟨inner, rfl⟩ := quoted_eq_cons spelled
  apply passed_scalar (by decide) (by decide) (by decide)
  intro rest ended
  exact skipString_quoted spelled rest

theorem passed_literal {word : String} (known : word ∈ ["null", "true", "false"]) :
    Passed (Utf8.encode word) := by
  simp only [List.mem_cons, List.not_mem_nil, or_false] at known
  rcases known with rfl | rfl | rfl
  · exact passed_scalar (by decide) (by decide) (by decide) fun rest ended => rfl
  · exact passed_scalar (by decide) (by decide) (by decide) fun rest ended => rfl
  · exact passed_scalar (by decide) (by decide) (by decide) fun rest ended => rfl

theorem wellFormed_cases {Admitted : Numeral → Prop} {bytes : Bytes}
    (value : WellFormed Admitted bytes) :
    (∃ numeral, Admitted numeral ∧ bytes = numeral.bytes) ∨ (∃ text, Quoted text bytes) ∨
    ∃ before b tail, Blanks before ∧ bytes = before ++ b :: tail ∧ isBlankByte b = false ∧
      b ≠ ']'.toUInt8 ∧ startsNumber b = false ∧ b ≠ '"'.toUInt8 ∧
      ∀ rest, mismatch (b :: (tail ++ rest)) = .mistyped := by
  cases value with
  | number admitted => exact .inl ⟨_, admitted, rfl⟩
  | text spelled => exact .inr (.inl ⟨_, spelled⟩)
  | literal known =>
      simp only [List.mem_cons, List.not_mem_nil, or_false] at known
      refine .inr (.inr ⟨[], ?_⟩)
      rcases known with rfl | rfl | rfl
      · exact ⟨_, _, blanks_nil, rfl, by decide, by decide, by decide, by decide, fun rest => rfl⟩
      · exact ⟨_, _, blanks_nil, rfl, by decide, by decide, by decide, by decide, fun rest => rfl⟩
      · exact ⟨_, _, blanks_nil, rfl, by decide, by decide, by decide, by decide, fun rest => rfl⟩
  | array listed each =>
      obtain ⟨before, tail, blank, rfl⟩ := enclosed_cons listed
      exact .inr (.inr ⟨before, _, tail, blank, rfl, by decide, by decide, by decide, by decide,
        fun rest => rfl⟩)
  | object listed each =>
      obtain ⟨before, tail, blank, rfl⟩ := enclosed_cons listed
      exact .inr (.inr ⟨before, _, tail, blank, rfl, by decide, by decide, by decide, by decide,
        fun rest => rfl⟩)

theorem wellFormed_start {Admitted : Numeral → Prop} {bytes : Bytes}
    (value : WellFormed Admitted bytes) (rest : Bytes) :
    ∃ b tail, skipBlanks (bytes ++ rest) = b :: tail ∧ b ≠ ']'.toUInt8 := by
  rcases wellFormed_cases value with ⟨numeral, -, rfl⟩ | ⟨text, spelled⟩ | other
  · obtain ⟨b, tail, made, start⟩ := numeral_cons numeral
    refine ⟨b, tail ++ rest, ?_, ?_⟩
    · rw [made, List.cons_append, skipBlanks_cons (other_of_startsNumber start).1]
    · rintro rfl
      cases start
  · obtain ⟨inner, rfl⟩ := quoted_eq_cons spelled
    exact ⟨'"'.toUInt8, inner ++ rest, skipBlanks_cons (by decide) _, by decide⟩
  · obtain ⟨before, b, tail, blank, rfl, solid, bracket, -⟩ := other
    refine ⟨b, tail ++ rest, ?_, bracket⟩
    rw [List.append_assoc, List.cons_append, skipBlanks_solid blank solid]

theorem skipValue_array {enclosing : List Bracket} {bytes rest : Bytes} {b : UInt8}
    (next : skipBlanks bytes = b :: rest) :
    skipValue enclosing ('['.toUInt8 :: bytes) =
      if b = ']'.toUInt8 then skipRest enclosing rest
      else skipValue (.array :: enclosing) bytes := by
  rw [skipValue_step, skipBlanks_cons (by decide)]
  simp only [↓reduceIte, next]

theorem skipValue_object {enclosing : List Bracket} {bytes rest : Bytes} {b : UInt8}
    (next : skipBlanks bytes = b :: rest) :
    skipValue enclosing ('\x7b'.toUInt8 :: bytes) =
      if b = '\x7d'.toUInt8 then skipRest enclosing rest
      else if b = '"'.toUInt8 then
        match skipKey rest with
        | .error fault => .error fault
        | .ok rest => skipValue (.object :: enclosing) rest
      else .error .malformed := by
  have array : '\x7b'.toUInt8 ≠ '['.toUInt8 := by decide
  rw [skipValue_step, skipBlanks_cons (by decide)]
  simp only [array, ↓reduceIte, next]

theorem skipValue_empty (bracket : Bracket) (enclosing : List Bracket) {bytes rest : Bytes}
    (next : skipBlanks bytes = bracket.closing.toUInt8 :: rest) :
    skipValue enclosing (bracket.opening.toUInt8 :: bytes) = skipRest enclosing rest := by
  cases bracket with
  | array => exact (skipValue_array next).trans (if_pos rfl)
  | object => exact (skipValue_object next).trans (if_pos rfl)

section
variable {α : Type} {Item : α → Bytes → Prop} (bracket : Bracket) {items : List α}

theorem passed_enclosed {bytes : Bytes}
    (enclosed : Enclosed Item bracket.opening bracket.closing items bytes)
    (leading : ∀ item ∈ items, ∀ blanks spelled, Blanks blanks → Item item spelled →
      ∀ outer rest, Ended rest →
        skipValue outer (bracket.opening.toUInt8 :: (blanks ++ (spelled ++ rest))) =
          skipRest (bracket :: outer) rest)
    (following : ∀ item ∈ items, ∀ comma spelled, Mark ',' comma → Item item spelled →
      ∀ outer rest, Ended rest →
        skipRest (bracket :: outer) (comma ++ (spelled ++ rest)) = skipRest (bracket :: outer) rest) :
    Passed bytes := by
  cases enclosed with
  | empty opened closed =>
      obtain @⟨before, after, left, right⟩ := opened
      obtain @⟨between, trail, inner, last⟩ := closed
      refine ⟨trail, last, ?_⟩
      intro enclosing rest ended
      have next : skipBlanks (after ++ (between ++ bracket.closing.toUInt8 :: (trail ++ rest))) =
          bracket.closing.toUInt8 :: (trail ++ rest) := by
        rw [skipBlanks_append right, skipBlanks_solid inner bracket.closing_solid]
      simp only [List.append_assoc, List.cons_append]
      rw [skipValue_blanks left, skipValue_empty bracket enclosing next]
  | @items item items start spelled later finish opened first further closed =>
      -- The first item ends at a comma or at the closing bracket, whatever comes after it.
      have ended := ended_listed further bracket.closing_structural closed
      obtain @⟨before, after, left, right⟩ := opened
      obtain @⟨between, trail, inner, last⟩ := closed
      refine ⟨trail, last, ?_⟩
      intro enclosing rest _
      have inside := ended rest
      simp only [List.append_assoc, List.cons_append] at inside ⊢
      rw [skipValue_blanks left,
        leading item List.mem_cons_self after spelled right first enclosing _ inside]
      exact skipRest_listed further
        (fun other member => following other (List.mem_cons_of_mem item member)) inner enclosing _

end

theorem passed_array {Admitted : Numeral → Prop} {items : List Bytes} {bytes : Bytes}
    (enclosed : Enclosed Eq '[' ']' items bytes)
    (each : ∀ item ∈ items, WellFormed Admitted item) (passed : ∀ item ∈ items, Passed item) :
    Passed bytes := by
  apply passed_enclosed .array enclosed
  · intro item member blanks spelled blank same outer rest ended
    subst same
    obtain ⟨b, tail, next, bracket⟩ := wellFormed_start (each item member) rest
    have start : skipBlanks (blanks ++ (item ++ rest)) = b :: tail := by
      rw [skipBlanks_append blank, next]
    refine (skipValue_array start).trans ((if_neg bracket).trans ?_)
    rw [skipValue_blanks blank, (passed item member).inside .array outer ended]
  · rintro item member _ spelled ⟨left, right⟩ same outer rest ended
    subst same
    rw [List.append_assoc, skipRest_blanks left, List.cons_append, skipRest_step,
      skipBlanks_cons (by decide)]
    exact (skipValue_blanks right _ _).trans ((passed item member).inside .array outer ended)

theorem passed_object {members : List (String × Bytes)} {bytes : Bytes}
    (enclosed : Enclosed Entry '\x7b' '\x7d' members bytes)
    (passed : ∀ member ∈ members, Passed member.2) : Passed bytes := by
  apply passed_enclosed .object enclosed
  · rintro member listed blanks _ blank ⟨spelled, between⟩ outer rest ended
    obtain ⟨inner, rfl⟩ := quoted_eq_cons spelled
    obtain ⟨after, key, value⟩ := skipKey_entry spelled between (passed _ listed) ended outer
    have quote : '"'.toUInt8 ≠ '\x7d'.toUInt8 := by decide
    simp only [List.append_assoc, List.cons_append] at key ⊢
    refine (skipValue_object (skipBlanks_solid blank (by decide) _)).trans ?_
    simp only [quote, ↓reduceIte, key, value]
  · rintro member listed _ _ ⟨left, right⟩ ⟨spelled, between⟩ outer rest ended
    obtain ⟨inner, rfl⟩ := quoted_eq_cons spelled
    obtain ⟨after, key, value⟩ := skipKey_entry spelled between (passed _ listed) ended outer
    have comma : ','.toUInt8 ≠ '\x7d'.toUInt8 := by decide
    have quote : isBlankByte '"'.toUInt8 = false := by decide
    simp only [List.append_assoc, List.cons_append] at key ⊢
    rw [skipRest_blanks left, skipRest_step, skipBlanks_cons (by decide)]
    simp only [comma, ↓reduceIte, skipBlanks_solid right quote, key, value]

/-- Every well-formed value is passed over, whatever its numbers. -/
theorem passed_wellFormed {Admitted : Numeral → Prop} {bytes : Bytes}
    (value : WellFormed Admitted bytes) : Passed bytes := by
  induction value with
  | literal known => exact passed_literal known
  | number admitted => exact passed_numeral _
  | text spelled => exact passed_quoted spelled
  | array listed each passed => exact passed_array listed each passed
  | object listed each passed => exact passed_object listed passed

theorem skipValue_wellFormed {Admitted : Numeral → Prop} {bytes before rest : Bytes}
    (value : WellFormed Admitted bytes) (blank : Blanks before) (ended : Ended rest) :
    ∃ blanks, Blanks blanks ∧
      skipValue [] (before ++ (bytes ++ rest)) = .ok (blanks ++ rest) := by
  obtain ⟨blanks, last, passed⟩ := passed_wellFormed value
  refine ⟨blanks, last, ?_⟩
  rw [skipValue_blanks blank, passed [] rest ended, skipRest.eq_def]

theorem wellFormed_natural {n : Nat} {bytes : Bytes} (natural : Natural n bytes) :
    WellFormed (fun _ => True) bytes := by
  obtain ⟨digits, trimmed⟩ := natural
  have number : WellFormed (fun _ => True) (Numeral.mk false digits trimmed none none).bytes :=
    .number trivial
  simpa [Numeral.bytes, fractionBytes, powerBytes] using number

/-! Values of another type. -/

section
variable {Admitted : Numeral → Prop} {bytes before rest : Bytes}
  (value : WellFormed Admitted bytes)
  (finite : ∀ numeral : Numeral, bytes = numeral.bytes → numeral.Finite)
  (blank : Blanks before) (ended : Ended rest)
include value finite blank ended

theorem readText_other (unfit : ∀ text, ¬ Quoted text bytes) :
    readText (before ++ (bytes ++ rest)) = .error .mistyped := by
  rcases wellFormed_cases value with ⟨numeral, -, rfl⟩ | ⟨text, spelled⟩ | other
  · have read := readNumber_finite (finite numeral rfl) ended
    obtain ⟨b, tail, made, start⟩ := numeral_cons numeral
    obtain ⟨solid, literal, quote, -, -⟩ := other_of_startsNumber start
    rw [made, List.cons_append] at read ⊢
    rw [readText, skipBlanks_solid blank solid]
    simp only [quote, ↓reduceIte, mismatch, literal, start, read]
  · exact absurd spelled (unfit text)
  · obtain ⟨between, b, tail, inner, rfl, solid, -, -, quote, typed⟩ := other
    rw [List.append_assoc, ← List.append_assoc before, List.cons_append, readText,
      skipBlanks_solid (blanks_append blank inner) solid]
    simp only [quote, ↓reduceIte, typed]

theorem readNatural_other {limit : Nat} (unfit : ∀ n < limit, ¬ Natural n bytes) :
    readNatural limit (before ++ (bytes ++ rest)) = .error .mistyped := by
  rcases wellFormed_cases value with ⟨numeral, -, rfl⟩ | ⟨text, spelled⟩ | other
  · exact readNatural_numeral blank ended (finite numeral rfl) unfit
  · obtain ⟨inner, rfl⟩ := quoted_eq_cons spelled
    have read : readString (inner ++ rest) = .ok (text, rest) :=
      readString_eq_ok_iff.mpr ⟨_, spelled, rfl⟩
    have start : startsNumber '"'.toUInt8 = false := by decide
    have literal : literalTail? '"'.toUInt8 = none := by decide
    rw [List.cons_append, readNatural, skipBlanks_solid blank (by decide)]
    simp only [start, Bool.false_eq_true, ↓reduceIte, mismatch, literal, read]
  · obtain ⟨between, b, tail, inner, rfl, solid, -, start, -, typed⟩ := other
    rw [List.append_assoc, ← List.append_assoc before, List.cons_append, readNatural,
      skipBlanks_solid (blanks_append blank inner) solid]
    simp only [start, Bool.false_eq_true, ↓reduceIte, typed]

end

end TopicLog.Json
