import TopicLog.Statement.Sql

/-!
The tokens of a statement's text, as each dialect cuts it: quoted names, literals, words, question
marks and signs, with blanks and comments left out. A quoted name ends at the first quoting character
that is not doubled, whatever else it contains. The text is read once from left to right, so what
stands before some text matters for it only through the tokens found and the mode reached.
-/
namespace TopicLog

inductive Token where
  | name (plain : String)
  | literal (text : String)
  /-- A word or a number that stands without quotes. -/
  | word (letters : String)
  | place
  | sign (c : Char)
  /-- Quoted text or a comment that does not end. -/
  | unclosed
  deriving DecidableEq

namespace Lexing

structure Quotes where
  closing : Char
  isName : Bool
  /-- The closing character stands for itself when it is doubled. -/
  doubles : Bool := true
  /-- After a backslash any character stands for itself. -/
  escapes : Bool := false
  deriving DecidableEq

def quotes? (dialect : Dialect) (c : Char) : Option Quotes :=
  match dialect with
  | .sqlite =>
      if c = '"' ∨ c = '\x60' then some { closing := c, isName := true }
      else if c = '[' then some { closing := ']', isName := true, doubles := false }
      else if c = '\x27' then some { closing := c, isName := false }
      else none
  | .mysql =>
      if c = '\x60' then some { closing := c, isName := true }
      else if c = '"' ∨ c = '\x27' then some { closing := c, isName := false, escapes := true }
      else none

inductive Mode where
  | between
  | word (letters : List Char)
  | quoted (quotes : Quotes) (text : List Char)
  /-- At the closing character, which may yet be the first of two. -/
  | closed (quotes : Quotes) (text : List Char)
  | escaped (quotes : Quotes) (text : List Char)
  /-- After one or two dashes or a slash, which may begin a comment. -/
  | dash
  | dashes
  | slash
  | line
  /-- In a comment that ends with a star and a slash; the last character may be that star. -/
  | block (star : Bool)
  /-- Past the end of the text, which a NUL marks. -/
  | ended
  deriving DecidableEq

/-- The tokens that are complete when the text ends in a mode or goes on with something new. -/
def Mode.pending : Mode → List Token
  | .word letters => [.word (String.ofList letters)]
  | .closed quotes text =>
      if quotes.isName then [.name (String.ofList text)] else [.literal (String.ofList text)]
  | .quoted .. | .escaped .. | .block _ => [.unclosed]
  | .dash => [.sign '-']
  | .dashes => [.sign '-', .sign '-']
  | .slash => [.sign '/']
  | .between | .line | .ended => []

end Lexing

structure Lexing where
  tokens : List Token := []
  mode : Lexing.Mode := .between
  deriving DecidableEq

namespace Lexing

def finish (lexing : Lexing) : List Token := lexing.tokens ++ lexing.mode.pending

def isSpace (c : Char) : Bool := c = ' ' || c = '\n' || c = '\t' || c = '\r' || c = '\x0c'

def isWordChar (c : Char) : Bool := c.isAlphanum || c = '_' || c = '$' || 0x80 ≤ c.toNat

def start (dialect : Dialect) (tokens : List Token) (c : Char) : Lexing :=
  if c = '\x00' then ⟨tokens, .ended⟩
  else if isSpace c then ⟨tokens, .between⟩
  else if c = '?' then ⟨tokens ++ [.place], .between⟩
  else if isWordChar c then ⟨tokens, .word [c]⟩
  else if c = '-' then ⟨tokens, .dash⟩
  else if c = '/' then ⟨tokens, .slash⟩
  else if dialect = .mysql ∧ c = '#' then ⟨tokens, .line⟩
  else
    match quotes? dialect c with
    | some quotes => ⟨tokens, .quoted quotes []⟩
    | none => ⟨tokens ++ [.sign c], .between⟩

def step (dialect : Dialect) (lexing : Lexing) (c : Char) : Lexing :=
  match lexing.mode with
  | .between => start dialect lexing.tokens c
  | .word letters =>
      if isWordChar c then { lexing with mode := .word (letters ++ [c]) }
      else start dialect lexing.finish c
  | .quoted quotes text =>
      if c = '\x00' then ⟨lexing.finish, .ended⟩
      else if c = quotes.closing then { lexing with mode := .closed quotes text }
      else if quotes.escapes ∧ c = '\\' then { lexing with mode := .escaped quotes text }
      else { lexing with mode := .quoted quotes (text ++ [c]) }
  | .escaped quotes text => { lexing with mode := .quoted quotes (text ++ [c]) }
  | .closed quotes text =>
      if quotes.doubles ∧ c = quotes.closing then
        { lexing with mode := .quoted quotes (text ++ [c]) }
      else start dialect lexing.finish c
  | .dash =>
      if c = '-' then { lexing with mode := if dialect = .mysql then .dashes else .line }
      else start dialect lexing.finish c
  | .dashes =>
      if c = '\n' then { lexing with mode := .between }
      else if isSpace c then { lexing with mode := .line }
      else start dialect lexing.finish c
  | .slash =>
      if c = '*' then { lexing with mode := .block false } else start dialect lexing.finish c
  | .line =>
      if c = '\x00' then { lexing with mode := .ended }
      else if c = '\n' then { lexing with mode := .between }
      else lexing
  | .block star =>
      if c = '\x00' then ⟨lexing.finish, .ended⟩
      else if star ∧ c = '/' then { lexing with mode := .between }
      else { lexing with mode := .block (c = '*') }
  | .ended => lexing

def run (dialect : Dialect) (lexing : Lexing) (chars : List Char) : Lexing :=
  chars.foldl (step dialect) lexing

theorem run_append (dialect : Dialect) (lexing : Lexing) (first second : List Char) :
    run dialect lexing (first ++ second) = run dialect (run dialect lexing first) second :=
  List.foldl_append

end Lexing

def Dialect.lex (dialect : Dialect) (text : String) : List Token :=
  (Lexing.run dialect {} text.toList).finish

namespace Lexing

/-! Quoted names. -/

def names (dialect : Dialect) : Quotes := { closing := dialect.mark, isName := true }

theorem start_mark (dialect : Dialect) (tokens : List Token) :
    start dialect tokens dialect.mark = ⟨tokens, .quoted (names dialect) []⟩ := by
  cases dialect <;> rfl

theorem run_double (dialect : Dialect) {plain : List Char} (ending : '\x00' ∉ plain)
    (tokens : List Token) (text : List Char) :
    run dialect ⟨tokens, .quoted (names dialect) text⟩ (Dialect.double dialect.mark plain) =
      ⟨tokens, .quoted (names dialect) (text ++ plain)⟩ := by
  induction plain generalizing text with
  | nil => rw [List.append_nil]; rfl
  | cons c plain ih =>
      have here : c ≠ '\x00' := fun same => ending (same ▸ List.mem_cons_self)
      have later := ih (fun member => ending (List.mem_cons_of_mem c member)) (text ++ [c])
      rw [List.append_assoc, List.singleton_append] at later
      have noEscape : ¬ ((names dialect).escapes ∧ c = '\\') := fun both => nomatch both.1
      rw [Dialect.double]
      split
      · rename_i marked
        have twice : step dialect (step dialect ⟨tokens, .quoted (names dialect) text⟩ dialect.mark)
            dialect.mark = ⟨tokens, .quoted (names dialect) (text ++ [c])⟩ := by
          rw [marked] at here ⊢
          simp only [step, here, names, ↓reduceIte, and_self]
        rw [← later, run, List.foldl_cons, List.foldl_cons, twice]
        rfl
      · rename_i unmarked
        have once : step dialect ⟨tokens, .quoted (names dialect) text⟩ c =
            ⟨tokens, .quoted (names dialect) (text ++ [c])⟩ := by
          have different : c ≠ (names dialect).closing := unmarked
          simp only [step, here, different, noEscape, ↓reduceIte]
        rw [← later, run, List.foldl_cons, once]
        rfl

theorem run_quote (dialect : Dialect) {plain : String} (ending : '\x00' ∉ plain.toList)
    (tokens : List Token) :
    run dialect ⟨tokens, .between⟩ (dialect.quote plain).toList =
      ⟨tokens, .closed (names dialect) plain.toList⟩ := by
  have opened : step dialect ⟨tokens, .between⟩ dialect.mark =
      ⟨tokens, .quoted (names dialect) []⟩ := start_mark dialect tokens
  have present : dialect.mark ≠ '\x00' := by
    cases dialect <;> decide
  have closed : run dialect ⟨tokens, .quoted (names dialect) plain.toList⟩ [dialect.mark] =
      ⟨tokens, .closed (names dialect) plain.toList⟩ := by
    simp only [run, List.foldl_cons, List.foldl_nil, step, present, names, ↓reduceIte]
  rw [Dialect.quote, String.toList_ofList, run, List.foldl_cons, opened, ← run, run_append,
    run_double dialect ending, List.nil_append, closed]

/-! Pieces. -/

/-- What was found earlier stays in front and has no part in what is found next. -/
theorem run_tokens (dialect : Dialect) (before tokens : List Token) (mode : Mode)
    (chars : List Char) :
    run dialect ⟨before ++ tokens, mode⟩ chars =
      ⟨before ++ (run dialect ⟨tokens, mode⟩ chars).tokens,
        (run dialect ⟨tokens, mode⟩ chars).mode⟩ := by
  have begun : ∀ tokens c, start dialect (before ++ tokens) c =
      ⟨before ++ (start dialect tokens c).tokens, (start dialect tokens c).mode⟩ := by
    intro tokens c
    simp only [start, List.append_assoc]
    repeat' split
    all_goals rfl
  induction chars generalizing tokens mode with
  | nil => rfl
  | cons c chars ih =>
      have one : step dialect ⟨before ++ tokens, mode⟩ c =
          ⟨before ++ (step dialect ⟨tokens, mode⟩ c).tokens, (step dialect ⟨tokens, mode⟩ c).mode⟩ := by
        cases mode
        all_goals
          simp only [step, finish, List.append_assoc, begun]
          repeat' split
          all_goals rfl
      rw [run, List.foldl_cons, one, ← run, ih]
      rfl

theorem run_apart {dialect : Dialect} {text : String}
    (apart : (run dialect {} text.toList).mode = .between) :
    run dialect {} text.toList = ⟨dialect.lex text, .between⟩ := by
  have whole : dialect.lex text = (run dialect {} text.toList).tokens := by
    rw [Dialect.lex, finish, apart, Mode.pending, List.append_nil]
  rw [whole]
  exact congrArg (Lexing.mk _) apart

/-- What the text before a piece ends with. -/
inductive Standing where
  | between
  | word
  | name
  deriving DecidableEq

def Standing.admits (dialect : Dialect) (c : Char) : Standing → Bool
  | .between => true
  | .word => !isWordChar c
  | .name => c ≠ dialect.mark

/-- What pieces end with, where no token reaches from one piece into the next. -/
def stand? (dialect : Dialect) : Standing → List Piece → Option Standing
  | standing, [] => some standing
  | standing, .fixed text :: rest =>
      if text.toList.head?.any (standing.admits dialect) then
        match (run dialect {} text.toList).mode with
        | .between => stand? dialect .between rest
        | .word _ => stand? dialect .word rest
        | _ => none
      else none
  | standing, .name other _ :: rest =>
      if standing = .between ∧ other = dialect then stand? dialect .name rest else none

theorem stand?_append (dialect : Dialect) (standing : Standing) (first second : List Piece) :
    stand? dialect standing (first ++ second) =
      (stand? dialect standing first).bind fun middle => stand? dialect middle second := by
  induction first generalizing standing with
  | nil => rfl
  | cons piece rest ih =>
      cases piece with
      | fixed text =>
          simp only [List.cons_append, stand?]
          split
          · split
            · exact ih _
            · exact ih _
            · rfl
          · rfl
      | name other plain =>
          simp only [List.cons_append, stand?]
          split
          · exact ih _
          · rfl

inductive Ready (dialect : Dialect) : Standing → Lexing → Prop where
  | between (tokens : List Token) : Ready dialect .between ⟨tokens, .between⟩
  | word (tokens : List Token) (letters : List Char) :
      Ready dialect .word ⟨tokens, .word letters⟩
  | name (tokens : List Token) (text : List Char) :
      Ready dialect .name ⟨tokens, .closed (names dialect) text⟩

theorem Ready.mode_between {dialect : Dialect} {lexing : Lexing}
    (ready : Ready dialect .between lexing) : lexing.mode = .between := by
  cases ready
  rfl

theorem run_ready {dialect : Dialect} {standing : Standing} {lexing : Lexing}
    (ready : Ready dialect standing lexing) {chars : List Char}
    (first : chars.head?.any (standing.admits dialect)) :
    run dialect lexing chars = run dialect ⟨lexing.finish, .between⟩ chars := by
  cases chars with
  | nil => cases first
  | cons c chars =>
      have once : step dialect lexing c = step dialect ⟨lexing.finish, .between⟩ c := by
        cases ready with
        | between tokens => rw [finish, Mode.pending, List.append_nil]
        | word tokens letters =>
            have apart : ¬ isWordChar c := by
              simpa [Standing.admits] using first
            simp only [step, apart, Bool.false_eq_true, ↓reduceIte]
        | name tokens text =>
            have different : c ≠ (names dialect).closing := by
              simpa [Standing.admits, names] using first
            simp only [step, different, and_false, ↓reduceIte]
      rw [run, List.foldl_cons, once]
      rfl

theorem run_fixed {dialect : Dialect} {standing : Standing} {lexing : Lexing}
    (ready : Ready dialect standing lexing) {text : String}
    (first : text.toList.head?.any (standing.admits dialect)) :
    run dialect lexing text.toList =
      ⟨lexing.finish ++ (run dialect {} text.toList).tokens, (run dialect {} text.toList).mode⟩ := by
  have alone := run_tokens dialect lexing.finish [] .between text.toList
  rw [List.append_nil, ← run_ready ready first] at alone
  exact alone

theorem finish_fixed {dialect : Dialect} {standing : Standing} {lexing : Lexing}
    (ready : Ready dialect standing lexing) {text : String}
    (first : text.toList.head?.any (standing.admits dialect)) :
    (run dialect lexing text.toList).finish = lexing.finish ++ dialect.lex text := by
  rw [run_fixed ready first, finish, List.append_assoc]
  rfl

end Lexing

def Piece.tokens (dialect : Dialect) : Piece → List Token
  | .fixed text => dialect.lex text
  | .name _ plain => [.name plain]

def Piece.Unended : Piece → Prop
  | .fixed _ => True
  | .name _ plain => '\x00' ∉ plain.toList

namespace Lexing

theorem join_cons (piece : Piece) (rest : List Piece) :
    (Piece.join (piece :: rest)).toList = piece.text.toList ++ (Piece.join rest).toList := by
  rw [Piece.join, Piece.join, String.toList_join, String.toList_join, List.map_cons,
    List.flatMap_cons]

/-- Pieces are read one by one: fixed text as it would be alone, a name as that name. -/
theorem run_pieces {dialect : Dialect} {pieces : List Piece} {standing last : Standing}
    {lexing : Lexing} (laid : stand? dialect standing pieces = some last)
    (unended : ∀ piece ∈ pieces, piece.Unended) (ready : Ready dialect standing lexing) :
    Ready dialect last (run dialect lexing (Piece.join pieces).toList) ∧
      (run dialect lexing (Piece.join pieces).toList).finish =
        lexing.finish ++ pieces.flatMap (Piece.tokens dialect) := by
  induction pieces generalizing standing lexing with
  | nil =>
      cases laid
      exact ⟨ready, (List.append_nil _).symm⟩
  | cons piece rest ih =>
      have others := fun other member => unended other (List.mem_cons_of_mem piece member)
      rw [join_cons, run_append, List.flatMap_cons]
      cases piece with
      | fixed text =>
          rw [stand?] at laid
          split at laid
          · rename_i first
            rw [Piece.text, Piece.tokens, ← List.append_assoc, ← finish_fixed ready first]
            split at laid
            · rename_i mode
              apply ih laid others
              rw [run_fixed ready first, mode]
              exact .between _
            · rename_i letters mode
              apply ih laid others
              rw [run_fixed ready first, mode]
              exact .word _ letters
            · cases laid
          · cases laid
      | name other plain =>
          rw [stand?] at laid
          split at laid
          · rename_i both
            obtain ⟨rfl, rfl⟩ := both
            cases ready with
            | between tokens =>
                have read := run_quote other (unended _ List.mem_cons_self) tokens
                obtain ⟨left, found⟩ := ih laid others (.name tokens plain.toList)
                rw [Piece.text, read]
                refine ⟨left, found.trans ?_⟩
                simp only [finish, Mode.pending, names, ↓reduceIte, List.append_nil, Piece.tokens,
                  String.ofList_toList, List.append_assoc]
          · cases laid

end Lexing

theorem Dialect.lex_append {dialect : Dialect} {first : String}
    (apart : (Lexing.run dialect {} first.toList).mode = .between) (second : String) :
    dialect.lex (first ++ second) = dialect.lex first ++ dialect.lex second := by
  have alone := Lexing.run_tokens dialect (dialect.lex first) [] .between second.toList
  rw [List.append_nil] at alone
  rw [Dialect.lex, String.toList_append, Lexing.run_append, Lexing.run_apart apart, alone,
    Lexing.finish, List.append_assoc]
  rfl

theorem Dialect.lex_join {dialect : Dialect} {pieces : List Piece} {last : Lexing.Standing}
    (laid : Lexing.stand? dialect .between pieces = some last)
    (unended : ∀ piece ∈ pieces, piece.Unended) :
    dialect.lex (Piece.join pieces) = pieces.flatMap (Piece.tokens dialect) :=
  (Lexing.run_pieces laid unended (.between [])).2

theorem Dialect.lex_join_append (dialect : Dialect) {pieces : List Piece} (text tail : String)
    (laid : Lexing.stand? dialect .between (pieces ++ [Piece.fixed text]) = some .between)
    (unended : ∀ piece ∈ pieces, piece.Unended) :
    dialect.lex (Piece.join (pieces ++ [Piece.fixed (text ++ tail)])) =
      (pieces ++ [Piece.fixed text]).flatMap (Piece.tokens dialect) ++ dialect.lex tail := by
  have whole : ∀ piece ∈ pieces ++ [Piece.fixed text], piece.Unended := by
    intro piece member
    rcases List.mem_append.mp member with inside | last
    · exact unended piece inside
    · rw [List.mem_singleton.mp last]
      trivial
  have cut : Piece.join (pieces ++ [Piece.fixed (text ++ tail)]) =
      Piece.join (pieces ++ [Piece.fixed text]) ++ tail := by
    apply String.toList_inj.mp
    simp only [Piece.join, String.toList_join, List.map_append, List.flatMap_append, List.map_cons,
      List.map_nil, List.flatMap_cons, List.flatMap_nil, List.append_nil, Piece.text,
      String.toList_append, List.append_assoc]
  have apart := (Lexing.run_pieces laid whole (.between [])).1.mode_between
  rw [cut, Dialect.lex_append apart, Dialect.lex_join laid whole]

namespace Lexing

theorem start_word (dialect : Dialect) {c : Char} (word : isWordChar c) (tokens : List Token) :
    start dialect tokens c = ⟨tokens, .word [c]⟩ := by
  have present : c ≠ '\x00' := by
    rintro rfl
    cases word
  have visible : ¬ isSpace c := by
    intro space
    simp only [isSpace, Bool.or_eq_true, decide_eq_true_eq] at space
    rcases space with (((rfl | rfl) | rfl) | rfl) | rfl
    all_goals cases word
  have named : c ≠ '?' := by
    rintro rfl
    cases word
  rw [start, if_neg present, if_neg visible, if_neg named, if_pos word]

theorem run_word (dialect : Dialect) {chars : List Char} (word : ∀ c ∈ chars, isWordChar c)
    (tokens : List Token) (letters : List Char) :
    run dialect ⟨tokens, .word letters⟩ chars = ⟨tokens, .word (letters ++ chars)⟩ := by
  induction chars generalizing letters with
  | nil => rw [List.append_nil]; rfl
  | cons c chars ih =>
      have one : step dialect ⟨tokens, .word letters⟩ c = ⟨tokens, .word (letters ++ [c])⟩ :=
        if_pos (word c List.mem_cons_self)
      have later := ih (fun d member => word d (List.mem_cons_of_mem c member)) (letters ++ [c])
      rw [List.append_assoc, List.singleton_append] at later
      rw [← later, run, List.foldl_cons, one]
      rfl

end Lexing

theorem Dialect.lex_number (dialect : Dialect) (number : Nat) :
    dialect.lex (toString number) = [.word (toString number)] := by
  have text : (toString number).toList = Nat.toDigits 10 number := Nat.toList_repr
  have word : ∀ c ∈ (toString number).toList, Lexing.isWordChar c := by
    intro c member
    rw [text] at member
    have digit : c.isDigit := Nat.isDigit_of_mem_toDigits (by decide) (by decide) member
    simp only [Lexing.isWordChar, Char.isAlphanum, digit, Bool.or_true, Bool.true_or]
  rw [Dialect.lex]
  cases made : (toString number).toList with
  | nil => exact absurd (text.symm.trans made) Nat.toDigits_ne_nil
  | cons c rest =>
      rw [made] at word
      have first : Lexing.step dialect {} c = ⟨[], .word [c]⟩ :=
        Lexing.start_word dialect (word c List.mem_cons_self) []
      have later := Lexing.run_word dialect
        (fun d member => word d (List.mem_cons_of_mem c member)) [] [c]
      rw [Lexing.run, List.foldl_cons, first, ← Lexing.run, later, Lexing.finish]
      simp only [Lexing.Mode.pending, List.nil_append, List.singleton_append, ← made,
        String.ofList_toList]

end TopicLog
