import TopicLog.Json.Value

/-!
Passing over a value that nobody wants. It has to be well formed, but strings are not decoded (lone
surrogates and bytes that are no UTF-8 pass) and numbers may have any size. The brackets that are
open are kept in a list, innermost first, so nesting may be of any depth.
-/
namespace TopicLog.Json

inductive Bracket where
  | array
  | object
  deriving DecidableEq, Repr

def skipEscape : Bytes → Except Fault Bytes
  | [] => .error .truncated
  | letter :: rest =>
      if (escaped? letter).isSome then .ok rest
      else if letter = 'u'.toUInt8 then (readUnit rest).map (·.2)
      else .error .malformed

theorem skipEscape_length {bytes rest : Bytes} (read : skipEscape bytes = .ok rest) :
    rest.length < bytes.length := by
  unfold skipEscape at read
  repeat' split at read
  · contradiction
  · cases read
    simp
  · rename_i after _ _
    cases found : readUnit after with
    | error fault => simp [found, Except.map] at read
    | ok pair =>
        simp only [found, Except.map, Except.ok.injEq] at read
        have bound := readUnit_length found
        simp only [List.length_cons, ← read]
        omega
  · contradiction

def skipString (bytes : Bytes) : Except Fault Bytes :=
  match bytes with
  | [] => .error .truncated
  | b :: tail =>
      if b = '"'.toUInt8 then .ok tail
      else if b = '\\'.toUInt8 then
        match _found : skipEscape tail with
        | .error fault => .error fault
        | .ok rest => skipString rest
      else if b.toNat < 0x20 then .error .malformed
      else skipString tail
termination_by bytes.length
decreasing_by
  · exact Nat.lt_succ_of_lt (skipEscape_length ‹_›)
  · exact Nat.lt_succ_self _

theorem skipString_length {bytes rest : Bytes} (read : skipString bytes = .ok rest) :
    rest.length < bytes.length := by
  fun_induction skipString bytes with
  | case1 => contradiction
  | case2 => cases read; simp
  | case3 => contradiction
  | case4 tail after found _ ih =>
      exact Nat.lt_succ_of_lt (Nat.lt_trans (ih read) (skipEscape_length found))
  | case5 => contradiction
  | case6 b tail _ _ _ ih => exact Nat.lt_succ_of_lt (ih read)

def skipDigits : Bytes → Except Fault Bytes
  | [] => .error .malformed
  | d :: rest => if isDigitByte d then .ok (rest.dropWhile isDigitByte) else .error .malformed

def skipExponent : Bytes → Except Fault Bytes
  | [] => .ok []
  | b :: rest =>
      if b = 'e'.toUInt8 ∨ b = 'E'.toUInt8 then
        match rest with
        | [] => .error .malformed
        | sign :: digits =>
            if sign = '+'.toUInt8 ∨ sign = '-'.toUInt8 then skipDigits digits else skipDigits rest
      else .ok (b :: rest)

def skipFraction : Bytes → Except Fault Bytes
  | [] => .ok []
  | b :: rest =>
      if b = '.'.toUInt8 then
        match skipDigits rest with
        | .error fault => .error fault
        | .ok rest => skipExponent rest
      else skipExponent (b :: rest)

/-- Passes over a number, after its sign. Here a number that ends too early is malformed. -/
def skipUnsigned : Bytes → Except Fault Bytes
  | [] => .error .malformed
  | d :: rest =>
      if d = '0'.toUInt8 then
        if rest.head?.any isDigitByte then .error .malformed else skipFraction rest
      else if isDigitByte d then skipFraction (rest.dropWhile isDigitByte)
      else .error .malformed

def skipScalar : Bytes → Except Fault Bytes
  | [] => .error .truncated
  | b :: rest =>
      match literalTail? b with
      | some expected => readLiteral expected rest
      | none =>
          if b = '-'.toUInt8 then skipUnsigned rest
          else if isDigitByte b then skipUnsigned (b :: rest)
          else if b = '"'.toUInt8 then skipString rest
          else .error .malformed

theorem dropWhile_length (p : UInt8 → Bool) (bytes : Bytes) :
    (bytes.dropWhile p).length ≤ bytes.length := by
  induction bytes with
  | nil => simp
  | cons b rest ih =>
      rw [List.dropWhile_cons]
      split
      · exact Nat.le_succ_of_le ih
      · exact Nat.le_refl _

theorem skipDigits_length {bytes rest : Bytes} (read : skipDigits bytes = .ok rest) :
    rest.length < bytes.length := by
  unfold skipDigits at read
  repeat' split at read
  · contradiction
  · cases read
    exact Nat.lt_succ_of_le (dropWhile_length _ _)
  · contradiction

theorem skipExponent_length {bytes rest : Bytes} (read : skipExponent bytes = .ok rest) :
    rest.length ≤ bytes.length := by
  unfold skipExponent at read
  repeat' split at read
  · cases read; exact Nat.le_refl _
  · contradiction
  · have bound := skipDigits_length read
    simp only [List.length_cons]
    omega
  · have bound := skipDigits_length read
    simp only [List.length_cons] at bound ⊢
    omega
  · cases read; exact Nat.le_refl _

theorem skipFraction_length {bytes rest : Bytes} (read : skipFraction bytes = .ok rest) :
    rest.length ≤ bytes.length := by
  unfold skipFraction at read
  repeat' split at read
  · cases read; exact Nat.le_refl _
  · contradiction
  · have digits := skipDigits_length ‹_›
    have exponent := skipExponent_length read
    simp only [List.length_cons]
    omega
  · exact skipExponent_length read

theorem skipUnsigned_length {bytes rest : Bytes} (read : skipUnsigned bytes = .ok rest) :
    rest.length < bytes.length := by
  unfold skipUnsigned at read
  repeat' split at read
  · contradiction
  · contradiction
  · exact Nat.lt_succ_of_le (skipFraction_length read)
  · exact Nat.lt_succ_of_le (Nat.le_trans (skipFraction_length read) (dropWhile_length _ _))
  · contradiction

theorem skipScalar_length {bytes rest : Bytes} (read : skipScalar bytes = .ok rest) :
    rest.length < bytes.length := by
  unfold skipScalar at read
  repeat' split at read
  · contradiction
  · exact Nat.lt_succ_of_le (readLiteral_length read)
  · exact Nat.lt_succ_of_lt (skipUnsigned_length read)
  · exact skipUnsigned_length read
  · exact Nat.lt_succ_of_lt (skipString_length read)
  · contradiction

/-- Passes over a key, its colon included, after the opening quote. -/
def skipKey (bytes : Bytes) : Except Fault Bytes :=
  match skipString bytes with
  | .error fault => .error fault
  | .ok rest => readColon rest

theorem skipKey_length {bytes rest : Bytes} (read : skipKey bytes = .ok rest) :
    rest.length < bytes.length := by
  unfold skipKey at read
  split at read
  · contradiction
  · exact Nat.lt_trans (readColon_length read) (skipString_length ‹_›)

mutual

/-- Passes over a value and then to the end of the outermost bracket that is open. -/
def skipValue (enclosing : List Bracket) (bytes : Bytes) : Except Fault Bytes :=
  match _start : skipBlanks bytes with
  | [] => .error .truncated
  | b :: tail =>
      if b = '['.toUInt8 then
        match _next : skipBlanks tail with
        | [] => .error .truncated
        | c :: rest =>
            if c = ']'.toUInt8 then skipRest enclosing rest
            else skipValue (.array :: enclosing) tail
      else if b = '\x7b'.toUInt8 then
        match _next : skipBlanks tail with
        | [] => .error .truncated
        | c :: rest =>
            if c = '\x7d'.toUInt8 then skipRest enclosing rest
            else if c = '"'.toUInt8 then
              match _key : skipKey rest with
              | .error fault => .error fault
              | .ok rest => skipValue (.object :: enclosing) rest
            else .error .malformed
      else
        match _scalar : skipScalar (b :: tail) with
        | .error fault => .error fault
        | .ok rest => skipRest enclosing rest
termination_by bytes.length
decreasing_by
  · exact Nat.lt_trans (skipBlanks_tail _next) (skipBlanks_tail _start)
  · exact skipBlanks_tail _start
  · exact Nat.lt_trans (skipBlanks_tail _next) (skipBlanks_tail _start)
  · exact Nat.lt_trans (skipKey_length _key)
      (Nat.lt_trans (skipBlanks_tail _next) (skipBlanks_tail _start))
  · have inside := skipBlanks_tail _start
    have shorter := skipScalar_length _scalar
    simp only [List.length_cons] at shorter
    omega

/-- What may follow a value: nothing more, a comma or the closing bracket. -/
def skipRest (enclosing : List Bracket) (bytes : Bytes) : Except Fault Bytes :=
  match enclosing with
  | [] => .ok bytes
  | .array :: outer =>
      match _start : skipBlanks bytes with
      | [] => .error .truncated
      | b :: rest =>
          if b = ']'.toUInt8 then skipRest outer rest
          else if b = ','.toUInt8 then skipValue (.array :: outer) rest
          else .error .malformed
  | .object :: outer =>
      match _start : skipBlanks bytes with
      | [] => .error .truncated
      | b :: rest =>
          if b = '\x7d'.toUInt8 then skipRest outer rest
          else if b = ','.toUInt8 then
            match _next : skipBlanks rest with
            | [] => .error .truncated
            | c :: rest =>
                if c = '"'.toUInt8 then
                  match _key : skipKey rest with
                  | .error fault => .error fault
                  | .ok rest => skipValue (.object :: outer) rest
                else .error .malformed
          else .error .malformed
termination_by bytes.length
decreasing_by
  · exact skipBlanks_tail _start
  · exact skipBlanks_tail _start
  · exact skipBlanks_tail _start
  · exact Nat.lt_trans (skipKey_length _key)
      (Nat.lt_trans (skipBlanks_tail _next) (skipBlanks_tail _start))

end

/-- Both passes stay within the input, by induction on a bound of its length. -/
theorem skip_length (bound : Nat) (enclosing : List Bracket) (bytes rest : Bytes)
    (bounded : bytes.length < bound) :
    (skipValue enclosing bytes = .ok rest → rest.length < bytes.length) ∧
      (skipRest enclosing bytes = .ok rest → rest.length ≤ bytes.length) := by
  induction bound generalizing enclosing bytes with
  | zero => exact absurd bounded (Nat.not_lt_zero _)
  | succ bound ih =>
      have value {enclosing : List Bracket} {later : Bytes} (shorter : later.length < bytes.length)
          (read : skipValue enclosing later = .ok rest) : rest.length < bytes.length :=
        Nat.lt_trans ((ih enclosing later (by omega)).1 read) shorter
      have tail {enclosing : List Bracket} {later : Bytes} (shorter : later.length < bytes.length)
          (read : skipRest enclosing later = .ok rest) : rest.length < bytes.length :=
        Nat.lt_of_le_of_lt ((ih enclosing later (by omega)).2 read) shorter
      constructor <;> intro read
      · unfold skipValue at read
        split at read
        · contradiction
        · have start := skipBlanks_tail ‹_›
          repeat' split at read
          · contradiction
          · exact tail (Nat.lt_trans (skipBlanks_tail ‹_›) start) read
          · exact value start read
          · contradiction
          · exact tail (Nat.lt_trans (skipBlanks_tail ‹_›) start) read
          · contradiction
          · exact value (Nat.lt_trans (skipKey_length ‹_›)
              (Nat.lt_trans (skipBlanks_tail ‹_›) start)) read
          · contradiction
          · contradiction
          · have shorter := skipScalar_length ‹_›
            simp only [List.length_cons] at shorter
            exact tail (by omega) read
      · unfold skipRest at read
        split at read
        · cases read
          exact Nat.le_refl _
        · split at read
          · contradiction
          · have start := skipBlanks_tail ‹_›
            repeat' split at read
            · exact Nat.le_of_lt (tail start read)
            · exact Nat.le_of_lt (value start read)
            · contradiction
        · split at read
          · contradiction
          · have start := skipBlanks_tail ‹_›
            repeat' split at read
            · exact Nat.le_of_lt (tail start read)
            · contradiction
            · contradiction
            · exact Nat.le_of_lt (value (Nat.lt_trans (skipKey_length ‹_›)
                (Nat.lt_trans (skipBlanks_tail ‹_›) start)) read)
            · contradiction
            · contradiction

theorem skipValue_length {enclosing : List Bracket} {bytes rest : Bytes}
    (read : skipValue enclosing bytes = .ok rest) : rest.length < bytes.length :=
  (skip_length (bytes.length + 1) enclosing bytes rest (Nat.lt_succ_self _)).1 read

end TopicLog.Json
