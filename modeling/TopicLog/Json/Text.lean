import TopicLog.Json.Fault

/-!
JSON strings. Writing escapes the quote, the backslash and the controls below the space and leaves
every other character as it is. Reading resolves escapes first and looks at the UTF-8 of the whole
string when its closing quote is reached; a surrogate escape must come in a pair.
-/
namespace TopicLog.Json

/-! Writing. -/

def hexDigit (n : Nat) : UInt8 := if n < 10 then .ofNat (0x30 + n) else .ofNat (0x57 + n)

def shortEscape? (c : Char) : Option UInt8 :=
  if c = '"' then some '"'.toUInt8
  else if c = '\\' then some '\\'.toUInt8
  else if c = '\x08' then some 'b'.toUInt8
  else if c = '\x0c' then some 'f'.toUInt8
  else if c = '\n' then some 'n'.toUInt8
  else if c = '\r' then some 'r'.toUInt8
  else if c = '\t' then some 't'.toUInt8
  else none

def writeChar (c : Char) : Bytes :=
  match shortEscape? c with
  | some letter => ['\\'.toUInt8, letter]
  | none =>
      if c.toNat < 0x20 then
        ['\\'.toUInt8, 'u'.toUInt8, '0'.toUInt8, '0'.toUInt8,
          hexDigit (c.toNat / 16), hexDigit (c.toNat % 16)]
      else Utf8.encodeChar c

def writeText (text : String) : Bytes :=
  '"'.toUInt8 :: (text.toList.flatMap writeChar ++ ['"'.toUInt8])

/-! Reading. -/

def hexValue? (b : UInt8) : Option Nat :=
  let n := b.toNat
  if 0x30 ≤ n ∧ n ≤ 0x39 then some (n - 0x30)
  else if 0x41 ≤ n ∧ n ≤ 0x46 then some (n - 0x37)
  else if 0x61 ≤ n ∧ n ≤ 0x66 then some (n - 0x57)
  else none

def unit? (a b c d : UInt8) : Option Nat := do
  let a ← hexValue? a
  let b ← hexValue? b
  let c ← hexValue? c
  let d ← hexValue? d
  return ((a * 16 + b) * 16 + c) * 16 + d

/-- Takes four bytes before looking at any of them. -/
def readUnit : Bytes → Reading Nat
  | a :: b :: c :: d :: rest =>
      match unit? a b c d with
      | some unit => .ok (unit, rest)
      | none => .error .malformed
  | _ => .error .truncated

def readTrailing (leading : Nat) : Bytes → Reading Char
  | [] => .error .truncated
  | b :: rest =>
      if b ≠ '\\'.toUInt8 then .error .malformed else
      match rest with
      | [] => .error .truncated
      | u :: rest =>
          if u ≠ 'u'.toUInt8 then .error .malformed else
          match readUnit rest with
          | .error fault => .error fault
          | .ok (unit, rest) =>
              if 0xDC00 ≤ unit ∧ unit ≤ 0xDFFF then
                .ok (.ofNat (0x10000 + (leading - 0xD800) * 0x400 + (unit - 0xDC00)), rest)
              else .error .malformed

def readNumbered (bytes : Bytes) : Reading Char :=
  match readUnit bytes with
  | .error fault => .error fault
  | .ok (unit, rest) =>
      if 0xDC00 ≤ unit ∧ unit ≤ 0xDFFF then .error .malformed
      else if 0xD800 ≤ unit ∧ unit ≤ 0xDBFF then readTrailing unit rest
      else .ok (.ofNat unit, rest)

def escaped? (letter : UInt8) : Option Char :=
  if letter = '"'.toUInt8 then some '"'
  else if letter = '\\'.toUInt8 then some '\\'
  else if letter = '/'.toUInt8 then some '/'
  else if letter = 'b'.toUInt8 then some '\x08'
  else if letter = 'f'.toUInt8 then some '\x0c'
  else if letter = 'n'.toUInt8 then some '\n'
  else if letter = 'r'.toUInt8 then some '\r'
  else if letter = 't'.toUInt8 then some '\t'
  else none

def readEscape : Bytes → Reading Char
  | [] => .error .truncated
  | letter :: rest =>
      match escaped? letter with
      | some c => .ok (c, rest)
      | none => if letter = 'u'.toUInt8 then readNumbered rest else .error .malformed

theorem readUnit_length {bytes rest : Bytes} {unit : Nat}
    (read : readUnit bytes = .ok (unit, rest)) : rest.length < bytes.length := by
  unfold readUnit at read
  split at read
  · split at read
    · cases read
      simp only [List.length_cons]
      omega
    · cases read
  · cases read

theorem readTrailing_length {leading : Nat} {bytes rest : Bytes} {c : Char}
    (read : readTrailing leading bytes = .ok (c, rest)) : rest.length < bytes.length := by
  unfold readTrailing at read
  repeat' split at read
  all_goals first
    | contradiction
    | have shorter := readUnit_length ‹_›
      obtain ⟨_, rfl⟩ := Prod.mk.inj (Except.ok.inj read)
      simp only [List.length_cons]
      omega

theorem readNumbered_length {bytes rest : Bytes} {c : Char}
    (read : readNumbered bytes = .ok (c, rest)) : rest.length < bytes.length := by
  unfold readNumbered at read
  split at read
  · cases read
  · have shorter := readUnit_length ‹_›
    repeat' split at read
    · cases read
    · exact Nat.lt_trans (readTrailing_length read) shorter
    · cases read
      exact shorter

theorem readEscape_length {bytes rest : Bytes} {c : Char}
    (read : readEscape bytes = .ok (c, rest)) : rest.length < bytes.length := by
  cases bytes with
  | nil => cases read
  | cons letter bytes =>
      simp only [readEscape] at read
      repeat' split at read
      · cases read
        simp
      · exact Nat.lt_succ_of_lt (readNumbered_length read)
      · cases read

/-- The bytes of a string with its escapes resolved, up to the closing quote. -/
def readContents (bytes : Bytes) : Reading Bytes :=
  match bytes with
  | [] => .error .truncated
  | b :: tail =>
      if b = '"'.toUInt8 then .ok ([], tail)
      else if b = '\\'.toUInt8 then
        match _found : readEscape tail with
        | .error fault => .error fault
        | .ok (c, rest) => (readContents rest).map fun (contents, rest) =>
            (Utf8.encodeChar c ++ contents, rest)
      else if b.toNat < 0x20 then .error .malformed
      else (readContents tail).map fun (contents, rest) => (b :: contents, rest)
termination_by bytes.length
decreasing_by
  · exact Nat.lt_succ_of_lt (readEscape_length ‹_›)
  · exact Nat.lt_succ_self _

def readString (bytes : Bytes) : Reading String :=
  match readContents bytes with
  | .error fault => .error fault
  | .ok (contents, rest) =>
      match Utf8.decode? contents with
      | some text => .ok (text, rest)
      | none => .error .malformed

theorem readContents_length {bytes contents rest : Bytes}
    (read : readContents bytes = .ok (contents, rest)) : rest.length < bytes.length := by
  fun_induction readContents bytes generalizing contents with
  | case1 => cases read
  | case2 tail => cases read; simp
  | case3 => cases read
  | case4 tail c after found _ ih =>
      cases inner : readContents after with
      | error fault => simp [inner, Except.map] at read
      | ok pair =>
          simp only [inner, Except.map, Except.ok.injEq, Prod.mk.injEq] at read
          have step := @ih pair.1 (by rw [inner, ← read.2])
          have shorter := readEscape_length found
          simp only [List.length_cons]
          omega
  | case5 => cases read
  | case6 b tail _ _ _ ih =>
      cases inner : readContents tail with
      | error fault => simp [inner, Except.map] at read
      | ok pair =>
          simp only [inner, Except.map, Except.ok.injEq, Prod.mk.injEq] at read
          have step := @ih pair.1 (by rw [inner, ← read.2])
          simp only [List.length_cons]
          omega

theorem readString_length {bytes rest : Bytes} {text : String}
    (read : readString bytes = .ok (text, rest)) : rest.length < bytes.length := by
  unfold readString at read
  split at read
  · cases read
  · split at read
    · cases read
      exact readContents_length ‹_›
    · cases read

end TopicLog.Json
