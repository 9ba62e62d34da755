import TopicLog.Text.Utf8

/-!
What stops the reading of a JSON document. Reading goes from left to right and reports the first
fault it meets, so a document has at most one.
-/
namespace TopicLog.Json

inductive Fault where
  | malformed
  /-- Well formed so far, but not of the wanted type. -/
  | mistyped
  | truncated
  deriving DecidableEq, Repr

/-- A value that was read and the bytes after it. -/
abbrev Reading (α : Type) := Except Fault (α × Bytes)

/-- The blanks of JSON: space, tab, line feed and carriage return. -/
def isBlankByte (b : UInt8) : Bool := b = 0x20 || b = 0x09 || b = 0x0A || b = 0x0D

def skipBlanks (bytes : Bytes) : Bytes := bytes.dropWhile isBlankByte

theorem skipBlanks_length (bytes : Bytes) : (skipBlanks bytes).length ≤ bytes.length := by
  induction bytes with
  | nil => simp [skipBlanks]
  | cons b rest ih =>
      simp only [skipBlanks, List.dropWhile_cons] at *
      split
      · exact Nat.le_succ_of_le ih
      · exact Nat.le_refl _

theorem skipBlanks_tail {bytes rest : Bytes} {b : UInt8} (next : skipBlanks bytes = b :: rest) :
    rest.length < bytes.length := by
  have bound := skipBlanks_length bytes
  rw [next] at bound
  exact bound

def document {α : Type} (read : Bytes → Reading α) (bytes : Bytes) : Except Fault α :=
  match read bytes with
  | .error fault => .error fault
  | .ok (value, rest) =>
      match skipBlanks rest with
      | [] => .ok value
      | _ :: _ => .error .malformed

end TopicLog.Json
