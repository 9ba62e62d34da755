/-!
Random identifiers in the shape of a version 4 UUID: thirty-two hexadecimal digits in groups of
eight, four, four, four and twelve, of which the thirteenth is the version and the seventeenth holds
the variant in its upper bits.
-/
namespace TopicLog.Uuid

/-- The digit that stands at a place, drawn from the bits of a random number. -/
def digitAt (random : Nat) (place : Nat) : Nat :=
  let nibble := random >>> (4 * place) % 16
  if place = 12 then 4 else if place = 16 then 8 + nibble % 4 else nibble

def hexDigit (n : Nat) : Char := (Nat.digitChar n)

def ofRandom (random : Nat) : String :=
  String.ofList <| (List.range 32).flatMap fun place =>
    let digit := hexDigit (digitAt random place)
    if place = 8 ∨ place = 12 ∨ place = 16 ∨ place = 20 then ['-', digit] else [digit]

def isHex (c : Char) : Bool := ('0' ≤ c && c ≤ '9') || ('a' ≤ c && c ≤ 'f')

def fits (position : Nat) (c : Char) : Bool :=
  if position = 8 ∨ position = 13 ∨ position = 18 ∨ position = 23 then c = '-'
  else if position = 14 then c = '4'
  else if position = 19 then c = '8' || c = '9' || c = 'a' || c = 'b'
  else isHex c

def isVersion4 (text : String) : Bool :=
  text.toList.length = 36 && text.toList.zipIdx.all fun (c, position) => fits position c

end TopicLog.Uuid
