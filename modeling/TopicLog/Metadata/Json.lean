import TopicLog.Metadata
import TopicLog.Json.Value

/-!
Metadata as a JSON object of strings. Writing gives the keys in ascending order without blanks.
Reading accepts any spelling, and of equal keys keeps the last.
-/
namespace TopicLog.Metadata

def writeEntry (entry : String × String) : Bytes :=
  Json.writeText entry.1 ++ ':'.toUInt8 :: Json.writeText entry.2

def writeEntries : List (String × String) → Bytes
  | [] => []
  | [entry] => writeEntry entry
  | entry :: rest => writeEntry entry ++ ','.toUInt8 :: writeEntries rest

def toJson (metadata : Metadata) : Bytes :=
  '\x7b'.toUInt8 :: (writeEntries metadata.entries ++ ['\x7d'.toUInt8])

/-- The members of an object, added to those read before them. -/
def readMembers (first : Bool) (metadata : Metadata) (bytes : Bytes) : Json.Reading Metadata :=
  match _key : Json.nextKey first bytes with
  | .error fault => .error fault
  | .ok (none, rest) => .ok (metadata, rest)
  | .ok (some key, rest) =>
      match _colon : Json.readColon rest with
      | .error fault => .error fault
      | .ok rest =>
          match _value : Json.readText rest with
          | .error fault => .error fault
          | .ok (value, rest) => readMembers false (metadata.insert key value) rest
termination_by bytes.length
decreasing_by
  have afterKey := Json.nextKey_length _key
  have afterColon := Json.readColon_length _colon
  have afterValue := Json.readText_length _value
  omega

def readObject (bytes : Bytes) : Json.Reading Metadata :=
  match Json.skipBlanks bytes with
  | [] => .error .truncated
  | b :: rest =>
      if b = '\x7b'.toUInt8 then readMembers true empty rest
      else .error (Json.mismatch (b :: rest))

def ofJson (bytes : Bytes) : Except Json.Fault Metadata := Json.document readObject bytes

end TopicLog.Metadata
