import TopicLog.Failure
import TopicLog.Metadata.Json

/-!
How metadata are stored in a column. The usual codec stores a JSON object; any pair of partial
functions can take its place.
-/
namespace TopicLog

structure Codec where
  encode : Metadata → Except Cause Bytes
  decode : Bytes → Except Cause Metadata

namespace Codec

def json : Codec where
  encode metadata := .ok metadata.toJson
  decode bytes := (Metadata.ofJson bytes).mapError .json

/-- Like the JSON codec, but metadata that have a certain key are refused both ways. -/
def refusing (key : String) : Codec where
  encode metadata :=
    if (metadata.get? key).isSome then .error (.other "cannot encode") else json.encode metadata
  decode bytes := do
    let metadata ← json.decode bytes
    if (metadata.get? key).isSome then .error (.other "cannot decode") else .ok metadata

end Codec
end TopicLog
