import TopicLog.Script

/-!
A handler for trials: it records every delivery that it is handed and then accepts it, refuses it by
a schedule, or never returns.
-/
namespace TopicLog

structure Recorder where
  /-- How many times an offset is still to be refused; a negative number never runs out. -/
  refusals : List (Int × Int) := []
  hang : Option Int := none
  /-- What was handed over, the last first. -/
  recorded : List Delivery := []

namespace Recorder

def deliveries (recorder : Recorder) : List Delivery := recorder.recorded.reverse

def useUp (offset : Int) : List (Int × Int) → List (Int × Int)
  | [] => []
  | entry :: rest =>
      if entry.1 = offset then (offset, if 0 < entry.2 then entry.2 - 1 else entry.2) :: rest
      else entry :: useUp offset rest

def handler : Handler Recorder := fun delivery recorder =>
  let recorder := { recorder with recorded := delivery :: recorder.recorded }
  if recorder.hang = some delivery.offset then (none, recorder)
  else if (recorder.refusals.lookup delivery.offset).getD 0 = 0 then (some .accepted, recorder)
  else
    (some (.refused ("refusing offset " ++ toString delivery.offset)),
      { recorder with refusals := useUp delivery.offset recorder.refusals })

end Recorder
end TopicLog
