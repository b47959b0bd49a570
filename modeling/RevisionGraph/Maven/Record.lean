import RevisionGraph.Maven.Coordinate
import RevisionGraph.Revision.Basic

/-!
# Release records

A record announces a release: a JSON object with the three parts of a coordinate and perhaps a
`date`, the time of the release in seconds since the epoch.
-/

set_option autoImplicit false

namespace RevisionGraph.ReleaseRecord

/-- The object in the text of a record. -/
def parse (text : String) : Result Json :=
  match Json.read text with
  | .error e => .error (e.fault .recordNotJson)
  | .ok record =>
    if Json.Kind.object.admits record then .ok record
    else Json.wrongShape (.recordNotObject text)

/-- The time of the release; a record without a date leaves it unknown. -/
def releaseTime (record : Json) : Result Int :=
  match (record.member? "date").getD .null with
  | .null => .ok Revision.unknownTime
  | date => match Text.readInteger? date.plain with
    | some time => .ok time
    | none => Json.wrongShape (.recordDate date)

end RevisionGraph.ReleaseRecord
