import ForumQuery.Json.Basic
import ForumQuery.RecordId
import ForumQuery.Topic.Level
import ForumQuery.Topic.Status

/-!
# Identifiers and names as JSON

An identifier is written as an integer and read from one that fits.  A level or a status is written
as its name; it is read from the name or from an object whose one field has that name and no value.
-/

namespace ForumQuery

namespace RecordId

variable {kind : RecordKind}

/-- An identifier as JSON. -/
def toJson (id : RecordId kind) : Json := .int id.toInt

/-- The identifier that a value stands for. -/
def ofJson? : Json → Option (RecordId kind)
  | .scalar (.int n) => ofInt? n
  | _ => none

theorem ofJson?_toJson (id : RecordId kind) : ofJson? id.toJson = some id := ofInt?_toInt id

end RecordId

/-- The name that a value stands for, alone or as a field without a value. -/
def Json.name? : Json → Option String
  | .scalar (.text (.plain name)) => some name
  | .object [(.plain name, .scalar .null)] => some name
  | _ => none

namespace Level

/-- A level as JSON. -/
def toJson (level : Level) : Json := .string level.name

/-- The level that a value stands for. -/
def ofJson? (value : Json) : Option Level := value.name?.bind ofName?

theorem ofJson?_toJson (level : Level) : ofJson? level.toJson = some level := ofName?_name level

end Level

namespace Status

/-- A status as JSON. -/
def toJson (status : Status) : Json := .string status.name

/-- The status that a value stands for. -/
def ofJson? (value : Json) : Option Status := value.name?.bind ofName?

theorem ofJson?_toJson (status : Status) : ofJson? status.toJson = some status :=
  ofName?_name status

end Status

end ForumQuery
