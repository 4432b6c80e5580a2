import ForumQuery.Json.Parse

/-!
# Settings

The settings of a site: the version of their format, and whether tags are in use.  They are written
as an object with a line for each field.  They are read from an object, in which the version must
stand and neither field may stand twice, or from an array with the version first; where nothing is
said about tags, they are in use.  Other fields of the object are passed over.
-/

namespace ForumQuery

/-- The settings of a site. -/
structure Settings where
  version : String
  taggingEnabled : Bool
  deriving DecidableEq, Repr

namespace Settings

/-- The version of the format that this library reads. -/
def currentVersion : String := "1.0.0"

/-- The settings of a site that has none. -/
def initial : Settings := ⟨currentVersion, true⟩

/-- Settings as JSON. -/
def toJson (settings : Settings) : Json :=
  .record [("version", .string settings.version), ("tagging_enabled", .bool settings.taggingEnabled)]

/-- The text of settings. -/
def text (settings : Settings) : String := settings.toJson.pretty

/-- The fields of an object that have been read so far. -/
structure Partial where
  version : Option String := none
  taggingEnabled : Option Bool := none
  deriving DecidableEq, Repr

/-- Reads one field; a name with half of a character is refused. -/
def readField (read : Partial) : Json.Text × Json → Option Partial
  | (.plain "version", value) =>
    match read.version, value with
    | none, .scalar (.text (.plain version)) => some { read with version := some version }
    | _, _ => none
  | (.plain "tagging_enabled", value) =>
    match read.taggingEnabled, value with
    | none, .scalar (.bool enabled) => some { read with taggingEnabled := some enabled }
    | _, _ => none
  | (.plain _, _) => some read
  | (.unpaired _, _) => none

/-- The settings that some fields make up. -/
def ofFields? (read : Partial) : List (Json.Text × Json) → Option Settings
  | [] => read.version.map (⟨·, read.taggingEnabled.getD true⟩)
  | field :: rest => do ofFields? (← readField read field) rest

/-- The settings that a value stands for. -/
def ofJson? : Json → Option Settings
  | .array [.scalar (.text (.plain version))] => some ⟨version, true⟩
  | .array [.scalar (.text (.plain version)), .scalar (.bool enabled)] => some ⟨version, enabled⟩
  | .object fields => ofFields? {} fields
  | _ => none

/-- Reads the text of settings. -/
def parse? (text : String) : Option Settings := do ofJson? (← Json.parse? text)

theorem ofJson?_toJson (settings : Settings) : ofJson? settings.toJson = some settings := rfl

end Settings

end ForumQuery
