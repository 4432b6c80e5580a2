import ForumQuery.Files
import ForumQuery.Settings

/-!
# The settings file

Settings are kept in a file of a fixed name.  Loading makes the directory if it is not there, and the
file with the initial settings if that is not there; it refuses settings that cannot be read and
settings of another version.  Saving writes the file in a directory that is there.
-/

namespace ForumQuery

namespace Settings

/-- The name of the settings file. -/
def fileName : String := "topic-filter.json"

/-- The settings file of a directory. -/
def pathIn (directory : Path) : Path := directory ++ [fileName]

/-- Writes settings to a path: the outcome, and the files afterwards. -/
def save (settings : Settings) (path : Path) (files : Node) : Except Failure Unit × Node :=
  match files.writeFile settings.text.toUTF8 path with
  | .ok files => (.ok (), files)
  | .error fault => (.error (.storage fault), files)

/-- Reads the text of the settings file at a path, for settings of the current version. -/
def check (path : Path) (text : String) : Except Failure Settings :=
  match parse? text with
  | none => .error (.settings path.text .malformed)
  | some settings =>
    if settings.version = currentVersion then .ok settings
    else .error (.settings path.text (.unsupportedVersion settings.version))

/-- Reads the settings file at a path. -/
def read (path : Path) (files : Node) : Except Failure Settings :=
  match files.readText path with
  | .ok text => check path text
  | .error fault => .error (.storage fault)

/-- Loads the settings of a directory: the outcome, and the files afterwards. -/
def load (directory : Path) (files : Node) : Except Failure Settings × Node :=
  match files.makeDirectories directory with
  | .error fault => (.error (.storage fault), files)
  | .ok files =>
    match files.find (pathIn directory) with
    | .ok _ => (read (pathIn directory) files, files)
    | .error _ =>
      let (outcome, files) := initial.save (pathIn directory) files
      (outcome.map fun _ => initial, files)

end Settings

end ForumQuery
