/-!
# Failures

What can go wrong outside the compilation of a query: with the store of files, with the settings
kept there, and in a lookup of names.  Compiling itself never fails.
-/

namespace ForumQuery

/-- What a file operation can run into. -/
inductive StorageFault where
  /-- there is nothing at the path -/
  | missing
  /-- something on the way is a file -/
  | notDirectory
  /-- there is a directory where a file is wanted -/
  | isDirectory
  /-- there is a file where a directory is wanted -/
  | occupied
  /-- the bytes are not UTF-8 -/
  | notText
  deriving DecidableEq, Repr

namespace StorageFault

/-- The words for a fault, with its number where it has one. -/
def message : StorageFault → String
  | missing => "No such file or directory (os error 2)"
  | notDirectory => "Not a directory (os error 20)"
  | isDirectory => "Is a directory (os error 21)"
  | occupied => "File exists (os error 17)"
  | notText => "stream did not contain valid UTF-8"

end StorageFault

/-- What can be wrong with a settings file. -/
inductive SettingsFault where
  | malformed
  | unsupportedVersion (found : String)
  deriving DecidableEq, Repr

namespace SettingsFault

/-- The words for a fault. -/
def message : SettingsFault → String
  | malformed => "failed to parse"
  | unsupportedVersion found => "unsupported config version " ++ found

end SettingsFault

/-- What can go wrong outside the compilation of a query. -/
inductive Failure where
  | storage (fault : StorageFault)
  | settings (path : String) (fault : SettingsFault)
  | lookup (reason : String)
  deriving DecidableEq, Repr

namespace Failure

/-- The words for a failure. -/
def message : Failure → String
  | storage fault => "IO error: " ++ fault.message
  | settings path fault => "Config error in " ++ path ++ ": " ++ fault.message
  | lookup reason => "Lookup error: " ++ reason

end Failure

end ForumQuery
