import ForumQuery.Failure

/-!
# Files

A tree of directories and files, and the operations on it.  Every operation follows a path from the
top.  It fails only for what stands on the path, and then it has changed nothing.
-/

namespace ForumQuery

/-- A path, as the names from the top down. -/
abbrev Path := List String

/-- The text of a path. -/
def Path.text (path : Path) : String := "/".intercalate path

/-- A file with its bytes, or a directory with its entries. -/
inductive Node where
  | file (bytes : ByteArray)
  | directory (entries : List (String × Node))

namespace Node

instance : Inhabited Node := ⟨directory []⟩

/-- The entry of a name. -/
def child? (name : String) : List (String × Node) → Option Node
  | [] => none
  | (other, node) :: rest => if other = name then some node else child? name rest

/-- The entries with the one of a name replaced, or added at the end. -/
def setEntry (name : String) (node : Node) : List (String × Node) → List (String × Node)
  | [] => [(name, node)]
  | (other, old) :: rest =>
    if other = name then (other, node) :: rest else (other, old) :: setEntry name node rest

/-- What stands at a path. -/
def find : Node → Path → Except StorageFault Node
  | node, [] => .ok node
  | file _, _ :: _ => .error .notDirectory
  | directory entries, name :: rest =>
    match child? name entries with
    | some child => child.find rest
    | none => .error .missing

/-- Makes a directory, and all that it lies in. -/
def makeDirectories : Node → Path → Except StorageFault Node
  | directory entries, [] => .ok (directory entries)
  | file _, [] => .error .occupied
  | file _, _ :: _ => .error .notDirectory
  | directory entries, name :: rest => do
    let child ← ((child? name entries).getD (directory [])).makeDirectories rest
    return directory (setEntry name child entries)

/-- Writes a file, in a directory that is there. -/
def writeFile (bytes : ByteArray) : Node → Path → Except StorageFault Node
  | file _, [] => .ok (file bytes)
  | directory _, [] => .error .isDirectory
  | file _, _ :: _ => .error .notDirectory
  | directory entries, name :: rest => do
    let child ←
      match child? name entries, rest with
      | some child, _ => writeFile bytes child rest
      | none, [] => .ok (file bytes)
      | none, _ :: _ => .error .missing
    return directory (setEntry name child entries)

/-- Reads a file as text. -/
def readText (node : Node) (path : Path) : Except StorageFault String := do
  match ← node.find path with
  | directory _ => .error .isDirectory
  | file bytes =>
    match String.fromUTF8? bytes with
    | some text => .ok text
    | none => .error .notText

end Node

end ForumQuery
