import JavaSurvey.Analysis.Analyzer
import JavaSurvey.Proofs.FileFrames
import JavaSurvey.Proofs.SettingsDocuments
import JavaSurvey.Proofs.Utf8Text

/-!
# Saved settings

Settings are saved to a file and loaded from it. Saving is refused only if one of
the two numbers in them is no integer of the format; then nothing is changed. What
was saved is loaded as it was, and a document that holds only some fields is loaded
with defaults for the others.

Doubles are printed and read elsewhere. That the one double in settings reads back
from what it is printed as is all that is asked of them here.

## Main results

* `loadSettings_of_read`: loading a file with a given text.
* `ofToml?_of_toToml?`: what is written for settings is read as these settings.
* `savesAndLoads`: saving and loading together.
-/

namespace JavaSurvey.Analysis

open Config (Outline Settings)
open Files (FileError Store)
open Text.Utf8 (encode)

/-! ## Texts in files -/

theorem readText_of_read {files : Store} {path text : String}
    (hread : files.read path = .ok (encode text)) : readText files path = .ok text := by
  simp only [readText, hread, bind, Except.bind, Text.Utf8.decode_encode]

theorem loadSettings_of_read {files : Store} {path text : String} {settings : Settings}
    (hread : files.read path = .ok (encode text))
    (hsettings : Settings.ofToml? text = some settings) :
    loadSettings files path = .ok settings := by
  simp only [loadSettings, readText_of_read hread, Except.mapError, bind, Except.bind,
    hsettings]

section Writing

variable {path text : String} {world : World}

theorem run_writeText_of_ok {files : Store}
    (hwrite : world.files.write path (encode text) = .ok files) :
    (writeText path text).run.run world = (.ok (), { world with files := files }) := by
  show (fromFiles (world.files.write path (encode text)) >>= setFiles).run.run world = _
  rw [hwrite]
  rfl

theorem run_writeText_of_error {error : FileError}
    (hwrite : world.files.write path (encode text) = .error error) :
    (writeText path text).run.run world = (.error (.file error), world) := by
  show (fromFiles (world.files.write path (encode text)) >>= setFiles).run.run world = _
  rw [hwrite]
  rfl

/-- A text that was written is in the file. -/
theorem read_of_writeText {after : World}
    (hcurrent : world.files.HasDirectory world.files.current)
    (hrun : (writeText path text).run.run world = (.ok (), after)) :
    after.files.read path = .ok (encode text) := by
  cases hwrite : world.files.write path (encode text) with
  | error error =>
      rw [run_writeText_of_error hwrite] at hrun
      cases hrun
  | ok files =>
      rw [run_writeText_of_ok hwrite] at hrun
      cases hrun
      exact Store.read_of_write hcurrent hwrite

end Writing

/-! ## Settings in files -/

section Saving

variable {settings : Settings}

theorem run_saveSettings_of_none (htext : settings.toToml? = none) (path : String)
    (world : World) :
    (saveSettings settings path).run.run world = (.error .config, world) := by
  rw [saveSettings, htext]
  rfl

theorem saveSettings_of_some {text : String} (htext : settings.toToml? = some text)
    (path : String) : saveSettings settings path = writeText path text := by
  rw [saveSettings, htext]

/-- What is written for settings is read as these settings. -/
theorem ofToml?_of_toToml? (hdouble : (settings.get .topPercent).Readable) {text : String}
    (htext : settings.toToml? = some text) : Settings.ofToml? text = some settings := by
  rw [Config.toToml?_eq] at htext
  split at htext
  next hfits =>
    cases htext
    have hreadable : ∀ field, (settings.get field).Readable := by
      intro field
      cases field with
      | maxFileSize => exact hfits.1
      | methodThreshold => exact hfits.2
      | topPercent => exact hdouble
      | _ => trivial
    rw [Config.ofToml?_document fun field _ => hreadable field, Config.keep_all]
  next => cases htext

end Saving

/-- What saving and loading do with settings. -/
structure SavesAndLoads (settings : Settings) : Prop where
  /-- There is a text for the settings exactly if both numbers in them are integers
  of the format. -/
  text_iff : settings.toToml?.isSome = true ↔
    settings.parsing.maxFileSize ≤ 2 ^ 63 - 1 ∧ settings.metrics.methodThreshold ≤ 2 ^ 63 - 1
  /-- Where there is none, saving is refused and changes nothing. -/
  refused : settings.toToml? = none → ∀ path world,
    (saveSettings settings path).run.run world = (.error .config, world)
  /-- Where there is one, it is written, and saving fails only as writing does. -/
  written : ∀ text, settings.toToml? = some text → ∀ path (world : World),
    (∀ files, world.files.write path (encode text) = .ok files →
      (saveSettings settings path).run.run world = (.ok (), { world with files := files })) ∧
    ∀ error, world.files.write path (encode text) = .error error →
      (saveSettings settings path).run.run world = (.error (.file error), world)
  /-- A file with this text is loaded as the settings. -/
  loaded : (settings.get .topPercent).Readable →
    ∀ text, settings.toToml? = some text → ∀ files path,
      Store.read files path = .ok (encode text) → loadSettings files path = .ok settings
  /-- Settings that were saved are loaded from the same path. -/
  reloaded : (settings.get .topPercent).Readable →
    ∀ path (world after : World), world.files.HasDirectory world.files.current →
      (saveSettings settings path).run.run world = (.ok (), after) →
      loadSettings after.files path = .ok settings
  /-- A file with some of the fields is loaded as the settings with these fields. -/
  loaded_partly : ∀ outline : Outline,
    (∀ field ∈ outline.fields, (settings.get field).Readable) → ∀ files path,
      Store.read files path = .ok (encode (settings.document outline)) →
      loadSettings files path = .ok (settings.keep outline.fields)

/-- All settings are saved and loaded like this. -/
theorem savesAndLoads (settings : Settings) : SavesAndLoads settings where
  text_iff := by
    rw [Config.toToml?_eq]
    split
    next hfits => simpa using hfits
    next hfits => simpa using hfits
  refused := run_saveSettings_of_none
  written := by
    intro text htext path world
    rw [saveSettings_of_some htext]
    exact ⟨fun files => run_writeText_of_ok, fun error => run_writeText_of_error⟩
  loaded := by
    intro hdouble text htext files path hread
    exact loadSettings_of_read hread (ofToml?_of_toToml? hdouble htext)
  reloaded := by
    intro hdouble path world after hcurrent hrun
    cases htext : settings.toToml? with
    | none =>
        rw [run_saveSettings_of_none htext] at hrun
        cases hrun
    | some text =>
        rw [saveSettings_of_some htext] at hrun
        have hread := read_of_writeText hcurrent hrun
        exact loadSettings_of_read hread (ofToml?_of_toToml? hdouble htext)
  loaded_partly := by
    intro outline hreadable files path hread
    exact loadSettings_of_read hread (Config.ofToml?_document hreadable)

/-- Settings with texts that need escapes, and with the largest number. -/
def awkwardSettings : Settings where
  project := { sourceSubdir := "a\\b \"c\"\n'''\"\"\"", fileMarker := "" }
  parsing := { maxFileSize := 9223372036854775807, failFast := false }
  metrics := { topPercent := 12.5, methodThreshold := 0 }
  graph := { classColor := "\u0007é😀" }

/-- What saving them in an empty directory comes to. -/
def awkwardSave : Except Failure Unit × World :=
  (saveSettings awkwardSettings "javascope.toml").run.run ⟨⟨.directory [], []⟩, "", "", []⟩

/-- They are saved there and loaded again. -/
theorem savesAndLoads_awkward :
    awkwardSave.1 = .ok () ∧
      loadSettings awkwardSave.2.files "javascope.toml" = .ok awkwardSettings := by
  have hdouble : Decimal.read? (Toml.floatText 12.5) = some 12.5 := rfl
  have hsaved : awkwardSave.1 = .ok () := rfl
  have hreloaded := (savesAndLoads awkwardSettings).reloaded hdouble "javascope.toml"
    ⟨⟨.directory [], []⟩, "", "", []⟩ awkwardSave.2 ⟨[], rfl⟩ (Prod.ext hsaved rfl)
  exact ⟨hsaved, hreloaded⟩

end JavaSurvey.Analysis
