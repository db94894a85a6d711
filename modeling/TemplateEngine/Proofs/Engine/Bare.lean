import TemplateEngine.Engine.Configuration

/-!
# Stages before anything is rendered

While an engine is built from settings, nothing is captured or written, the files stay as they are,
and the engine has neither bodies nor functions of its own.

## Main definitions

* `Stage.Bare`: what holds until something is rendered or registered.

## Main results

* `Stage.Bare.applySettings`, `Stage.Bare.fromDocument`, `Stage.Bare.setDirectory`: it holds however
  an engine is built, also where building fails.
-/

namespace TemplateEngine

/-- A stage with a given host and files, of which the engine has no bodies, functions or compiled
files, and on which nothing was captured, written or printed. -/
structure Stage.Bare (host : Host) (files : FileTree) (s : Stage) : Prop where
  host_eq : s.host = host
  files_eq : s.files = files
  capture_eq : s.capture = {}
  printed_eq : s.printed = ""
  bodies_eq : s.engine.bodies = []
  functions_eq : s.engine.functions = []
  cache_eq : s.engine.cache = []

namespace Stage.Bare

variable {host : Host} {files : FileTree} {s : Stage}

/-- What is logged does not matter, nor what else the engine knows. -/
theorem withEngine (h : s.Bare host files) (engine : Engine) (log : List Event)
    (hbodies : engine.bodies = []) (hfunctions : engine.functions = [])
    (hcache : engine.cache = []) : Bare host files { s with engine := engine, log := log } :=
  ⟨h.host_eq, h.files_eq, h.capture_eq, h.printed_eq, hbodies, hfunctions, hcache⟩

theorem addFolders (h : s.Bare host files) (folders : List Folder) :
    (s.addFolders folders).2.Bare host files := by
  induction folders generalizing s with
  | nil => exact h
  | cons folder rest ih =>
    unfold Stage.addFolders Stage.addFolder
    cases hadded : s.engine.folders.add s.files folder with
    | error fault => exact h
    | ok folders =>
      exact ih (h.withEngine _ _ h.bodies_eq h.functions_eq h.cache_eq)

theorem addSettingsData (h : s.Bare host files) (v : Value) :
    (s.addSettingsData v).2.Bare host files := by
  unfold Stage.addSettingsData
  split
  · split
    · exact h.withEngine _ _ h.bodies_eq h.functions_eq h.cache_eq
    · exact h
  · exact h
  · exact h

theorem applySettings (h : s.Bare host files) (settings : Settings) :
    (s.applySettings settings).2.Bare host files := by
  unfold Stage.applySettings
  cases hcreated : Engine.create? s.files settings.directory settings.fileExtension
      settings.batchSeparator with
  | error fault => exact h
  | ok engine =>
    have hengine : Bare host files { s with engine := engine } := by
      unfold Engine.create? at hcreated
      cases hchecked : checkDirectory s.files settings.directory with
      | error fault => simp [hchecked, Except.map] at hcreated
      | ok found =>
        simp only [hchecked, Except.map, Except.ok.injEq] at hcreated
        subst hcreated
        exact h.withEngine _ _ rfl rfl rfl
    have hfolders := hengine.addFolders settings.folders
    simp only
    split
    · next hadded => rwa [hadded] at hfolders
    · next hadded =>
      rw [hadded] at hfolders
      exact hfolders.addSettingsData settings.data

theorem fromDocument (h : s.Bare host files) (w : Surroundings) (path : Option Path) :
    (s.fromDocument w path).2.Bare host files := by
  unfold Stage.fromDocument
  split
  · exact h
  · next settings _ =>
    have hsettings := h.applySettings settings
    split
    · next happlied => rwa [happlied] at hsettings
    · next happlied =>
      rw [happlied] at hsettings
      exact hsettings.withEngine _ _ hsettings.bodies_eq hsettings.functions_eq
        hsettings.cache_eq

theorem setDirectory (h : s.Bare host files) (directory : Option Path) :
    (s.setDirectory directory).2.Bare host files := by
  unfold Stage.setDirectory
  cases checkDirectory s.files directory with
  | error fault => exact h
  | ok found => exact h.withEngine _ _ h.bodies_eq h.functions_eq h.cache_eq

end Stage.Bare

end TemplateEngine
