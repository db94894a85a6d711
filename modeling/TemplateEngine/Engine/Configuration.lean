import TemplateEngine.Engine.Setup
import TemplateEngine.Method
import TemplateEngine.Settings

/-!
# Engines from settings

An engine is built from settings step by step: its default directory must be there, its folders
are added in order, and data that counts as false is left out. What was logged before a step
failed stays logged.

## Main definitions

* `Stage.applySettings`: an engine as some settings say.
* `Stage.fromDocument`: an engine as a document of settings says.
-/

namespace TemplateEngine.Stage

/-- Adds folders in order, up to the first one that cannot be added. -/
def addFolders : Stage → List Folder → Except Fault Unit × Stage
  | s, [] => (.ok (), s)
  | s, folder :: rest =>
    match s.addFolder folder with
    | (.ok (), s) => s.addFolders rest
    | (.error fault, s) => (.error fault, s)

/-- Adds a value as data for all templates, unless it counts as false. -/
def addSettingsData (s : Stage) (v : Value) : Except Fault Unit × Stage :=
  match v.truth with
  | .ok true =>
    match v.asDictionary with
    | .ok data => (.ok (), s.addData data none)
    | .error fault => (.error fault, s)
  | .ok false => (.ok (), s)
  | .error fault => (.error fault, s)

/-- Replaces the engine by one as some settings say. -/
def applySettings (s : Stage) (settings : Settings) : Except Fault Unit × Stage :=
  match Engine.create? s.files settings.directory settings.fileExtension
      settings.batchSeparator with
  | .error fault => (.error fault, s)
  | .ok engine =>
    match { s with engine := engine }.addFolders settings.folders with
    | (.error fault, s) => (.error fault, s)
    | (.ok (), s) => s.addSettingsData settings.data

/-- Replaces the engine by one as a document of settings says. -/
def fromDocument (s : Stage) (w : Surroundings) (path : Option Path) :
    Except Fault Unit × Stage :=
  match Settings.load w path with
  | .error fault => (.error fault, s)
  | .ok settings =>
    match s.applySettings settings with
    | (.error fault, s) => (.error fault, s)
    | (.ok (), s) => (.ok (), s.emit (.engineConfigured path))

end TemplateEngine.Stage
