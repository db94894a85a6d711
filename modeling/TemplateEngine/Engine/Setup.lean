import TemplateEngine.Engine.Basic

/-!
# Setting up an engine

The ways to build an engine and to change what it knows: directories, folders, data, functions
and bodies. What fails changes nothing.

## Main definitions

* `Engine.create?`: an engine with a directory that must be there.
* `Stage.setDirectory`, `Stage.addFolder`, `Stage.removeFolder`.
* `Stage.addData`, `Stage.registerFunction`, `Stage.dropFunction`, `Stage.registerTemplate`.
-/

namespace TemplateEngine

/-- A directory that must be there; none is always possible. -/
def checkDirectory (files : FileTree) : Option Path → Except Fault (Option Path)
  | none => .ok none
  | some path => do
    if ← files.isDirectory path then pure (some path) else .error (.directoryMissing path)

namespace Engine

/-- An engine with a directory, an extension and a separator. -/
def create? (files : FileTree) (directory : Option Path) (extension separator : Value) :
    Except Fault Engine :=
  (checkDirectory files directory).map fun found =>
    { directory := found, fileExtension := extension, batchSeparator := separator }

/-- Forgets the compiled files. -/
def clearCache (e : Engine) : Engine := { e with cache := [] }

/-- Whether the compiled file of a path is kept. -/
def isCached (e : Engine) (path : Path) : Bool := (e.cached? path).isSome

/-- The data that a template starts with, or the data shared with all. -/
def sharedWith (e : Engine) : Option String → Dictionary Value
  | none => e.sharedData.shared
  | some name => e.sharedData.forTemplate name

end Engine

namespace Stage

/-- A stage with another engine, or the fault of getting there. -/
def withEngine (s : Stage) : Except Fault Engine → Except Fault Unit × Stage
  | .ok engine => (.ok (), { s with engine := engine })
  | .error fault => (.error fault, s)

/-- Sets the default directory. -/
def setDirectory (s : Stage) (directory : Option Path) : Except Fault Unit × Stage :=
  s.withEngine ((checkDirectory s.files directory).map fun found =>
    { s.engine with directory := found })

/-- Adds a folder. -/
def addFolder (s : Stage) (folder : Folder) : Except Fault Unit × Stage :=
  match s.engine.folders.add s.files folder with
  | .error fault => (.error fault, s)
  | .ok folders =>
    (.ok (), { s with engine := { s.engine with folders := folders } }.emit
      (.folderAdded folder.name folder.path folder.fallback))

/-- Removes a folder. -/
def removeFolder (s : Stage) (name : String) : Except Fault Unit × Stage :=
  s.withEngine ((s.engine.folders.remove name).map fun folders =>
    { s.engine with folders := folders })

/-- Adds data for all templates, or for the named ones only. -/
def addData (s : Stage) (data : Dictionary Value) (templates : Option (List String)) : Stage :=
  let shared := match templates with
    | none => s.engine.sharedData.share data
    | some names => s.engine.sharedData.shareWith data names
  { s with engine := { s.engine with sharedData := shared } }

/-- Registers a function. -/
def registerFunction (s : Stage) (name : String) (callback : Option Callback)
    (passTemplate : Bool) : Except Fault Unit × Stage :=
  match s.engine.functions.add name callback passTemplate with
  | .error fault => (.error fault, s)
  | .ok functions =>
    (.ok (), { s with engine := { s.engine with functions := functions } }.emit
      (.functionRegistered name))

/-- Removes a function. -/
def dropFunction (s : Stage) (name : String) : Except Fault Unit × Stage :=
  s.withEngine ((s.engine.functions.remove name).map fun functions =>
    { s.engine with functions := functions })

/-- Registers the body of a template, if it is one. -/
def registerTemplate (s : Stage) (name : String) (body : Option (Program Unit)) :
    Except Fault Unit × Stage :=
  match body with
  | none => (.error (.bodyNotCallable name), s)
  | some body =>
    (.ok (), { s with engine := { s.engine with bodies := s.engine.bodies.put name body } })

end Stage

end TemplateEngine
