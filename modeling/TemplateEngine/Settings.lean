import TemplateEngine.Documents
import TemplateEngine.Engine.Basic

/-!
# Settings of an engine

The settings of an engine come from a document, put over defaults. Relative directories in it
belong to the directory of the document. What surrounds a program can name a document to use if
none is given, and a default directory that takes the place of the one in the document; that one
belongs to the working directory.

## Main definitions

* `Surroundings`: files, documents, home directories and what else is given from outside.
* `Settings`: the settings of an engine.
* `Settings.ofEntries`: the settings that a mapping holds.
* `Settings.load`: the settings from a document.
-/

namespace TemplateEngine

/-- What surrounds a program. -/
structure Surroundings where
  files : FileTree := {}
  documents : Documents := {}
  /-- The home directory of a user, if it is known; without a name it is that of the current one. -/
  home : String → Option String := fun _ => none
  /-- The document of settings to use if none is given. -/
  configuration : Option Path := none
  /-- The default directory that takes the place of the one in the settings. -/
  templates : Option Path := none

instance : Inhabited Surroundings := ⟨{}⟩

/-- The working directory. -/
def Surroundings.here (w : Surroundings) : Path := ⟨.single, w.files.here⟩

/-- The settings of an engine. The extension, the separator and the data may be any values. -/
structure Settings where
  directory : Option Path := none
  fileExtension : Value := .str defaultExtension
  batchSeparator : Value := .str defaultSeparator
  folders : List Folder := []
  data : Value := .dict []
  /-- What the engine makes no use of. -/
  others : Dictionary Value := []
  deriving Inhabited

namespace Settings

/-! ### What a mapping sets -/

/-- The keys under which settings stand. -/
def keys : List String := ["directory", "file_extension", "batch_separator", "folders", "data"]

/-- What is set if nothing else is. -/
def defaults : Dictionary Value :=
  [("directory", .null), ("file_extension", .str defaultExtension),
    ("batch_separator", .str defaultSeparator), ("folders", .dict []), ("data", .dict [])]

/-- The path that a value names, from a directory on. A leading tilde is a home directory. -/
def pathFrom (home : String → Option String) (base : Path) : Value → Except Fault Path
  | .str s =>
    match (Path.ofText s).expandHome home with
    | some path => .ok (base.join path)
    | none => .error (.plain .runtimeError)
  | _ => .error .wrongType

/-- The folder that a value under a name describes: its path, or a mapping with its path and
whether it falls back. -/
def folderOf (home : String → Option String) (base : Path) (name : String) :
    Value → Except Fault Folder
  | .str s =>
    match pathFrom home base (.str s) with
    | .ok path => .ok ⟨name, path, false⟩
    | .error fault => .error fault
  | .dict entries =>
    match Dictionary.value? entries "path" with
    | none => .error .missingKey
    | some v =>
      match pathFrom home base v, ((Dictionary.value? entries "fallback").getD .null).truth with
      | .ok path, .ok fallback => .ok ⟨name, path, fallback⟩
      | .error fault, _ => .error fault
      | _, .error fault => .error fault
  | _ => .error .wrongType

/-- The folders that a mapping describes, in its order. -/
def foldersOf (home : String → Option String) (base : Path) :
    List (String × Value) → Except Fault (List Folder)
  | [] => .ok []
  | (name, v) :: rest =>
    match folderOf home base name v, foldersOf home base rest with
    | .ok folder, .ok folders => .ok (folder :: folders)
    | .error fault, _ => .error fault
    | _, .error fault => .error fault

/-- The default directory: the one given from outside, or else the one that is set, if any. -/
def directoryOf (home : String → Option String) (here base : Path) (templates : Option Path)
    (v : Value) : Except Fault (Option Path) :=
  match templates with
  | some path =>
    match path.expandHome home with
    | some path => .ok (some (here.join path))
    | none => .error (.plain .runtimeError)
  | none =>
    match v with
    | .null => .ok none
    | v => (pathFrom home base v).map some

/-- The settings that a mapping holds, whose relative paths belong to a directory. -/
def ofEntries (w : Surroundings) (base : Path) (entries : Dictionary Value) :
    Except Fault Settings :=
  let value (key : String) : Value := (entries.value? key).getD .null
  match directoryOf w.home w.here base w.templates (value "directory") with
  | .error fault => .error fault
  | .ok directory =>
    match value "folders" with
    | .dict described =>
      match foldersOf w.home base described with
      | .error fault => .error fault
      | .ok folders => .ok
        { directory := directory, fileExtension := value "file_extension"
          batchSeparator := value "batch_separator", folders := folders, data := value "data"
          others := entries.filter fun entry => !keys.contains entry.1 }
    | _ => .error .missingAttribute

/-! ### From a document -/

/-- The mapping that a document of settings holds, put over the defaults. -/
def entriesFrom (w : Surroundings) (path : Path) : Except Fault (Dictionary Value) :=
  match w.files.exists? path with
  | .error fault => .error fault
  | .ok false => .error (.configurationMissing path)
  | .ok true =>
    match w.documents.load w.files path with
    | .ok document => w.documents.merge defaults document
    | .error fault => .error fault

/-- A mapping with what its references stand for. -/
def settledEntries (documents : Documents) (entries : Dictionary Value) :
    Except Fault (Dictionary Value) :=
  match documents.settle (.dict entries) with
  | .ok (.dict entries) => .ok entries
  | .ok _ => .error .wrongType
  | .error fault => .error fault

/-- The settings from a document: the given one, or else the one that the surroundings name, or
else none. -/
def load (w : Surroundings) (path : Option Path) : Except Fault Settings :=
  let source := path.or w.configuration
  let entries := match source with
    | some path => entriesFrom w path
    | none => .ok defaults
  match entries with
  | .error fault => .error fault
  | .ok entries =>
    match settledEntries w.documents entries with
    | .error fault => .error fault
    | .ok entries => ofEntries w (source.elim w.here Path.parent) entries

end Settings

end TemplateEngine
