import TemplateEngine.Event
import TemplateEngine.Function
import TemplateEngine.Host
import TemplateEngine.SharedData
import TemplateEngine.Template
import TemplateEngine.TemplateName
import TemplateEngine.Text.Words
import TemplateEngine.Value.Compare

/-!
# The template engine

An engine knows where templates are found, what data and functions they share, and the bodies
that were registered or compiled. What happens around it — the host, the capture, the files, the
log — makes up the stage that it plays on.

## Main definitions

* `CompiledFile.body`: the body of a compiled file, which streams the texts of its generator.
* `Engine`: settings, folders, functions, shared data and bodies.
* `Engine.make`: a fresh template.
* `Stage`: an engine with its host, capture, files, log and journal.
* `Stage.resolvePath`: the path of a template.
* `Stage.body`: the body of a template, compiled if it comes from a file.
-/

namespace TemplateEngine

/-- Goes on with what the names in a file stand for, taken when it is asked for. -/
def Program.withContext {α : Type} (next : Dictionary Value → Program α) : Program α :=
  (ask (.data none)).bind fun data => (ask .name).bind fun name =>
    match data, name with
    | .dict entries, .str template => next (contextOf entries template)
    | _, _ => fail .wrongType

/-- A file that was compiled. -/
structure CompiledFile where
  path : Path
  generate : Dictionary Value → Generator Unit
  deriving Inhabited

namespace CompiledFile

/-- The body of a compiled file: each text is written when it is handed out. The names stand for the
data as they are when the body starts. -/
def body (file : CompiledFile) : Program Unit :=
  Program.withContext fun context => (file.generate context).drain

/-- How a compiled file shows itself. -/
def literal (file : CompiledFile) : String := "<JinjaBody " ++ file.path.text ++ ">"

end CompiledFile

/-- The extension that is appended to file names if nothing else is set. -/
def defaultExtension : String := "jinja"

/-- The separator of function names if nothing else is set. -/
def defaultSeparator : String := "|"

/-- Settings, folders, functions, shared data and bodies. The extension and the separator may be
any value that a configuration holds. -/
structure Engine where
  directory : Option Path := none
  fileExtension : Value := .str defaultExtension
  batchSeparator : Value := .str defaultSeparator
  folders : Folders := []
  functions : FunctionTable := []
  sharedData : SharedData := {}
  bodies : Dictionary (Program Unit) := []
  cache : List CompiledFile := []
  /-- The number of renders in progress. -/
  activeRenders : Nat := 0

instance : Inhabited Engine := ⟨{}⟩

namespace Engine

/-- The extension as a text; a value that counts as false is none. -/
def extension? (e : Engine) : Option String :=
  match e.fileExtension.truth, e.fileExtension.text with
  | .ok true, .ok text => some text
  | _, _ => none

/-- Takes a template name apart. -/
def parseName (e : Engine) (name : String) : Except Fault TemplateName :=
  TemplateName.parse name e.folders e.extension?

/-- Whether a body is registered under a name. -/
def isRegistered (e : Engine) (name : String) : Bool := e.bodies.holds name

/-- The compiled file of a path, if it is kept. -/
def cached? (e : Engine) (path : Path) : Option CompiledFile := e.cache.find? (·.path = path)

/-- A fresh template, which starts with the data shared with it. -/
def make (e : Engine) (name : String) : Template :=
  { name := name, data := e.sharedData.forTemplate name }

/-- A render begins. -/
def enter (e : Engine) : Engine := { e with activeRenders := e.activeRenders + 1 }

/-- A render is over. -/
def leave (e : Engine) : Engine := { e with activeRenders := e.activeRenders - 1 }

/-- The pieces of a text between separators. An empty separator splits nothing, and one that is
no text cannot be used. -/
def functionNames (e : Engine) (functions : String) : Except Fault (List String) :=
  match e.batchSeparator with
  | .str separator =>
    if separator = "" then .error .wrongValue else .ok (Text.splitAt separator functions)
  | .null => .ok (Text.words functions)
  | _ => .error .wrongType

end Engine

/-- How an operation of a body ended, and what its template looked like then. -/
structure JournalEntry where
  template : String
  label : String
  outcome : Except FaultKind Value
  openName : Option String
  mode : SectionMode
  depth : Nat
  deriving Inhabited

/-- An engine with its host, capture, files, log and journal. -/
structure Stage where
  host : Host := {}
  engine : Engine := {}
  capture : Capture := {}
  files : FileTree := {}
  log : List Event := []
  journal : List JournalEntry := []
  /-- What functions of the host have printed, past the capture. -/
  printed : String := ""
  deriving Inhabited

namespace Stage

/-- Logs an event. -/
def emit (s : Stage) (event : Event) : Stage := { s with log := s.log ++ [event] }

/-- A text is printed past the capture. -/
def print (s : Stage) (text : String) : Stage := { s with printed := s.printed ++ text }

/-- What has left the program: the text written outside of all regions, and what was printed. -/
def written (s : Stage) : String := s.capture.outside ++ s.printed

@[simp] theorem engine_emit (s : Stage) (event : Event) : (s.emit event).engine = s.engine := rfl

/-- The path of a template; none if its body is registered. -/
def resolvePath (s : Stage) (name : String) : Except Fault (Option Path) :=
  if s.engine.isRegistered name then .ok none
  else match s.engine.parseName name with
    | .error fault => .error fault
    | .ok parsed => (parsed.locate s.engine.directory s.files).map some

/-- Whether a template can be found. A name that cannot be read is a fault. -/
def templateExists (s : Stage) (name : String) : Except Fault Bool :=
  match s.resolvePath name with
  | .ok _ => .ok true
  | .error fault => if fault.isA .templateNotFound then .ok false else .error fault

/-- The path of a template, or the first one that was tried. -/
def templatePath (s : Stage) (name : String) : Except Fault (Option Path) :=
  match s.resolvePath name with
  | .error (.templateNotFound _ tried) => .ok tried.head?
  | .error (.templateWithoutDirectory _) => .ok none
  | outcome => outcome

/-- The compiled file of a path: the one that is kept, or else the file as it is now, which is
kept from now on. -/
def compiledFile (s : Stage) (path : Path) : Except Fault CompiledFile × Stage :=
  match s.engine.cached? path with
  | some file => (.ok file, s)
  | none =>
    match s.files.readText path with
    | .error fault => (.error fault, s)
    | .ok source =>
      match s.host.compile source with
      | .error fault => (.error fault, s)
      | .ok generate =>
        let file : CompiledFile := ⟨path, generate⟩
        let engine := { s.engine with cache := file :: s.engine.cache }
        (.ok file, { s with engine := engine }.emit (.fileCompiled path))

/-- The body of a template: the registered one, or that of its file. -/
def body (s : Stage) (name : String) : Except Fault (Program Unit) × Stage :=
  match s.engine.bodies.value? name with
  | some registered => (.ok registered, s)
  | none =>
    match s.resolvePath name with
    | .error fault => (.error fault, s)
    | .ok none => (.error .wrongType, s)
    | .ok (some path) =>
      match s.compiledFile path with
      | (.error fault, s') => (.error fault, s')
      | (.ok file, s') => (.ok file.body, s')

/-- Opens a region of the capture. -/
def openRegion (s : Stage) : Stage := { s with capture := s.capture.openRegion }

/-- Drops regions of the capture until a given number is left. -/
def unwind (s : Stage) (depth : Nat) : Stage := { s with capture := s.capture.unwind depth }

/-- A render begins. -/
def enter (s : Stage) : Stage := { s with engine := s.engine.enter }

/-- A render is over. -/
def leave (s : Stage) : Stage := { s with engine := s.engine.leave }

/-- A registered body is used whatever the files are. -/
theorem body_of_registered (s : Stage) (name : String) (registered : Program Unit)
    (h : s.engine.bodies.value? name = some registered) :
    s.body name = (.ok registered, s) := by
  simp [body, h]

end Stage

end TemplateEngine
