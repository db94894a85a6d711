import TemplateEngine.Event
import TemplateEngine.FileTree

/-!
# Where logged events go

Events are silent until logging is set up. Then they go to the console from a given level on,
and to a file, if there is one, from the level for details on. Setting up logging replaces what
was set up before and records how the session was started.

## Main definitions

* `Provenance`: how a session was started.
* `Log`: where events go, and what the console shows.
* `Log.deliver`: sends events on.
* `Log.setup`: sets up logging.
-/

namespace TemplateEngine

/-- How a session was started. -/
structure Provenance where
  command : String := ""
  workingDirectory : String := ""
  /-- The version of the language that the engine runs in. -/
  language : String := ""
  /-- The version of the file template format. -/
  format : String := ""
  deriving Repr, Inhabited

namespace Provenance

/-- What is recorded about a session, by key. -/
def entries (p : Provenance) : Dictionary String :=
  [("Command", p.command), ("Working directory", p.workingDirectory), ("Python", p.language),
    ("vellum", "0.1.0"), ("Jinja2", p.format)]

/-- The lines that are recorded, with further entries. -/
def lines (p : Provenance) (extra : Dictionary String) : List String :=
  let rule := String.ofList (List.replicate 60 '-')
  [rule] ++ (p.entries.overlay extra).map (fun (key, value) => s!"{key}: {value}") ++ [rule]

end Provenance

/-- Where events go, and what the console shows. -/
structure Log where
  /-- The time that lines begin with. -/
  stamp : String := ""
  enabled : Bool := false
  file : Option Path := none
  /-- The least rank that the console shows; none if there is no console. -/
  console : Option Nat := none
  shown : List String := []
  deriving Repr, Inhabited

namespace Log

/-- The line of an event. -/
def line (l : Log) (event : Event) : String :=
  let level := event.level.name
  let padding := String.ofList (List.replicate (7 - level.length) ' ')
  s!"{l.stamp} | {level}{padding} | {event.message}"

/-- Whether the console shows an event. -/
def shows (l : Log) (event : Event) : Bool :=
  match l.console with
  | none => false
  | some rank => rank ≤ event.level.rank

/-- Whether the file records an event. -/
def records (event : Event) : Bool := LogLevel.debug.rank ≤ event.level.rank

/-- Sends events on. A file that cannot be written is left as it is. -/
def deliver (l : Log) (files : FileTree) (events : List Event) : Log × FileTree :=
  if l.enabled then
    let text := String.join ((events.filter records).map fun event => l.line event ++ "\n")
    let files := match l.file with
      | none => files
      | some path => (files.appendText path text).toOption.getD files
    ({ l with shown := l.shown ++ (events.filter l.shows).map l.line }, files)
  else (l, files)

/-- The rank that a value stands for: the name of a level, or a rank. -/
def rankOf : Value → Except Fault Nat
  | .str name => match LogLevel.ofName? name with
    | some level => .ok level.rank
    | none => .error .wrongValue
  | .int n => if n < 0 then .error .wrongValue else .ok n.toNat
  | _ => .error .wrongType

/-- The file for a context in a directory, which is made. -/
def openFile (files : FileTree) (directory : Path) (context : String) :
    Except Fault (Path × FileTree) := do
  let files ← files.makeDirectories directory
  let path := directory.joinText (context ++ ".log")
  pure (path, ← files.appendText path "")

/-- Sets up logging and records how the session was started. The answer is the file, if there is
one. -/
def setup (l : Log) (files : FileTree) (p : Provenance) (context : String)
    (directory : Option Path) (extra : Dictionary String) (consoleLevel : Value) :
    Except Fault (Option Path) × Log × FileTree :=
  let l := { l with enabled := true, file := none, console := none }
  let opened : Except Fault (Option Path × FileTree) := match directory with
    | none => .ok (none, files)
    | some directory => (openFile files directory context).map fun (path, files) =>
      (some path, files)
  match opened with
  | .error fault => (.error fault, l, files)
  | .ok (file, files) =>
    let l := { l with file := file }
    match rankOf consoleLevel with
    | .error fault => (.error fault, l, files)
    | .ok rank =>
      let l := { l with console := some rank }
      let (l, files) := l.deliver files ((p.lines extra).map .session)
      (.ok file, l, files)

/-- Sets up logging for the engine; the default directory is recorded as well. -/
def setupEngine (l : Log) (files : FileTree) (p : Provenance) (logDirectory : Option Path)
    (directory : Option Path) : Except Fault (Option Path) × Log × FileTree :=
  l.setup files p "template" logDirectory
    [("Template directory", directory.elim "None" Path.text)] (.str "INFO")

end Log

end TemplateEngine
