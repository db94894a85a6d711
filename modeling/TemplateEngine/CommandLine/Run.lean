import TemplateEngine.CommandLine.Request
import TemplateEngine.Engine.Configuration
import TemplateEngine.Log
import TemplateEngine.Render

/-!
# Running a command line

A command writes to the standard output only when everything before has succeeded; what functions of
the host print meanwhile has gone there already. Faults that belong to the user are reported as one
line; any other fault is left to the caller. What a command writes is stripped, of whatever only a
terminal makes sense of, unless it goes to a terminal or into a file.

## Main definitions

* `Session`: what a run has at hand.
* `Outcome`: what a run leaves behind.
* `loadData`: the data for a template.
* `renderRequest`, `existsRequest`, `pathRequest`: the commands.
* `run`: runs a command line.
-/

namespace TemplateEngine.CommandLine

/-- What a run has at hand: its surroundings, how it was started, and what it has written. By
default no command line is understood, and nothing is stripped. -/
structure Session where
  surroundings : Surroundings := {}
  host : Host := {}
  /-- What a command line asks for. -/
  reads : List String → Invocation := fun _ => .misuse
  /-- What is left of a text for what is no terminal. -/
  strip : String → String := id
  log : Log := {}
  provenance : Provenance := {}
  /-- Whether the standard output is a terminal. -/
  terminal : Bool := false
  /-- What was written to the standard output. -/
  output : String := ""
  /-- What was written to the standard error output, apart from log lines. -/
  notice : String := ""

instance : Inhabited Session := ⟨{}⟩

namespace Session

/-- The files of a session. -/
def files (s : Session) : FileTree := s.surroundings.files

/-- A session with other files. -/
def withFiles (s : Session) (files : FileTree) : Session :=
  { s with surroundings := { s.surroundings with files := files } }

/-- What the standard output is sent of a text. -/
def sent (s : Session) (text : String) : String :=
  if s.terminal then text else s.strip text

/-- A session that has written to the standard output. -/
def print (s : Session) (text : String) : Session := { s with output := s.output ++ s.sent text }

/-- A session that has written to the standard error output, which is taken for no terminal. -/
def report (s : Session) (text : String) : Session :=
  { s with notice := s.notice ++ s.strip text }

/-- A session behind a stage: what the stage logged is sent on, and what was written outside all
regions or printed has gone to the standard output as it is. -/
def leaveStage (s : Session) (stage : Stage) : Session :=
  let (log, files) := s.log.deliver s.files stage.log
  { s.withFiles files with log := log, output := s.output ++ stage.written }

end Session

/-- How a run ends. -/
inductive Ending where
  /-- The command is done; the flag tells whether its answer is yes. -/
  | done (yes : Bool)
  | help
  | misuse
  /-- A fault was reported. -/
  | failed (fault : Fault)
  /-- A fault was left to the caller. -/
  | escaped (fault : Fault)
  deriving Inhabited

/-- The exit status of a run. -/
def Ending.status : Ending → Nat
  | .done yes => if yes then 0 else 1
  | .help => 0
  | .misuse => 2
  | .failed _ => 1
  | .escaped _ => 1

/-- What a run leaves behind. -/
structure Outcome where
  ending : Ending
  session : Session
  deriving Inhabited

/-! ### Data -/

/-- The key and the value of a pair, taken apart at its first equals sign. Blanks around the key
do not count. -/
def pair? (s : String) : Option (String × String) :=
  match s.toList.dropWhile (· ≠ '=') with
  | [] => none
  | _ :: value =>
    some (Text.strip (String.ofList (s.toList.takeWhile (· ≠ '='))), String.ofList value)

/-- The keys and values of pairs, if all of them can be taken apart. -/
def pairs? : List String → Option (List (String × Value))
  | [] => some []
  | s :: rest =>
    match pair? s, pairs? rest with
    | some (key, value), some more => some ((key, .str value) :: more)
    | _, _ => none

/-- The data that a file holds. -/
def loadData (w : Surroundings) (path : Path) : Except Fault (Dictionary Value) :=
  match w.files.exists? path with
  | .error fault => .error fault
  | .ok false => .error (.dataFileMissing path)
  | .ok true =>
    match w.documents.load w.files path with
    | .error fault => .error fault
    | .ok document =>
      match w.documents.settle document with
      | .ok (.dict entries) => .ok entries
      | .ok _ => .error (.dataFileShape path)
      | .error fault => .error fault

/-- Whether a fault of loading data is reported. -/
def isDataFault (fault : Fault) : Bool :=
  fault.isA .fileNotFound || fault.isA .valueError || fault.isA .document ||
    fault.isA .documentContent

/-- Whether a fault of an engine is reported. -/
def isEngineFault (fault : Fault) : Bool := fault.isA .templateError || fault.isA .fileNotFound

/-! ### Engines -/

/-- The stage for a request: an engine from its settings, with its directory in place of theirs. -/
def buildStage (s : Session) (r : Request) : Except Fault Unit × Stage :=
  match Stage.fromDocument { host := s.host, files := s.files } s.surroundings r.settings with
  | (.error fault, stage) => (.error fault, stage)
  | (.ok (), stage) =>
    match r.directory with
    | none => (.ok (), stage)
    | some directory => stage.setDirectory (some directory)

/-- What is done with the stage for a request, and the session behind it. -/
def onStage {α : Type} (s : Session) (r : Request)
    (use : Stage → Except Fault α × Stage) : Except Fault α × Session :=
  match buildStage s r with
  | (.error fault, stage) => (.error fault, s.leaveStage stage)
  | (.ok (), stage) =>
    let (outcome, stage) := use stage
    (outcome, s.leaveStage stage)

/-! ### Commands -/

/-- A run that reports a fault, or leaves it to the caller. -/
def fail (reports : Fault → Bool) (fault : Fault) (s : Session) : Outcome :=
  if reports fault then ⟨.failed fault, s.report ("Error: " ++ fault.message ++ "\n")⟩
  else ⟨.escaped fault, s⟩

/-- Writes a rendered text into a file, whose directory is made, or to the standard output. -/
def deliver (output : Option Path) (text : String) (s : Session) : Outcome :=
  match output with
  | none => ⟨.done true, s.print text⟩
  | some path =>
    match s.files.makeDirectories path.parent with
    | .error fault => ⟨.escaped fault, s⟩
    | .ok files =>
      match files.writeText path text with
      | .error fault => ⟨.escaped fault, s.withFiles files⟩
      | .ok files => ⟨.done true, (s.withFiles files).report ("Wrote " ++ path.text ++ "\n")⟩

/-- Sets up logging if a request asks for it. -/
def startLog (s : Session) (r : Request) : Except Fault Session × Session :=
  match r.logDirectory with
  | none => (.ok s, s)
  | some directory =>
    let (outcome, log, files) :=
      s.log.setupEngine s.files s.provenance (some directory) r.directory
    let s := { s.withFiles files with log := log }
    (outcome.map fun _ => s, s)

/-- Renders a template with the data of a file and of pairs, of which the pairs win. -/
def renderRequest (s : Session) (r : Request) : Outcome :=
  match startLog s r with
  | (.error fault, s) => ⟨.escaped fault, s⟩
  | (.ok s, _) =>
    match pairs? r.data with
    | none => ⟨.misuse, s⟩
    | some pairs =>
      match r.dataFile.elim (.ok []) (loadData s.surroundings) with
      | .error fault => fail isDataFault fault s
      | .ok loaded =>
        match onStage s r fun stage => stage.render r.name (Dictionary.overlay loaded pairs) with
        | (.error fault, s) => fail isEngineFault fault s
        | (.ok text, s) => deliver r.output text s

/-- Tells whether a template can be found. -/
def existsRequest (s : Session) (r : Request) : Outcome :=
  match onStage s r fun stage => (stage.templateExists r.name, stage) with
  | (.error fault, s) => fail isEngineFault fault s
  | (.ok true, s) => ⟨.done true, s.print ("\u2713 " ++ r.name ++ "\n")⟩
  | (.ok false, s) => ⟨.done false, s.print ("\u2717 " ++ r.name ++ " not found\n")⟩

/-- Tells the path of a template, or the first one that was tried. -/
def pathRequest (s : Session) (r : Request) : Outcome :=
  match onStage s r fun stage => (stage.templatePath r.name, stage) with
  | (.error fault, s) => fail isEngineFault fault s
  | (.ok path, s) => ⟨.done true, s.print (path.elim "(in-memory)" Path.text ++ "\n")⟩

/-- Runs what a command line asks for. -/
def runInvocation (s : Session) : Invocation → Outcome
  | .help => ⟨.help, s⟩
  | .misuse => ⟨.misuse, s⟩
  | .run r =>
    match r.command with
    | .render => renderRequest s r
    | .exists => existsRequest s r
    | .path => pathRequest s r

/-- Runs a command line. -/
def run (s : Session) (words : List String) : Outcome := runInvocation s (s.reads words)

/-- What a session has written to the standard error output: the log lines on the console, and
then its notice. -/
def Session.errorOutput (s : Session) : String :=
  String.join (s.log.shown.map fun line => line ++ "\n") ++ s.notice

end TemplateEngine.CommandLine
