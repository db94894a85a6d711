import TemplateEngine.Fault

/-!
# Events that are logged

## Main definitions

* `LogLevel`: how much an event matters.
* `Event`: what is logged.
* `Event.level`, `Event.message`.
-/

namespace TemplateEngine

/-- How much an event matters. -/
inductive LogLevel where
  | trace
  | debug
  | info
  | success
  | warning
  | error
  | critical
  deriving DecidableEq, Repr, Inhabited

namespace LogLevel

/-- The name of a level. -/
def name : LogLevel → String
  | trace => "TRACE"
  | debug => "DEBUG"
  | info => "INFO"
  | success => "SUCCESS"
  | warning => "WARNING"
  | error => "ERROR"
  | critical => "CRITICAL"

/-- The rank of a level. -/
def rank : LogLevel → Nat
  | trace => 5
  | debug => 10
  | info => 20
  | success => 25
  | warning => 30
  | error => 40
  | critical => 50

/-- The level of a given name. -/
def ofName? (name : String) : Option LogLevel :=
  [trace, debug, info, success, warning, error, critical].find? (·.name = name)

end LogLevel

/-- What is logged. -/
inductive Event where
  /-- A render starts at a capture depth. -/
  | renderStarted (name : String) (depth : Nat)
  /-- A rendered body is handed to a layout. -/
  | delegated (name layout : String) (sections : List String)
  /-- A render failed, and some regions were discarded. The flag tells whether another render was
  in progress. -/
  | renderFailed (name : String) (kind : FaultKind) (discarded : Nat) (nested : Bool)
  | fileCompiled (path : Path)
  | folderAdded (name : String) (directory : Path) (fallback : Bool)
  | functionRegistered (name : String)
  /-- An engine was built from settings, which came from a file if a path is given. -/
  | engineConfigured (source : Option Path)
  /-- A line about the session. -/
  | session (text : String)
  deriving DecidableEq, Repr, Inhabited

namespace Event

/-- How much an event matters. A failed render is a warning unless another render goes on. -/
def level : Event → LogLevel
  | renderFailed _ _ _ nested => if nested then .debug else .warning
  | engineConfigured _ => .info
  | _ => .debug

/-- The names of sections in ascending order, or a word for none. -/
def sectionList (sections : List String) : String :=
  let joined := String.intercalate ", " (sections.mergeSort fun a b => !(b < a))
  if joined = "" then "none" else joined

/-- The text of an event. -/
def message : Event → String
  | renderStarted name depth => s!"[render] Rendering '{name}' (capture depth {depth})"
  | delegated name layout sections =>
    s!"[render] '{name}' delegates to layout '{layout}' (sections: {sectionList sections})"
  | renderFailed name kind discarded _ =>
    s!"[render] Render of '{name}' failed with {kind.name}; discarded {discarded} capture region(s)"
  | fileCompiled path => s!"[template] Compiled template file {path.text}"
  | folderAdded name directory fallback =>
    let flag := if fallback then "True" else "False"
    s!"[template] Added folder '{name}' -> {directory.text} (fallback={flag})"
  | functionRegistered name => s!"[template] Registered function '{name}'"
  | engineConfigured source =>
    "[template] Engine configured from " ++ source.elim "defaults" Path.text
  | session text => text

end Event

end TemplateEngine
