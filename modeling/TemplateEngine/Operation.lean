import TemplateEngine.Section.Operation

/-!
# Operations of a template

What a body can ask of the template that it runs for. The operations are data; what they do is
the matter of whoever runs the body.

## Main definitions

* `Operation`: the operations.
-/

namespace TemplateEngine

/-- What a body can ask of its template. -/
inductive Operation where
  /-- An operation on the sections or the captured text. -/
  | canvas (operation : CanvasOperation)
  /-- Writes the text of a value other than a template; nothing is written for the value that is
  nothing. -/
  | write (value : Value)
  /-- Shows a section in place with a default that need not be a text. -/
  | showSection (name : String) (default : Value)
  /-- Merges data into that of the template, if any is given, and answers all of it. -/
  | data (given : Option (Dictionary Value))
  /-- Declares the layout; without a name there is none. Data that cannot be merged is a fault, but
  the name is declared by then. -/
  | layout (name : Option String) (data : Except Fault (Dictionary Value))
  | layoutName
  | name
  /-- Renders another template, on top of the own data if asked to, and answers its text. -/
  | fetch (name : String) (data : Dictionary Value) (withOwnData : Bool)
  /-- Renders another template and writes its text. -/
  | insert (name : String) (data : Dictionary Value) (withOwnData : Bool)
  /-- Renders the template itself. -/
  | render (data : Dictionary Value)
  /-- Runs the body of the template itself. -/
  | display
  /-- Calls a registered function. -/
  | call (name : String) (arguments : List Value) (named : Dictionary Value)
  | hasFunction (name : String)
  /-- Sends a value through the functions named in a text. -/
  | batch (value : Value) (functions : String)
  /-- Escapes a value, after it was sent through functions if any are named. -/
  | escape (value : Value) (functions : String)
  /-- Whether the template can be found. -/
  | exists?
  /-- The path of the template. -/
  | path
  /-- Sections, modes, layout and data as they are. -/
  | state
  /-- Notes in the journal that something ended, and how. -/
  | observe (label : String) (outcome : Except FaultKind Value)
  deriving Inhabited

end TemplateEngine
