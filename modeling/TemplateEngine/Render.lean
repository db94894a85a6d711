import TemplateEngine.Engine.Basic
import TemplateEngine.Escape

/-!
# Rendering

A render runs the body of a template in a region of its own. If the body declared a layout, the
captured text becomes the content section and the layout is rendered in its place. Whatever
fails, the regions opened in the course of the render are discarded, and the failure is logged.

Renders nest: bodies render other templates, and layouts have layouts. What is done inside of a
body is therefore defined from what nested renders do, and what nested renders do is defined by
the depth to which they may nest. Within that depth there is an outcome; beyond it there is none.

## Main definitions

* `Scene`: the template whose body runs, on a stage.
* `Nested`: what nested renders and nested calls do.
* `perform`: what an operation of a body does.
* `renderWith`: what a render does.
* `nestedAt`: nested renders and calls up to a given depth.
* `Stage.render`: renders a template by name.
-/

namespace TemplateEngine

/-- The template whose body runs, on a stage. -/
structure Scene where
  template : Template
  stage : Stage
  deriving Inhabited

namespace Scene

/-- The sections of the template with the capture of the stage. -/
def canvas (s : Scene) : Canvas := ⟨s.template.store, s.stage.capture⟩

/-- Puts back sections and capture. -/
def setCanvas (s : Scene) (c : Canvas) : Scene :=
  ⟨{ s.template with store := c.store }, { s.stage with capture := c.capture }⟩

/-- Writes a text to the capture. -/
def write (s : Scene) (text : String) : Scene :=
  { s with stage := { s.stage with capture := s.stage.capture.write text } }

/-- Prints a text past the capture. -/
def print (s : Scene) (text : String) : Scene := { s with stage := s.stage.print text }

/-- Notes in the journal how an operation ended. -/
def note (s : Scene) (label : String) (outcome : Except FaultKind Value) : Scene :=
  let entry : JournalEntry :=
    ⟨s.template.name, label, outcome, s.template.store.openName, s.template.store.workingMode,
      s.stage.capture.depth⟩
  { s with stage := { s.stage with journal := s.stage.journal ++ [entry] } }

end Scene

/-- What is left of an evaluation: an outcome and a scene, or nothing if it nests too deep. -/
abbrev Evaluation (α : Type) := Option (Except Fault α × Scene)

/-- What nested renders and nested calls do. -/
structure Nested where
  /-- Renders a template with data merged into its own. -/
  render : Dictionary Value → Scene → Evaluation String
  /-- Runs the program of a called function. -/
  call : Program Value → Scene → Evaluation Value

/-- An evaluation with another form of answer. -/
def Evaluation.answer {α : Type} (f : α → Value) : Evaluation α → Evaluation Value
  | none => none
  | some (outcome, s) => some (outcome.map f, s)

/-- Writes the text of a value; nothing is written for the value that is nothing. -/
def writeValue (v : Value) (s : Scene) : Evaluation Value :=
  if v.isNull then some (.ok .null, s)
  else match v.text with
    | .error fault => some (.error fault, s)
    | .ok text => some (.ok .null, s.write text)

/-- Performs an operation on sections and captured text. -/
def onCanvas (operation : CanvasOperation) (s : Scene) : Evaluation Value :=
  let (outcome, canvas) := operation.perform s.canvas
  some (outcome, s.setCanvas canvas)

/-- Shows a section in place. A default that is no text can only stand where it is not written. -/
def showSection (name : String) (default : Value) (s : Scene) : Evaluation Value :=
  match default with
  | .null => onCanvas (.startSection name none) s
  | .str text => onCanvas (.startSection name (some text)) s
  | _ =>
    if s.template.store.hasSection name && s.template.store.modeOf name ≠ .once then
      some (.error .wrongType, s)
    else onCanvas (.startSection name (some "")) s

/-- Renders another template and hands back the template at hand as it was. -/
def fetchTemplate (nested : Nested) (name : String) (data : Dictionary Value) (s : Scene) :
    Evaluation String :=
  match nested.render data ⟨s.stage.engine.make name, s.stage⟩ with
  | none => none
  | some (outcome, s') => some (outcome, { s with stage := s'.stage })

/-- Calls a registered function. -/
def callFunction (nested : Nested) (name : String) (arguments : List Value)
    (named : Dictionary Value) (s : Scene) : Evaluation Value :=
  match s.stage.engine.functions.fetch name with
  | .error fault => some (.error fault, s)
  | .ok f => nested.call (f.call (some s.template.name) arguments named) s

/-- Applies a function of the host to a value. -/
def applyOutside (f : HostFunction) (v : Value) (s : Scene) : Evaluation Value :=
  some ((f v).1, s.print (f v).2)

/-- Applies the function of a given name to a value: a registered one first, and otherwise one that
the host finds. -/
def applyNamed (nested : Nested) (name : String) (v : Value) (s : Scene) : Evaluation Value :=
  if s.stage.engine.functions.holds name then callFunction nested name [v] [] s
  else match s.stage.host.function? name with
    | none => some (.error (.unknownBatchFunction name), s)
    | some f => applyOutside f v s

/-- Sends a value through functions, one after the other. -/
def throughFunctions (nested : Nested) : List String → Value → Scene → Evaluation Value
  | [], v, s => some (.ok v, s)
  | name :: rest, v, s =>
    match applyNamed nested name v s with
    | none => none
    | some (.error fault, s') => some (.error fault, s')
    | some (.ok v', s') => throughFunctions nested rest v' s'

/-- Sends a value through the functions named in a text. -/
def batch (nested : Nested) (v : Value) (functions : String) (s : Scene) : Evaluation Value :=
  match s.stage.engine.functionNames functions with
  | .error fault => some (.error fault, s)
  | .ok names => throughFunctions nested names v s

/-- Escapes a value, after it was sent through functions if any are named. -/
def escape (nested : Nested) (v : Value) (functions : String) (s : Scene) : Evaluation Value :=
  if functions = "" then some ((escapeValue {} v).map .str, s)
  else match batch nested v functions s with
    | none => none
    | some (.error fault, s') => some (.error fault, s')
    | some (.ok v', s') => some ((escapeValue {} v').map .str, s')

/-- What an operation of a body does, given what nested renders and calls do. -/
def perform (nested : Nested) (operation : Operation) (s : Scene) : Evaluation Value :=
  match operation with
  | .canvas operation => onCanvas operation s
  | .write v => writeValue v s
  | .showSection name default => showSection name default s
  | .data none => some (.ok (.dict s.template.data), s)
  | .data (some given) =>
    let template := s.template.assign given
    some (.ok (.dict template.data), { s with template := template })
  | .layout name data =>
    some (data.map fun _ => .null, { s with template := s.template.declare name data.toOption })
  | .layoutName => some (.ok (.ofText? s.template.layoutName), s)
  | .name => some (.ok (.str s.template.name), s)
  | .fetch name data own =>
    (fetchTemplate nested name (s.template.dataFor data own) s).answer .str
  | .insert name data own =>
    match fetchTemplate nested name (s.template.dataFor data own) s with
    | none => none
    | some (.error fault, s') => some (.error fault, s')
    | some (.ok text, s') => some (.ok .null, s'.write text)
  | .render data => (nested.render data s).answer .str
  | .display =>
    match s.stage.body s.template.name with
    | (.error fault, stage) => some (.error fault, { s with stage := stage })
    | (.ok body, stage) =>
      nested.call (body.bind fun _ => .done .null) { s with stage := stage }
  | .call name arguments named => callFunction nested name arguments named s
  | .hasFunction name => some (.ok (.bool (s.stage.engine.functions.holds name)), s)
  | .batch v functions => batch nested v functions s
  | .escape v functions => escape nested v functions s
  | .exists? => some ((s.stage.templateExists s.template.name).map .bool, s)
  | .path => some ((s.stage.templatePath s.template.name).map fun p => p.elim .null .path, s)
  | .state => some (.ok s.template.state, s)
  | .observe label outcome => some (.ok .null, s.note label outcome)

/-- Runs the body of a template. -/
def display (nested : Nested) (s : Scene) : Evaluation Unit :=
  match s.stage.body s.template.name with
  | (.error fault, stage) => some (.error fault, { s with stage := stage })
  | (.ok body, stage) => body.run (perform nested) { s with stage := stage }

/-- Hands the text of a body to the layout, if one was declared, and renders the layout. -/
def applyLayout (nested : Nested) (content : String) (s : Scene) : Evaluation String :=
  match s.template.layoutName with
  | none => some (.ok content, s)
  | some name =>
    let stage := s.stage.emit (.delegated s.template.name name s.template.store.sections.keys)
    let template := s.template.setContent content
    let layout := (stage.engine.make name).takeSections template
    match nested.render template.layoutData ⟨layout, stage⟩ with
    | none => none
    | some (outcome, s') => some (outcome, ⟨template, s'.stage⟩)

/-- Ends a body: no section may be open, and the region of the body is closed. -/
def finishBody (s : Scene) : Except Fault String × Scene :=
  match s.template.store.openName with
  | some name => (.error (.unclosedSection name), s)
  | none =>
    let (outcome, capture) := s.stage.capture.finish
    (outcome, { s with stage := { s.stage with capture := capture } })

/-- Runs the body of a template in a region of its own, and the layout that it declared. -/
def renderBody (nested : Nested) (s : Scene) : Evaluation String :=
  match display nested { s with stage := s.stage.openRegion } with
  | none => none
  | some (.error fault, s') => some (.error fault, s')
  | some (.ok _, s') =>
    match finishBody s' with
    | (.error fault, s'') => some (.error fault, s'')
    | (.ok content, s'') => applyLayout nested content s''

/-- Cleans up after a failed render: the regions above a given depth are discarded, and the failure
is logged. -/
def abandon (name : String) (depth : Nat) (isNested : Bool) (fault : Fault) (stage : Stage) :
    Stage :=
  (stage.unwind depth).emit (.renderFailed name fault.kind (stage.capture.excess depth) isNested)

/-- Renders a template with data merged into its own. -/
def renderWith (nested : Nested) (data : Dictionary Value) (s : Scene) : Evaluation String :=
  let template := s.template.assign data
  let depth := s.stage.capture.depth
  let isNested := decide (0 < s.stage.engine.activeRenders)
  let stage := (s.stage.emit (.renderStarted template.name depth)).enter
  match renderBody nested ⟨template, stage⟩ with
  | none => none
  | some (.ok text, s') => some (.ok text, { s' with stage := s'.stage.leave })
  | some (.error fault, s') =>
    let stage := abandon template.name depth isNested fault s'.stage
    some (.error fault, { s' with stage := stage.leave })

/-- Nested renders and calls up to a given depth. -/
def nestedAt : Nat → Nested
  | 0 => ⟨fun _ _ => none, fun _ _ => none⟩
  | depth + 1 =>
    { render := renderWith (nestedAt depth)
      call := fun p s => p.run (perform (nestedAt depth)) s }

/-- Runs a program for a template to the end; one that nests too deep fails. -/
def Scene.runProgram (s : Scene) (p : Program Value) : Except Fault Value × Scene :=
  match p.run (perform (nestedAt s.stage.host.nesting)) s with
  | some left => left
  | none => (.error (.plain .recursionError), s)

/-- Renders a template with data merged into its own. -/
def Scene.render (s : Scene) (data : Dictionary Value) : Except Fault String × Scene :=
  match (nestedAt s.stage.host.nesting).render data s with
  | some left => left
  | none => (.error (.plain .recursionError), s)

namespace Stage

/-- A fresh template with data merged into what it starts with. -/
def make (s : Stage) (name : String) (data : Dictionary Value) : Template :=
  (s.engine.make name).assign data

/-- Renders a template by name. -/
def render (s : Stage) (name : String) (data : Dictionary Value) : Except Fault String × Stage :=
  let (outcome, scene) := Scene.render ⟨s.engine.make name, s⟩ data
  (outcome, scene.stage)

end Stage

end TemplateEngine
