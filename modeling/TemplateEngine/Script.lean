import TemplateEngine.Method

/-!
# Scripted bodies

A script is a body given as data: a list of steps that are run in order. A step calls something
of the template by name, with arguments that are values, results of other steps or entries of the
data; or it decides which steps come next. The end of each call is noted in the journal.

## Main definitions

* `Script.Step`, `Script.Argument`: steps and their arguments.
* `Script.canvasOperation?`: the operations on sections and captured text by name.
* `Script.dispatch`: the program of a call.
* `Script.Step.program`, `Script.program`: the programs of a step and of a script.
-/

namespace TemplateEngine.Script

mutual

/-- What a step is called with. -/
inductive Argument where
  | value (v : Value)
  | result (step : Step)
  /-- The entry of the data under a key. -/
  | entry (key : String)
  | list (items : List Argument)
  | dict (entries : List (String × Argument))

/-- A step of a script. -/
inductive Step where
  | call (name : String) (arguments : List Argument)
  /-- Goes on by the result of a step. -/
  | choose (test : Step) (positive negative : List Step)
  /-- Goes on by the entry of the data under a key. -/
  | chooseByEntry (key : String) (positive negative : List Step)
  /-- Goes on with other steps if a fault of some kind ends these. -/
  | attempt (body : List Step) (kind : FaultKind) (handler : List Step)

end

instance : Inhabited Argument := ⟨.value .null⟩

instance : Inhabited Step := ⟨.call "" []⟩

/-- The texts of a dictionary whose values are texts. -/
def textEntries (v : Value) : Except Fault (Dictionary String) :=
  match v with
  | .dict entries => entries.mapM fun
    | (key, .str s) => .ok (key, s)
    | _ => .error .wrongType
  | _ => .error .wrongType

/-- The modes that the values of a dictionary name. -/
def modeEntries (v : Value) : Except Fault (Dictionary SectionMode) :=
  match v with
  | .dict entries => entries.mapM fun
    | (key, .str s) => match SectionMode.ofName? s with
      | some mode => .ok (key, mode)
      | none => .error .missingKey
    | _ => .error .missingKey
  | _ => .error .wrongType

/-- The modes whose numbers are the values of a dictionary. -/
def numberedModeEntries (v : Value) : Except Fault (Dictionary SectionMode) :=
  match v with
  | .dict entries => entries.mapM fun
    | (key, .int n) => match SectionMode.ofNumber? n with
      | some mode => .ok (key, mode)
      | none => .error .wrongValue
    | _ => .error .wrongValue
  | _ => .error .wrongType

/-- A default given as a text, or none. -/
def optionalText : Value → Except Fault (Option String)
  | .null => .ok none
  | .str s => .ok (some s)
  | _ => .error .wrongType

/-- The operation on sections or captured text of a given name, if there is one of that name. -/
def canvasOperation? (name : String) (arguments : List Value) :
    Option (Except Fault CanvasOperation) :=
  match name, arguments with
  | "begin", [] => some (.ok .openRegion)
  | "cap_end", [] => some (.ok .closeRegion)
  | "discard", [] => some (.ok .discard)
  | "unwind", [.int depth] => some (.ok (.unwind depth))
  | "cap_write", [.str text] => some (.ok (.write text))
  | "peek", [] => some (.ok .peek)
  | "depth", [] => some (.ok .depth)
  | "start", [name] => some (name.asName.map .start)
  | "push", [name] => some (name.asName.map .push)
  | "unshift", [name] => some (name.asName.map .unshift)
  | "stop", [] => some (.ok .stop)
  | "end", [] => some (.ok .stop)
  | "section", [name] => some (name.asName.map fun s => .section s .null)
  | "section", [name, default] => some (name.asName.map fun s => .section s default)
  | "start_section", [name] => some (name.asName.map fun s => .startSection s none)
  | "start_section", [name, default] =>
    some (name.asName.bind fun s => (optionalText default).map (.startSection s))
  | "stop_section", [] => some (.ok .stopSection)
  | "has_section", [name] => some (name.asName.map .hasSection)
  | "mode_of", [name] => some (name.asName.map .modeOf)
  | "mode_value", [name] => some (name.asName.map .modeNumber)
  | "is_open", [] => some (.ok .isOpen)
  | "set_content", [.str text] => some (.ok (.setContent text))
  | "adopt", [sections, modes] =>
    some ((textEntries sections).bind fun s => (modeEntries modes).map (.adopt s))
  | "adopt_modes_by_value", [sections, modes] =>
    some ((textEntries sections).bind fun s => (numberedModeEntries modes).map (.adopt s))
  | _, _ => none

/-- Arguments by position and by name, given as a list and a dictionary. -/
def splitArguments : List Value → Except Fault (List Value × Dictionary Value)
  | [] => .ok ([], [])
  | [.null] => .ok ([], [])
  | [.list arguments] => .ok (arguments, [])
  | [.list arguments, .null] => .ok (arguments, [])
  | [.list arguments, .dict named] => .ok (arguments, named)
  | [.null, .dict named] => .ok ([], named)
  | _ => .error .wrongType

/-- The methods that a step calls directly. -/
def directMethods : List String :=
  ["layout", "insert", "fetch", "write", "echo", "start", "push", "unshift", "stop", "end",
    "section", "start_section", "stop_section", "batch", "escape", "e", "data", "exists", "path",
    "render", "display"]

/-- Whether the template at hand has an attribute of a name. -/
def hasAttribute (name : String) : Program Value :=
  (Program.attribute? name).bind fun found => .done (.bool found.isSome)

/-- The program of a call by name. -/
def dispatch (name : String) (arguments : List Value) : Program Value :=
  if directMethods.contains name then Program.invoke name arguments []
  else match name, arguments with
    | "layout_name", [] => Program.ask .layoutName
    | "str", [] => Program.ask (.render [])
    | "repr", [] => (Program.ask .name).bind fun
      | .str s => .done (.str (Value.template s).literal)
      | _ => .fail .wrongType
    | "state", [] => Program.ask .state
    | "raise", [.str text] => .fail (.raised text)
    | "has", [.str s] => hasAttribute s
    | "call", callee :: rest => (Program.ofExcept (splitArguments rest)).bind fun (given, named) =>
      Program.invoke "call" (callee :: given) named
    | "attr", .str s :: rest => (Program.ofExcept (splitArguments rest)).bind fun (given, named) =>
      Program.callAttribute s given named
    | name, arguments => match canvasOperation? name arguments with
      | some (.ok operation) => Program.ask (.canvas operation)
      | some (.error fault) => .fail fault
      | none => .fail .wrongType

/-- Notes how a program ended, and ends in the same way. -/
def observed (label : String) (p : Program Value) : Program Value :=
  p.outcome.bind fun outcome =>
    (Program.tell (.observe label (outcome.mapError Fault.kind))).bind fun _ =>
      Program.ofExcept outcome

/-- An entry of the data under a key. -/
def entryOf (key : String) : Program (Option Value) :=
  (Program.ask (.data none)).bind fun
    | .dict entries => .done (Dictionary.value? entries key)
    | _ => .done none

/-- Runs a program and, if a fault of some kind ends it, another one. -/
def attempting (kind : FaultKind) (handler p : Program Unit) : Program Unit :=
  p.rescue fun fault => if fault.isA kind then handler else .fail fault

mutual

/-- The value of an argument. -/
def Argument.program : Argument → Program Value
  | .value v => .done v
  | .result step => step.program
  | .entry key => (entryOf key).bind fun
    | some v => .done v
    | none => .fail .missingKey
  | .list items => (argumentPrograms items).bind fun values => .done (.list values)
  | .dict entries => (entryPrograms entries).bind fun d => .done (.dict d)

/-- The values of arguments, one after the other. -/
def argumentPrograms : List Argument → Program (List Value)
  | [] => .done []
  | a :: rest => a.program.bind fun v =>
    (argumentPrograms rest).bind fun values => .done (v :: values)

/-- The values of the entries of a dictionary, one after the other. -/
def entryPrograms : List (String × Argument) → Program (Dictionary Value)
  | [] => .done []
  | (key, a) :: rest => a.program.bind fun v =>
    (entryPrograms rest).bind fun entries => .done ((key, v) :: entries)

/-- The program of a step. -/
def Step.program : Step → Program Value
  | .call name arguments => observed name ((argumentPrograms arguments).bind (dispatch name))
  | .choose test positive negative => test.program.bind fun v =>
    (Program.ofExcept v.truth).bind fun
      | true => (stepPrograms positive).bind fun _ => .done .null
      | false => (stepPrograms negative).bind fun _ => .done .null
  | .chooseByEntry key positive negative => (entryOf key).bind fun found =>
    (Program.ofExcept ((found.getD .null).truth)).bind fun
      | true => (stepPrograms positive).bind fun _ => .done .null
      | false => (stepPrograms negative).bind fun _ => .done .null
  | .attempt body kind handler =>
    (attempting kind (stepPrograms handler) (stepPrograms body)).bind fun _ => .done .null

/-- The program of steps in order. -/
def stepPrograms : List Step → Program Unit
  | [] => .done ()
  | step :: rest => step.program.bind fun _ => stepPrograms rest

end

/-- The program of a script. -/
def program (steps : List Step) : Program Unit := stepPrograms steps

end TemplateEngine.Script
