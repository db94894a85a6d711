import TemplateEngine.Fault
import TemplateEngine.Value.Text

/-!
# Reports of faults built from given arguments

The kinds of fault of the engine can also be built from arguments given by hand. A report holds
the kind, the text and the attributes that the arguments determine. The kinds without a form of
their own take any number of arguments: the text of the only one, or all of them in brackets.

## Main definitions

* `Report`: kind, text and attributes.
* `Report.build`: the report of a kind built from arguments; a fault if their number is wrong.
* `Report.ancestry`: the kinds that a report belongs to, by name and in order.
-/

namespace TemplateEngine

/-- A fault built by hand. -/
structure Report where
  kind : FaultKind
  message : String
  attributes : Dictionary Value := []

namespace Report

/-- The text of arguments that have no form of their own. -/
def freeText : List Value → Except Fault String
  | [] => .ok ""
  | [only] => only.text
  | several => .ok ("(" ++ String.intercalate ", " (several.map Value.literal) ++ ")")

/-- The paths that a list of values names; nothing, or an empty value, names none. -/
def pathsOf : Value → Except Fault (List Path)
  | .null => .ok []
  | .list items => items.mapM fun
    | .str s => .ok (Path.ofText s)
    | .path p => .ok p
    | _ => .error .wrongType
  | _ => .error .wrongType

/-- The report of a template that was not found. -/
def ofNotFound (name tried message : Value) : Except Fault Report := do
  let paths ← pathsOf tried
  let text ← match message with
    | .null => do pure (Fault.notFoundMessage (← name.text) (paths.map Path.text))
    | given => given.text
  pure ⟨.templateNotFound, text, [("name", name), ("paths", .list (paths.map .path))]⟩

/-- The report of a kind built from arguments. -/
def build (kind : FaultKind) (arguments : List Value) : Except Fault Report :=
  match kind, arguments with
  | .reservedName, [] => ofNamed .reservedName "name" Fault.reservedName (.str "content")
  | .reservedName, [name] => ofNamed .reservedName "name" Fault.reservedName name
  | .reservedName, _ => .error .wrongType
  | .nestedSection, [name, openName] => do
    let message := (Fault.nestedSection (← name.text) (← openName.text)).message
    pure ⟨.nestedSection, message, [("name", name), ("open_name", openName)]⟩
  | .nestedSection, _ => .error .wrongType
  | .notOpen, [] => .ok ⟨.notOpen, Fault.notOpen.message, []⟩
  | .notOpen, _ => .error .wrongType
  | .unclosedSection, [name] => ofNamed .unclosedSection "name" Fault.unclosedSection name
  | .unclosedSection, _ => .error .wrongType
  | .unknownBatchFunction, [name] =>
    ofNamed .unknownBatchFunction "function_name" Fault.unknownBatchFunction name
  | .unknownBatchFunction, _ => .error .wrongType
  | .functionNotFound, [name] =>
    ofNamed .functionNotFound "function_name" Fault.functionNotFound name
  | .functionNotFound, _ => .error .wrongType
  | .templateNotFound, [name] => ofNotFound name .null .null
  | .templateNotFound, [name, tried] => ofNotFound name tried .null
  | .templateNotFound, [name, tried, message] => ofNotFound name tried message
  | .templateNotFound, _ => .error .wrongType
  | kind, arguments => do pure ⟨kind, ← freeText arguments, []⟩
where
  /-- A report with one named argument. -/
  ofNamed (kind : FaultKind) (key : String) (cause : String → Fault) (argument : Value) :
      Except Fault Report := do
    pure ⟨kind, (cause (← argument.text)).message, [(key, argument)]⟩

/-- The kinds that a report may be asked about, in the order of their names. -/
def ancestors : List FaultKind :=
  [.attributeError, .capture, .folder, .functionNotFound, .functionRegistration,
    .invalidTemplateName, .keyError, .lookupError, .nestedSection, .notOpen, .reservedName,
    .sectionError, .templateError, .templateNotFound, .unclosedSection, .unknownBatchFunction,
    .valueError]

/-- The kinds that a report belongs to, in the order of their names. -/
def ancestry (report : Report) : List FaultKind := ancestors.filter report.kind.isA

end Report

end TemplateEngine
