import TemplateEngine.Dictionary
import TemplateEngine.Path
import TemplateEngine.Section.Mode
import TemplateEngine.Text.Literal

/-!
# Values

The values that templates hold, pass to functions and write.

## Main definitions

* `Absent`: why a value is missing.
* `Value`: the values.
* `Value.typeName`, `Value.description`: what a value is called in answers and in messages.
-/

namespace TemplateEngine

/-- Why a value is missing. -/
inductive Absent where
  /-- No variable of that name. -/
  | variable (name : String)
  /-- The owner, given by its description, has no attribute of that name. -/
  | attribute (owner name : String)
  /-- The owner, given by its description, has no element under a key, given as a literal. -/
  | element (owner key : String)
  /-- A condition on a source line failed and nothing was given for that case. -/
  | otherwise (line : Nat)
  deriving DecidableEq, Repr, Inhabited

namespace Absent

/-- What is said about a missing value. -/
def message : Absent → String
  | .variable name => s!"{Text.literal name} is undefined"
  | .attribute owner name => s!"{Text.literal owner} has no attribute {Text.literal name}"
  | .element owner key => s!"{owner} has no element {key}"
  | .otherwise line =>
    s!"the inline if-expression on line {line} evaluated to false " ++
      "and no else section was defined."

/-- The name of what is missing, if it has one. -/
def name? : Absent → Option String
  | .variable name => some name
  | .attribute _ name => some name
  | .element _ key => some key
  | .otherwise _ => none

/-- Whether use of the missing value is an error. The value of a condition without an
alternative counts as an empty text instead. -/
def isStrict : Absent → Bool
  | .otherwise _ => false
  | _ => true

end Absent

/-- The values that templates hold, pass to functions and write. -/
inductive Value where
  | null
  | bool (b : Bool)
  | int (n : Int)
  | float (x : Float)
  | str (s : String)
  | list (items : List Value)
  | dict (entries : List (String × Value))
  | path (p : Path)
  | mode (m : SectionMode)
  /-- A missing value that was passed along. -/
  | absent (why : Absent)
  /-- The template at hand, with its name. -/
  | template (name : String)
  /-- A method of the template at hand. -/
  | method (name : String)
  /-- A registered function, bound to the template at hand. -/
  | function (name : String)
  /-- A method of a text. -/
  | textMethod (text name : String)
  /-- Items that are handed out one by one, with the name of their kind. -/
  | iterator (kind : String) (items : List Value)
  /-- Anything else, known by the name of its kind only. -/
  | object (kind : String)
  deriving Inhabited

namespace Value

/-- The name of the kind of a value. -/
def typeName : Value → String
  | .null => "NoneType"
  | .bool _ => "bool"
  | .int _ => "int"
  | .float _ => "float"
  | .str _ => "str"
  | .list _ => "list"
  | .dict _ => "dict"
  | .path _ => "PosixPath"
  | .mode _ => "SectionMode"
  | .absent why => if why.isStrict then "StrictUndefined" else "Undefined"
  | .template _ => "Template"
  | .method _ => "method"
  | .function _ => "partial"
  | .textMethod _ _ => "builtin_function_or_method"
  | .iterator kind _ => kind
  | .object kind => kind

/-- How a message describes the owner of something that is missing. -/
def description : Value → String
  | .null => "None"
  | .path _ => "pathlib.PosixPath object"
  | .mode _ => "vellum.contexts.rendering.sections.SectionMode object"
  | .template _ => "vellum.contexts.rendering.template.Template object"
  | .function _ => "functools.partial object"
  | v => v.typeName ++ " object"

/-- A dictionary as a value. -/
def ofDictionary (d : Dictionary Value) : Value := .dict d

/-- A text or nothing as a value. -/
def ofText? : Option String → Value
  | none => .null
  | some s => .str s

/-- Texts as a list value. -/
def ofTexts (texts : List String) : Value := .list (texts.map .str)

/-- Whether nothing was given. -/
def isNull : Value → Bool
  | .null => true
  | _ => false

end Value

end TemplateEngine
