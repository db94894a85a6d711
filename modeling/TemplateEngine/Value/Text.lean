import TemplateEngine.Fault
import TemplateEngine.Decimal.Shortest

/-!
# The text of values

A value has a text, which is what is written to the output, and a literal, which is how it
stands inside a list or a dictionary. The text of a string is the string itself. The text of a
missing value does not exist: its use is a fault. The text of a template is what it renders, which
is more than a value can say, and programs ask for it. Where it is not asked for, a template that
is being rendered has no text, since a render that waits for itself goes on until the limit.

## Main definitions

* `Value.literal`: how a value stands inside another one.
* `Value.text`: what is written.
-/

namespace TemplateEngine

namespace Value

/-- The text of a truth value. -/
def boolText (b : Bool) : String := if b then "True" else "False"

/-- The text of a mode among values. -/
def modeText (m : SectionMode) : String := "SectionMode." ++ m.name

mutual

/-- How a value stands inside a list or a dictionary. -/
def literal : Value → String
  | .null => "None"
  | .bool b => boolText b
  | .int n => toString n
  | .float x => (Number.ofFloat x).text
  | .str s => Text.literal s
  | .list items => "[" ++ listLiteral items ++ "]"
  | .dict entries => "\x7b" ++ entriesLiteral entries ++ "\x7d"
  | .path p => "PosixPath(" ++ Text.literal p.text ++ ")"
  | .mode m => "<" ++ modeText m ++ ": " ++ toString m.number ++ ">"
  | .absent _ => "Undefined"
  | .template name => "<Template " ++ Text.literal name ++ ">"
  | .method name => "<bound method Template." ++ name ++ ">"
  | .function name => "<function " ++ name ++ ">"
  | .textMethod _ name => "<built-in method " ++ name ++ " of str object>"
  | .iterator kind _ => "<" ++ kind ++ " object>"
  | .object kind => "<" ++ kind ++ " object>"

/-- The items of a list, with a comma between two. -/
def listLiteral : List Value → String
  | [] => ""
  | [item] => item.literal
  | item :: rest => item.literal ++ ", " ++ listLiteral rest

/-- The entries of a dictionary, with a comma between two. -/
def entriesLiteral : List (String × Value) → String
  | [] => ""
  | [(key, item)] => Text.literal key ++ ": " ++ item.literal
  | (key, item) :: rest => Text.literal key ++ ": " ++ item.literal ++ ", " ++ entriesLiteral rest

end

/-- What is written for a value. -/
def text : Value → Except Fault String
  | .str s => .ok s
  | .path p => .ok p.text
  | .mode m => .ok (modeText m)
  | .absent why => if why.isStrict then .error (.absent why) else .ok ""
  | .template _ => .error (.plain .recursionError)
  | v => .ok v.literal

end Value

end TemplateEngine
