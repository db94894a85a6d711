import TemplateEngine.Program

/-!
# Registered functions

Templates call registered functions by name. A function may ask for the calling template, which
then comes as its first argument, and through which it acts.

## Main definitions

* `Callback`: what is registered.
* `TemplateFunction`: a callback, and whether it asks for the template.
* `isFunctionName`: the names that can be registered.
* `FunctionTable.add`, `FunctionTable.remove`, `FunctionTable.names`.
-/

namespace TemplateEngine

/-- What is registered: a program for each choice of arguments by position and by name. -/
abbrev Callback := List Value → Dictionary Value → Program Value

/-- A callback, and whether it asks for the calling template. -/
structure TemplateFunction where
  callback : Callback
  passTemplate : Bool := false

namespace TemplateFunction

/-- The names that the call of a function has for itself. No argument of such a name can be passed
on. -/
def ownNames : List String := ["self", "template"]

/-- What the callback is given by position: the template, if it is asked for, comes first; without
one there is nothing in its place. -/
def positional (f : TemplateFunction) (template : Option String) (arguments : List Value) :
    List Value :=
  if f.passTemplate then template.elim .null .template :: arguments else arguments

/-- Calls a function. -/
def call (f : TemplateFunction) (template : Option String) (arguments : List Value)
    (named : Dictionary Value) : Program Value :=
  if ownNames.any named.holds then .fail .wrongType
  else f.callback (f.positional template arguments) named

end TemplateFunction

/-- Whether a character may stand in the name of a function. -/
def isFunctionChar (c : Char) : Bool := c.isAlphanum || c == '_'

/-- Whether a list of characters is an identifier. -/
def isIdentifier : List Char → Bool
  | [] => false
  | c :: rest => isFunctionChar c && !c.isDigit && rest.all isFunctionChar

/-- A list of characters without a line feed at its end. -/
def dropLineFeed (cs : List Char) : List Char :=
  if cs.getLast? = some '\n' then cs.dropLast else cs

/-- Whether a name can be registered: an identifier, behind which a line feed may stand. -/
def isFunctionName (name : String) : Bool := isIdentifier (dropLineFeed name.toList)

/-- Registered functions by name. -/
abbrev FunctionTable := Dictionary TemplateFunction

namespace FunctionTable

/-- Registers a function. The name must be free and possible, and there must be a callback. -/
def add (table : FunctionTable) (name : String) (callback : Option Callback)
    (passTemplate : Bool) : Except Fault FunctionTable :=
  if table.holds name then .error (.functionNameTaken name)
  else if !isFunctionName name then .error (.functionNameInvalid name)
  else match callback with
    | none => .error (.functionNotCallable name)
    | some callback => .ok (table.put name ⟨callback, passTemplate⟩)

/-- Removes a function. -/
def remove (table : FunctionTable) (name : String) : Except Fault FunctionTable :=
  if table.holds name then .ok (table.without name) else .error (.functionNotFound name)

/-- The function of a given name. -/
def fetch (table : FunctionTable) (name : String) : Except Fault TemplateFunction :=
  match table.value? name with
  | some f => .ok f
  | none => .error (.functionNotFound name)

/-- The names in ascending order. -/
def names (table : FunctionTable) : List String := table.keys.mergeSort fun a b => !(b < a)

end FunctionTable

end TemplateEngine
