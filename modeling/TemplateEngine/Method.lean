import TemplateEngine.Program
import TemplateEngine.Value.Compare

/-!
# Members of a template, by name

File templates and scripts name what they ask of a template and give the arguments by position
or by name. Here the arguments are bound to the parameters of the method, and the call becomes
an operation.

## Main definitions

* `Parameter`, `bindArguments`: parameters, and the binding of arguments to them.
* `Method.parameters?`: the parameters of each method.
* `Method.operation`: the operation of a method with bound arguments.
* `Program.invoke`: the call of a method.
* `Program.attribute?`: an attribute of the template at hand.
-/

namespace TemplateEngine

/-- A parameter, and what it is without an argument. -/
structure Parameter where
  name : String
  default : Option Value := none

/-- Binds arguments to parameters: first those by position, then those by name, then the
defaults. Too many, too few, or an unknown name is a fault. -/
def bindArguments : List Parameter → List Value → Dictionary Value → Except Fault (List Value)
  | [], [], named => if named.isEmpty then .ok [] else .error .wrongType
  | [], _ :: _, _ => .error .wrongType
  | p :: rest, argument :: arguments, named =>
    if named.holds p.name then .error .wrongType
    else (bindArguments rest arguments named).map (argument :: ·)
  | p :: rest, [], named =>
    match named.value? p.name with
    | some argument => (bindArguments rest [] (named.without p.name)).map (argument :: ·)
    | none => match p.default with
      | some argument => (bindArguments rest [] named).map (argument :: ·)
      | none => .error .wrongType

namespace Value

/-- A value as a name. -/
def asName : Value → Except Fault String
  | .str s => .ok s
  | .absent why => .error (.absent why)
  | _ => .error .wrongType

/-- An entry of a dictionary given as a list of two. -/
def asEntry : Value → Except Fault (String × Value)
  | .list [.str key, v] => .ok (key, v)
  | .list [_, _] => .error .wrongType
  | .list _ => .error .wrongValue
  | .str s => match s.toList with
    | [k, v] => .ok (String.singleton k, .str (String.singleton v))
    | _ => .error .wrongValue
  | _ => .error .wrongType

/-- A value as a dictionary: a dictionary, or a list of entries. -/
def asDictionary : Value → Except Fault (Dictionary Value)
  | .dict entries => .ok entries
  | .list items => do
    let entries ← items.mapM asEntry
    pure (Dictionary.overlay [] entries)
  | .str s => if s = "" then .ok [] else .error .wrongValue
  | .absent why => .error (.absent why)
  | _ => .error .wrongType

/-- A value as a dictionary, where nothing and whatever counts as false is an empty one. -/
def asOptionalDictionary (v : Value) : Except Fault (Dictionary Value) := do
  if ← v.truth then v.asDictionary else pure []

/-- A value as a dictionary as well, but a list of entries is none. -/
def asOptionalMapping (v : Value) : Except Fault (Dictionary Value) := do
  if ← v.truth then
    match v with
    | .dict entries => pure entries
    | _ => .error .wrongType
  else pure []

/-- A value as the names of functions; whatever counts as false names none. -/
def asFunctionNames (v : Value) : Except Fault String := do
  if ← v.truth then
    match v with
    | .str s => pure s
    | _ => .error .missingAttribute
  else pure ""

end Value

namespace Method

/-- The parameters of each method. -/
def parameters? : String → Option (List Parameter)
  | "data" => some [⟨"data", some .null⟩]
  | "exists" | "path" | "display" | "stop" | "end" | "stop_section" => some []
  | "render" => some [⟨"data", some .null⟩]
  | "layout" => some [⟨"name", none⟩, ⟨"data", some .null⟩]
  | "fetch" =>
    some [⟨"name", none⟩, ⟨"data", some .null⟩, ⟨"use_template_data", some (.bool true)⟩]
  | "insert" =>
    some [⟨"name", none⟩, ⟨"data", some .null⟩, ⟨"use_template_data", some (.bool false)⟩]
  | "write" | "echo" => some [⟨"value", none⟩]
  | "start" | "push" | "unshift" => some [⟨"name", none⟩]
  | "section" | "start_section" => some [⟨"name", none⟩, ⟨"default", some .null⟩]
  | "batch" => some [⟨"value", none⟩, ⟨"functions", none⟩]
  | "escape" | "e" => some [⟨"value", none⟩, ⟨"functions", some .null⟩]
  | _ => none

/-- The layout that a value names; nothing names none. -/
def layoutNamed : Value → Except Fault (Option String)
  | .null => .ok none
  | v => v.asName.map some

/-- The operation of a method with bound arguments. -/
def operation (method : String) (arguments : List Value) : Except Fault Operation :=
  match method, arguments with
  | "data", [.null] => .ok (.data none)
  | "data", [given] => given.asDictionary.map fun d => .data (some d)
  | "exists", [] => .ok .exists?
  | "path", [] => .ok .path
  | "display", [] => .ok .display
  | "render", [data] => data.asOptionalDictionary.map .render
  | "layout", [name, data] => (layoutNamed name).map fun name => .layout name data.asOptionalMapping
  | "fetch", [name, data, own] => do
    let data ← data.asOptionalDictionary
    let own ← own.truth
    pure (.fetch (← name.asName) data own)
  | "insert", [name, data, own] => do
    let data ← data.asOptionalDictionary
    let own ← own.truth
    pure (.insert (← name.asName) data own)
  | "write", [v] => .ok (.write v)
  | "echo", [v] => .ok (.write v)
  | "start", [name] => name.asName.map fun s => .canvas (.start s)
  | "push", [name] => name.asName.map fun s => .canvas (.push s)
  | "unshift", [name] => name.asName.map fun s => .canvas (.unshift s)
  | "stop", [] => .ok (.canvas .stop)
  | "end", [] => .ok (.canvas .stop)
  | "section", [name, default] => name.asName.map fun s => .canvas (.section s default)
  | "start_section", [name, default] => name.asName.map fun s => .showSection s default
  | "stop_section", [] => .ok (.canvas .stopSection)
  | "batch", [v, functions] => match functions with
    | .str s => .ok (.batch v s)
    | .absent why => .error (.absent why)
    | _ => .error .missingAttribute
  | "escape", [v, functions] => functions.asFunctionNames.map (.escape v)
  | "e", [v, functions] => functions.asFunctionNames.map (.escape v)
  | _, _ => .error .wrongType

/-- The members that everything has, with their kinds. -/
def inherited : List (String × String) :=
  [("__class__", "type"), ("__dict__", "dict"), ("__doc__", "str"), ("__module__", "str"),
    ("__weakref__", "NoneType")] ++
  ["__init__", "__repr__", "__str__", "__getattr__"].map (·, "method") ++
  ["__delattr__", "__eq__", "__ge__", "__getattribute__", "__gt__", "__hash__", "__le__", "__lt__",
    "__ne__", "__setattr__"].map (·, "method-wrapper") ++
  ["__dir__", "__format__", "__getstate__", "__init_subclass__", "__new__", "__reduce__",
    "__reduce_ex__", "__sizeof__", "__subclasshook__"].map (·, "builtin_function_or_method")

/-- The members that are no methods, and the kinds of those that are known by their kind only. -/
def properties : List (String × Option String) :=
  [("name", none), ("layout_name", none), ("_layout_name", none), ("_data", none),
    ("_layout_data", some "dict"), ("engine", some "Engine"), ("capture", some "OutputCapture"),
    ("store", some "SectionStore")] ++ inherited.map fun (name, kind) => (name, some kind)

/-- The names that the call of a function by name has for itself. -/
def callNames : List String := ["self", "name"]

/-- Whether a name is that of a method. -/
def isMethod (name : String) : Bool := name = "call" || (parameters? name).isSome

/-- Whether a name is that of a member, so that it never stands for a registered function. -/
def isMember (name : String) : Bool := isMethod name || (properties.lookup name).isSome

/-- Whether a name is one that attributes never look up among the registered functions. -/
def isHidden (name : String) : Bool := name.toList.head? = some '_'

end Method

namespace Program

/-- Calls a registered function with the name in front of its arguments. -/
def invokeCall (arguments : List Value) (named : Dictionary Value) : Program Value :=
  if named.holds "self" then fail .wrongType
  else match arguments, named.value? "name" with
  | first :: rest, none => (ofExcept first.asName).bind fun name => ask (.call name rest named)
  | [], some first =>
    (ofExcept first.asName).bind fun name => ask (.call name [] (named.without "name"))
  | _, _ => fail .wrongType

/-- Calls a method by name. -/
def invoke (method : String) (arguments : List Value) (named : Dictionary Value) : Program Value :=
  if method = "call" then invokeCall arguments named
  else match Method.parameters? method with
    | none => fail .wrongType
    | some parameters =>
      (ofExcept (bindArguments parameters arguments named)).bind fun bound =>
        (ofExcept (Method.operation method bound)).bind ask

/-- A property of the template at hand. -/
def property (name : String) (kind : Option String) : Program Value :=
  match kind with
  | some kind => done (.object kind)
  | none =>
    if name = "name" then ask .name
    else if name = "_data" then ask (.data none)
    else ask .layoutName

/-- An attribute of the template at hand: a member first, then a registered function. -/
def attribute? (name : String) : Program (Option Value) :=
  if Method.isMethod name then done (some (.method name))
  else match Method.properties.lookup name with
    | some kind => (property name kind).bind fun v => done (some v)
    | none =>
      if Method.isHidden name then done none
      else (ask (.hasFunction name)).bind fun
        | .bool true => done (some (.function name))
        | _ => done none

/-- Calls a registered function. No argument can have a name that the call has for itself. -/
def callFunction (name : String) (arguments : List Value) (named : Dictionary Value) :
    Program Value :=
  if Method.callNames.any named.holds then fail .wrongType else ask (.call name arguments named)

/-- Calls what an attribute gave. -/
def callValue (callee : Value) (arguments : List Value) (named : Dictionary Value) :
    Program Value :=
  match callee with
  | .method name => invoke name arguments named
  | .function name => callFunction name arguments named
  | .absent why => fail (.absent why)
  | _ => fail .wrongType

/-- Calls an attribute of the template at hand. -/
def callAttribute (name : String) (arguments : List Value) (named : Dictionary Value) :
    Program Value :=
  (attribute? name).bind fun
    | some callee => callValue callee arguments named
    | none =>
      if Method.isHidden name then fail .missingAttribute else fail (.functionNotFound name)

end Program

end TemplateEngine
