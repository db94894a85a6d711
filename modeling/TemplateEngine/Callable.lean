import TemplateEngine.Escape
import TemplateEngine.Text.LetterCase
import TemplateEngine.Text.Split
import TemplateEngine.Text.Words
import TemplateEngine.Value.Arithmetic

/-!
# Functions found by name outside of the registered ones

These are some of the functions that a host may have, those of the program itself. A name is read in
two ways. The first reading starts at the built-in functions and follows attributes; on this way a
missing attribute counts as nothing, and the attributes of nothing are looked up in turn. If the
first reading gives nothing, and the name holds a point or a colon, the second one starts at a
library.

## Main definitions

* `Denoted`: what a name can stand for.
* `Denoted.attribute?`: attributes.
* `Denoted.builtinReading`, `Denoted.libraryReading`: the two readings.
* `Denoted.resolve?`: the function that a name stands for.
* `Denoted.apply`, `Denoted.printed`: what a function answers and what it prints.
-/

namespace TemplateEngine

/-- The built-in functions. -/
inductive Builtin where
  | str
  | len
  | int
  | abs
  | bool
  | repr
  | sorted
  | sum
  | max
  | min
  | list
  | reversed
  | print
  deriving DecidableEq, Repr

/-- The functions on texts. -/
inductive TextFunction where
  | upper
  | lower
  | strip
  | title
  | capitalize
  | swapcase
  | isdigit
  deriving DecidableEq, Repr

/-- The libraries. -/
inductive Library where
  | builtins
  | string
  | html
  | os
  | osPath
  deriving DecidableEq, Repr

/-- What a name can stand for. -/
inductive Denoted where
  | nothing
  | builtin (function : Builtin)
  | onText (function : TextFunction)
  /-- Words with capital letters. -/
  | capitalWords
  /-- Escaping for markup. -/
  | escapeMarkup
  /-- The last step of a path. -/
  | baseName
  | library (library : Library)
  /-- The kind of something; the kind of nothing makes nothing. -/
  | kind (ofNothing : Bool)
  /-- A value that is no function. -/
  | constant
  deriving DecidableEq, Repr, Inhabited

namespace TextFunction

/-- The function on texts of a given name. -/
def ofName? : String → Option TextFunction
  | "upper" => some upper
  | "lower" => some lower
  | "strip" => some strip
  | "title" => some title
  | "capitalize" => some capitalize
  | "swapcase" => some swapcase
  | "isdigit" => some isdigit
  | _ => none

/-- Applies a function to a text and further arguments. -/
def apply (function : TextFunction) (text : String) (arguments : List Value) :
    Except Fault Value :=
  match function, arguments with
  | upper, [] => .ok (.str (Text.upperText text))
  | lower, [] => .ok (.str (Text.lowerText text))
  | title, [] => .ok (.str (Text.titleText text))
  | capitalize, [] => .ok (.str (Text.capitalText text))
  | swapcase, [] => .ok (.str (Text.swapText text))
  | isdigit, [] => .ok (.bool (text ≠ "" && text.toList.all Char.isDigit))
  | strip, [] => .ok (.str (Text.strip text))
  | strip, [.null] => .ok (.str (Text.strip text))
  | strip, [.str drops] => .ok (.str (Text.stripOf drops text))
  | _, _ => .error .wrongType

end TextFunction

namespace Builtin

/-- The built-in function of a given name. -/
def ofName? : String → Option Builtin
  | "str" => some str
  | "len" => some len
  | "int" => some int
  | "abs" => some abs
  | "bool" => some bool
  | "repr" => some repr
  | "sorted" => some sorted
  | "sum" => some sum
  | "max" => some max
  | "min" => some min
  | "list" => some list
  | "reversed" => some reversed
  | "print" => some print
  | _ => none

/-- The number that a digit stands for in bases up to thirty-six. -/
def digitValue? (c : Char) : Option Nat :=
  if c.isDigit then some (c.toNat - 48)
  else if c.isLower then some (c.toNat - 87)
  else if c.isUpper then some (c.toNat - 55)
  else none

/-- The number of a run of digits; a single underscore may stand between two digits. The flag
says whether a digit comes right before. -/
def digitsValue? (base : Nat) : Bool → Nat → List Char → Option Nat
  | afterDigit, n, [] => if afterDigit then some n else none
  | afterDigit, n, c :: rest =>
    if c = '_' then (if afterDigit then digitsValue? base false n rest else none)
    else match digitValue? c with
      | some d => if d < base then digitsValue? base true (n * base + d) rest else none
      | none => none

/-- The whole number that a text stands for: digits with an optional sign, blanks around. -/
def wholeNumber? (base : Nat) (text : String) : Option Int :=
  match (Text.strip text).toList with
  | '-' :: digits => (digitsValue? base false 0 digits).map fun n => -(n : Int)
  | '+' :: digits => (digitsValue? base false 0 digits).map fun n => (n : Int)
  | digits => (digitsValue? base false 0 digits).map fun n => (n : Int)

/-- A floating-point number cut to its whole part. -/
def cut (x : Float) : Except Fault Value :=
  match Number.ofFloat x with
  | .notANumber => .error .wrongValue
  | .infinite _ => .error (.plain .arithmeticError)
  | .zero _ => .ok (.int 0)
  | .finite negative value =>
    let n : Int := value.floorAt 0
    .ok (.int (if negative then -n else n))

/-- The whole number of a value. -/
def toWhole : Value → Except Fault Value
  | .bool b => .ok (.int (if b then 1 else 0))
  | .int n => .ok (.int n)
  | .float x => cut x
  | .str s => match wholeNumber? 10 s with
    | some n => .ok (.int n)
    | none => .error .wrongValue
  | .absent why => .error (.absent why)
  | _ => .error .wrongType

/-- The value of the first argument that no other one goes before, in a given order. -/
def best (before : Value → Value → Except Fault Bool) : List Value → Except Fault Value
  | [] => .error .wrongValue
  | first :: rest => rest.foldlM (fun held v => do pure (if ← before v held then v else held)) first

/-- What a function of several arguments, or of the items of a single one, is applied to. -/
def spread : List Value → Except Fault (List Value)
  | [] => .error .wrongType
  | [only] => only.items
  | several => .ok several

/-- Adds the items to a start value; texts are not added up. -/
def addUp (start : Value) (items : List Value) : Except Fault Value :=
  match start with
  | .str _ => .error .wrongType
  | _ => items.foldlM Value.add start

/-- What a built-in function answers. -/
def apply : Builtin → List Value → Except Fault Value
  | str, [] => .ok (.str "")
  | str, [v] => v.text.map .str
  | len, [v] => v.size.map fun n => .int n
  | int, [] => .ok (.int 0)
  | int, [v] => toWhole v
  | int, [.str s, .int base] =>
    if base < 2 ∨ 36 < base then .error .wrongValue
    else match wholeNumber? base.toNat s with
      | some n => .ok (.int n)
      | none => .error .wrongValue
  | abs, [v] => match v.quantity? with
    | some (.whole n) => .ok (.int n.natAbs)
    | some (.binary x) => .ok (.float x.abs)
    | none => .error .wrongType
  | bool, [] => .ok (.bool false)
  | bool, [v] => v.truth.map .bool
  | repr, [v] => .ok (.str v.literal)
  | sorted, [v] => do pure (.list (← Value.sorted (← v.items)))
  | sum, [v] => do addUp (.int 0) (← v.items)
  | sum, [v, start] => do addUp start (← v.items)
  | max, arguments => do best (fun a b => b.less a) (← spread arguments)
  | min, arguments => do best (fun a b => a.less b) (← spread arguments)
  | list, [] => .ok (.list [])
  | list, [v] => v.items.map .list
  | reversed, [.list xs] => .ok (.iterator "list_reverseiterator" xs.reverse)
  | reversed, [.str s] =>
    .ok (.iterator "reversed" (s.toList.reverse.map fun c => .str (String.singleton c)))
  | reversed, [.dict entries] =>
    .ok (.iterator "dict_reversekeyiterator" (entries.reverse.map fun entry => .str entry.1))
  | print, arguments => do
    let _ ← arguments.mapM Value.text
    pure .null
  | _, _ => .error .wrongType

end Builtin

namespace Denoted

/-- The attribute of a given name of something. -/
def attribute? (d : Denoted) (name : String) : Option Denoted :=
  match d with
  | .library .builtins => match name with
    | "True" | "False" | "Ellipsis" => some .constant
    | "None" => some .nothing
    | name => (Builtin.ofName? name).map .builtin
  | .library .string => match name with
    | "capwords" => some .capitalWords
    | "ascii_letters" | "digits" => some .constant
    | _ => none
  | .library .html => if name = "escape" then some .escapeMarkup else none
  | .library .os => if name = "path" then some (.library .osPath) else none
  | .library .osPath => match name with
    | "basename" => some .baseName
    | "sep" => some .constant
    | _ => none
  | .builtin .str => match name with
    | "__doc__" | "__name__" => some .constant
    | "__class__" => some (.kind false)
    | name => (TextFunction.ofName? name).map .onText
  | .nothing => match name with
    | "__doc__" => some .constant
    | "__class__" => some (.kind true)
    | _ => none
  | .constant => match name with
    | "__doc__" => some .constant
    | "__class__" => some (.kind false)
    | _ => none
  | _ => match name with
    | "__doc__" | "__name__" => some .constant
    | "__class__" => some (.kind false)
    | _ => none

/-- The library of a given name. -/
def libraryNamed? : String → Option Library
  | "builtins" => some .builtins
  | "string" => some .string
  | "html" => some .html
  | "os" => some .os
  | "os.path" => some .osPath
  | _ => none

/-- Follows attributes; where one is missing there is nothing. -/
def follow (d : Denoted) : List String → Denoted
  | [] => d
  | name :: rest => follow ((d.attribute? name).getD .nothing) rest

/-- Follows attributes, all of which must be there. -/
def follow? (d : Denoted) : List String → Option Denoted
  | [] => some d
  | name :: rest => match d.attribute? name with
    | some next => follow? next rest
    | none => none

/-- Cuts a text at the first occurrence of a character, if there is one. -/
def cutAt (c : Char) : List Char → List Char × Option (List Char)
  | [] => ([], none)
  | x :: rest =>
    if x = c then ([], some rest)
    else ((x :: (cutAt c rest).1), (cutAt c rest).2)

/-- The reading of a name that starts at the built-in functions. -/
def builtinReading (name : String) : Denoted :=
  let (head, rest) := cutAt '.' name.toList
  let start := ((Denoted.library .builtins).attribute? (String.ofList head)).getD .nothing
  match rest with
  | none => start
  | some rest =>
    if start = .nothing ∨ rest = [] then start
    else start.follow (Text.splitAt "." (String.ofList rest))

/-- Follows the parts of a name from a library, into libraries as long as there are any. -/
def fromLibrary (name : String) : List String → Option Denoted
  | [] => (libraryNamed? name).map .library
  | part :: rest =>
    match libraryNamed? (name ++ "." ++ part) with
    | some _ => fromLibrary (name ++ "." ++ part) rest
    | none => match libraryNamed? name with
      | some found => (Denoted.library found).follow? (part :: rest)
      | none => none

/-- The reading of a name that starts at a library. A colon ends the name of the library; without
one the library is as long as it can be. A line feed at the end of a name with a colon does not
count. -/
def libraryReading (name : String) : Option Denoted :=
  match cutAt ':' name.toList with
  | (before, some after) =>
    let after := if after.getLast? = some '\n' then after.dropLast else after
    match libraryNamed? (String.ofList before) with
    | none => none
    | some found =>
      if after = [] then some (.library found)
      else (Denoted.library found).follow? (Text.splitAt "." (String.ofList after))
  | (_, none) => match Text.splitAt "." name with
    | [] => none
    | first :: rest => fromLibrary first rest

/-- Whether something can be called. -/
def isCallable : Denoted → Bool
  | .nothing | .library _ | .constant => false
  | _ => true

/-- What a name stands for, function or not. -/
def denote (name : String) : Denoted :=
  let first := builtinReading name
  if first = .nothing ∧ (name.toList.contains '.' ∨ name.toList.contains ':') then
    (libraryReading name).getD .nothing
  else first

/-- The function that a name stands for. -/
def resolve? (name : String) : Option Denoted :=
  let found := denote name
  if found.isCallable then some found else none

/-- The words of a text in capital letters, joined by a blank or by the given separator. -/
def capitalised (text : String) : Value → Except Fault Value
  | .null => .ok (.str (String.intercalate " " ((Text.words text).map Text.capitalText)))
  | .str separator =>
    if separator = "" then .error .wrongValue
    else .ok (.str (String.intercalate separator
      ((Text.splitAt separator text).map Text.capitalText)))
  | _ => .error .wrongType

/-- The last step of a path text. -/
def lastStep (text : String) : String :=
  String.ofList ((text.toList.reverse.takeWhile (· ≠ '/')).reverse)

/-- What a function answers. -/
def apply : Denoted → List Value → Except Fault Value
  | .builtin function, arguments => function.apply arguments
  | .onText function, .str text :: arguments => function.apply text arguments
  | .capitalWords, [.str text] => capitalised text .null
  | .capitalWords, [.str text, separator] => capitalised text separator
  | .capitalWords, [_] => .error .missingAttribute
  | .escapeMarkup, [.str text] => .ok (.str (escapeText true text))
  | .escapeMarkup, [.str text, quote] => do pure (.str (escapeText (← quote.truth) text))
  | .escapeMarkup, [_] => .error .missingAttribute
  | .baseName, [.str text] => .ok (.str (lastStep text))
  | .baseName, [.path p] => .ok (.str (lastStep p.text))
  | .kind true, [] => .ok .null
  | _, _ => .error .wrongType

/-- What a function prints when it is applied to a value. -/
def printed : Denoted → Value → String
  | .builtin .print, v => match v.text with
    | .ok text => text ++ "\n"
    | .error _ => ""
  | _, _ => ""

end Denoted

end TemplateEngine
