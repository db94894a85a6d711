import TemplateEngine.Callable
import TemplateEngine.Host
import TemplateEngine.Piece
import TemplateEngine.Source.Expression

/-!
# What a file in the common template language does

This is one language that a host may have for its files, the one that the program itself has: a part
of the language that template files are usually written in. The results about engines hold for every
language. Names are looked up among what was assigned, then in the context that the file is given.

## Main definitions

* `Scope`: what names stand for.
* `Expression.meaning`: the program of an expression.
* `Statement.piece`: a statement as a piece of a file.
* `generate`: what the statements of a file hand out.
-/

namespace TemplateEngine.Source

/-- What names stand for: what was assigned, and the data. -/
structure Scope where
  assigned : Dictionary Value := []
  data : Dictionary Value := []

namespace Scope

/-- What a name stands for. -/
def lookup (scope : Scope) (name : String) : Value :=
  match scope.assigned.value? name with
  | some v => v
  | none => (scope.data.value? name).getD (.absent (.variable name))

/-- Assigns a value to a name. -/
def assign (scope : Scope) (name : String) (v : Value) : Scope :=
  { scope with assigned := scope.assigned.put name v }

end Scope

/-- What is missing, if a value has no attribute of a name. -/
def noAttribute (owner : Value) (name : String) : Value :=
  .absent (.attribute owner.description name)

/-- What is missing, if a value has no element under a key. -/
def noElement (owner key : Value) : Value :=
  match key with
  | .str name => noAttribute owner name
  | key => .absent (.element owner.description key.literal)

/-- An attribute of a value that is not a template: a method of a text, or an entry of a
dictionary. -/
def plainAttribute (owner : Value) (name : String) : Value :=
  match owner with
  | .str s => match TextFunction.ofName? name with
    | some _ => .textMethod s name
    | none => noAttribute owner name
  | .dict entries => (Dictionary.value? entries name).getD (noAttribute owner name)
  | owner => noAttribute owner name

/-- An attribute of a value. -/
def attributeOf (owner : Value) (name : String) : Program Value :=
  match owner with
  | .template _ => (Program.attribute? name).bind fun found =>
    .done (found.getD (noAttribute owner name))
  | .absent why => .fail (.absent why)
  | owner => .done (plainAttribute owner name)

/-- The place in a list that a whole number means; a negative one counts from the end. -/
def placeOf? (length : Nat) (n : Int) : Option Nat :=
  if 0 ≤ n then (if n < length then some n.toNat else none)
  else if -n ≤ length then some (n + length).toNat else none

/-- The item of a list at the place that a whole number means. -/
def itemAt? {α : Type} (items : List α) (n : Int) : Option α :=
  (placeOf? items.length n).bind fun place => items[place]?

/-- The element of a value under a key; a text is tried as the name of an attribute as well. -/
def elementOf (owner key : Value) : Program Value :=
  match owner, key with
  | .absent why, _ => .fail (.absent why)
  | .list items, .int n => .done ((itemAt? items n).getD (noElement owner key))
  | .list items, .bool b =>
    .done ((itemAt? items (if b then 1 else 0)).getD (noElement owner key))
  | .str s, .int n =>
    .done (match itemAt? s.toList n with
      | some c => .str (String.singleton c)
      | none => noElement owner key)
  | .dict _, .absent why => .fail (.absent why)
  | owner, .str name => attributeOf owner name
  | owner, key => .done (noElement owner key)

/-- Calls a value. -/
def callResult (callee : Value) (arguments : List Value) (named : Dictionary Value) :
    Program Value :=
  match callee with
  | .textMethod s name =>
    if named.isEmpty then
      match TextFunction.ofName? name with
      | some function => .ofExcept (function.apply s arguments)
      | none => .fail .wrongType
    else .fail .wrongType
  | callee => .callValue callee arguments named

/-- Whether the first of two values bears a relation to the second one. A missing value cannot be
compared. -/
def compareValues (comparison : Comparison) (a b : Value) : Except Fault Bool :=
  match comparison with
  | .isIn => a.isIn b
  | .isNotIn => (a.isIn b).map (!·)
  | .equal => strictly (.ok (a.equal b))
  | .unequal => strictly (.ok (!a.equal b))
  | .less => ordered (a.less b)
  | .lessOrEqual => ordered ((b.less a).map (!·))
  | .greater => ordered (b.less a)
  | .greaterOrEqual => ordered ((a.less b).map (!·))
where
  /-- The outcome, unless a value whose use is a fault is missing. -/
  strictly (outcome : Except Fault Bool) : Except Fault Bool :=
    match a.strictAbsent?, b.strictAbsent? with
    | some why, _ => .error (.absent why)
    | none, some why => .error (.absent why)
    | none, none => outcome
  /-- The outcome, unless any value is missing. -/
  ordered (outcome : Except Fault Bool) : Except Fault Bool :=
    match a, b with
    | .absent why, _ => .error (.absent why)
    | _, .absent why => .error (.absent why)
    | _, _ => outcome

/-- The outcome of an operator on two values. -/
def combine : BinaryOperator → Value → Value → Except Fault Value
  | .add => Value.add
  | .subtract => Value.subtract
  | .multiply => Value.multiply
  | .floorDivide => Value.floorDivide
  | .modulo => Value.modulo

/-- The texts of the items of a value, joined by a separator. -/
def joined (subject separator : Value) : Except Fault Value := do
  let separator ← separator.text
  let items ← subject.items
  pure (.str (String.intercalate separator (← items.mapM Value.text)))

/-- A value, or a default in its place if it is missing, or if it counts as false and that is asked
for. -/
def withDefault (subject default boolean : Value) : Except Fault Value :=
  match subject with
  | .absent _ => .ok default
  | subject => do
    if ← boolean.truth then
      if ← subject.truth then pure subject else pure default
    else pure subject

/-- The outcome of a filter. -/
def applyFilter (name : String) (subject : Value) (arguments : List Value)
    (named : Dictionary Value) : Except Fault Value :=
  match name with
  | "default" | "d" => do
    let bound ← bindArguments [⟨"default_value", some (.str "")⟩, ⟨"boolean", some (.bool false)⟩]
      arguments named
    match bound with
    | [default, boolean] => withDefault subject default boolean
    | _ => .error .wrongType
  | "upper" => do
    let _ ← bindArguments [] arguments named
    pure (.str (Text.upperText (← subject.text)))
  | "lower" => do
    let _ ← bindArguments [] arguments named
    pure (.str (Text.lowerText (← subject.text)))
  | "length" | "count" => do
    let _ ← bindArguments [] arguments named
    pure (.int (← subject.size))
  | "join" => do
    let bound ← bindArguments [⟨"d", some (.str "")⟩] arguments named
    match bound with
    | [separator] => joined subject separator
    | _ => .error .wrongType
  | _ => .error (.plain .templateRuntime)

/-- The outcome of a test. -/
def applyTest (name : String) (subject : Value) (arguments : List Value) : Except Fault Value :=
  match name, arguments with
  | "defined", [] => .ok (.bool (match subject with | .absent _ => false | _ => true))
  | "undefined", [] => .ok (.bool (match subject with | .absent _ => true | _ => false))
  | "none", [] => .ok (.bool subject.isNull)
  | _, _ => .error (if testNames.contains name then .wrongType else .plain .templateRuntime)

/-- The filters that ask for the text of their subject. -/
def textFilters : List String := ["upper", "lower"]

/-- The methods that ask for the text of their arguments. -/
def textMethods : List String := ["write", "echo", "escape", "e"]

/-- What stands for the value of an expression where its text is asked for. For the template under
its own name that is what it renders. -/
def Expression.shown : Expression → Value → Program Value
  | .variable name, .template owner =>
    if name = templateVariable then .ask (.render []) else .done (.template owner)
  | _, v => .done v

/-- Whether a callee asks for the text of its arguments. -/
def Expression.showsArguments : Expression → Bool
  | .attribute _ method => textMethods.contains method
  | _ => false

mutual

/-- The program of an expression. -/
def Expression.meaning (scope : Scope) : Expression → Program Value
  | .variable name => .done (scope.lookup name)
  | .constant v => .done v
  | .list items => (meanings scope false items).bind fun values => .done (.list values)
  | .dict entries => (entryMeanings scope [] entries).bind fun d => .done (.dict d)
  | .attribute owner name => (owner.meaning scope).bind fun v => attributeOf v name
  | .item owner key => (owner.meaning scope).bind fun v =>
    (key.meaning scope).bind fun k => elementOf v k
  | .call callee arguments named => (callee.meaning scope).bind fun f =>
    (meanings scope callee.showsArguments arguments).bind fun values =>
      (namedMeanings scope named).bind fun namedValues => callResult f values namedValues
  | .filter subject name arguments named => (subject.meaning scope).bind fun v =>
    (meanings scope false arguments).bind fun values =>
      (namedMeanings scope named).bind fun namedValues =>
        (if textFilters.contains name then subject.shown v else .done v).bind fun v =>
          .ofExcept (applyFilter name v values namedValues)
  | .test subject name arguments => (subject.meaning scope).bind fun v =>
    (meanings scope false arguments).bind fun values => .ofExcept (applyTest name v values)
  | .negation subject => (subject.meaning scope).bind fun v =>
    .ofExcept (v.truth.map fun b => .bool (!b))
  | .minus subject => (subject.meaning scope).bind fun v => .ofExcept v.negate
  | .plus subject => (subject.meaning scope).bind fun v => .ofExcept (v.negate.bind Value.negate)
  | .both left right => (left.meaning scope).bind fun v =>
    (Program.ofExcept v.truth).bind fun
      | true => right.meaning scope
      | false => .done v
  | .either left right => (left.meaning scope).bind fun v =>
    (Program.ofExcept v.truth).bind fun
      | true => .done v
      | false => right.meaning scope
  | .binary operator left right => (left.meaning scope).bind fun v =>
    (right.meaning scope).bind fun w => .ofExcept (combine operator v w)
  | .concat parts => (meanings scope true parts).bind fun values =>
    .ofExcept ((values.mapM Value.text).map fun texts => .str (String.join texts))
  | .compare first rest => (first.meaning scope).bind fun v => comparisons scope v rest
  | .choice condition positive negative line => (condition.meaning scope).bind fun v =>
    (Program.ofExcept v.truth).bind fun
      | true => positive.meaning scope
      | false => match negative with
        | some negative => negative.meaning scope
        | none => .done (.absent (.otherwise line))

/-- The programs of a list of expressions, one after the other, for what they are or for what they
show. -/
def meanings (scope : Scope) (shown : Bool) : List Expression → Program (List Value)
  | [] => .done []
  | e :: rest => (e.meaning scope).bind fun v =>
    (meanings scope shown rest).bind fun values =>
      (if shown then e.shown v else .done v).bind fun v => .done (v :: values)

/-- The programs of the entries of a dictionary, one after the other. -/
def entryMeanings (scope : Scope) (d : Dictionary Value) :
    List (Expression × Expression) → Program (Dictionary Value)
  | [] => .done d
  | (key, e) :: rest => (key.meaning scope).bind fun k => (e.meaning scope).bind fun v =>
    match k with
    | .str name => entryMeanings scope (d.put name v) rest
    | .absent why => .fail (.absent why)
    | .list _ | .dict _ => .fail .wrongType
    | k => entryMeanings scope (d.put k.literal v) rest

/-- The programs of named arguments, one after the other. -/
def namedMeanings (scope : Scope) : List (String × Expression) → Program (Dictionary Value)
  | [] => .done []
  | (name, e) :: rest => (e.meaning scope).bind fun v =>
    (namedMeanings scope rest).bind fun values => .done ((name, v) :: values)

/-- A chain of comparisons; it ends at the first one that fails. -/
def comparisons (scope : Scope) (left : Value) :
    List (Comparison × Expression) → Program Value
  | [] => .done (.bool true)
  | (comparison, e) :: rest => (e.meaning scope).bind fun right =>
    (Program.ofExcept (compareValues comparison left right)).bind fun
      | true => comparisons scope right rest
      | false => .done (.bool false)

end

/-- What a loop knows about itself. -/
def loopState (index length : Nat) : Value :=
  .dict [("index", .int (index + 1)), ("index0", .int index), ("first", .bool (index = 0)),
    ("last", .bool (index + 1 = length)), ("length", .int length),
    ("revindex", .int ((length : Int) - index)), ("revindex0", .int ((length : Int) - index - 1))]

/-- The scope of a turn of a loop: the item under its name, and what the loop knows about itself. -/
def Scope.turn (scope : Scope) (name : String) (index : Nat) (item : Value) (rest : List Value) :
    Scope :=
  (scope.assign name item).assign loopName (loopState index (index + 1 + rest.length))

mutual

/-- A statement as a piece of a file. -/
def Statement.piece : Statement → Piece Scope
  | .text s => .text s
  | .output e => .output fun scope => (e.meaning scope).bind e.shown
  | .evaluate e => .evaluate fun scope => (e.meaning scope).bind fun _ => .done scope
  | .assign name e => .evaluate fun scope =>
    (e.meaning scope).bind fun v => .done (scope.assign name v)
  | .branch condition positive negative =>
    .branch (fun scope => (condition.meaning scope).bind fun v => .ofExcept v.truth)
      (pieces positive) (pieces negative)
  | .loop name source body otherwise =>
    .loop (fun scope => (source.meaning scope).bind fun v => .ofExcept v.items)
      (fun scope index item rest => .done (some (scope.turn name index item rest)))
      (pieces body) (pieces otherwise)

/-- Statements as pieces of a file. -/
def pieces : List Statement → List (Piece Scope)
  | [] => []
  | s :: rest => s.piece :: pieces rest

end

/-- What statements hand out in a context of names and values. -/
def generate (statements : List Statement) (context : Dictionary Value) : Generator Unit :=
  (Piece.generatorOf (pieces statements) { data := context }).bind fun _ => .done ()

end TemplateEngine.Source
