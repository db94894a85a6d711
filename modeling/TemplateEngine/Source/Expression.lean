import TemplateEngine.Value

/-!
# Expressions and statements of a file template

## Main definitions

* `Expression`: what can stand in an output mark.
* `Statement`: the parts of a file template.
* `Expression.isKnown`, `Statement.isKnown`: whether every filter and test that is named on a path
  that is surely compiled exists.
* `Statement.assigns`, `Statement.sparesLoop`: which names are assigned to, and whether no loop
  assigns to the name under which it tells its progress.
-/

namespace TemplateEngine.Source

/-- The operators on two numbers, texts or lists. -/
inductive BinaryOperator where
  | add
  | subtract
  | multiply
  | floorDivide
  | modulo
  deriving DecidableEq, Repr, Inhabited

/-- The comparisons. -/
inductive Comparison where
  | equal
  | unequal
  | less
  | lessOrEqual
  | greater
  | greaterOrEqual
  | isIn
  | isNotIn
  deriving DecidableEq, Repr, Inhabited

/-- What can stand in an output mark. -/
inductive Expression where
  | variable (name : String)
  | constant (value : Value)
  | list (items : List Expression)
  | dict (entries : List (Expression × Expression))
  | attribute (owner : Expression) (name : String)
  | item (owner key : Expression)
  | call (callee : Expression) (arguments : List Expression) (named : List (String × Expression))
  | filter (subject : Expression) (name : String) (arguments : List Expression)
      (named : List (String × Expression))
  | test (subject : Expression) (name : String) (arguments : List Expression)
  | negation (subject : Expression)
  | minus (subject : Expression)
  | plus (subject : Expression)
  | both (left right : Expression)
  | either (left right : Expression)
  | binary (operator : BinaryOperator) (left right : Expression)
  | concat (parts : List Expression)
  | compare (first : Expression) (rest : List (Comparison × Expression))
  /-- A choice; the line is that of the choice. -/
  | choice (condition positive : Expression) (negative : Option Expression) (line : Nat)
  deriving Inhabited

/-- The parts of a file template. -/
inductive Statement where
  | text (s : String)
  | output (e : Expression)
  | evaluate (e : Expression)
  | assign (name : String) (e : Expression)
  | branch (condition : Expression) (positive negative : List Statement)
  | loop (name : String) (source : Expression) (body otherwise : List Statement)
  deriving Inhabited

/-- The filters. -/
def filterNames : List String := ["default", "d", "upper", "lower", "length", "count", "join"]

/-- The tests. -/
def testNames : List String := ["defined", "undefined", "none"]

mutual

/-- Whether every filter and test that is surely compiled exists. What stands inside a choice is
looked up only when it is reached. -/
def Expression.isKnown : Expression → Bool
  | .variable _ => true
  | .constant _ => true
  | .list items => areKnown items
  | .dict entries => entriesKnown entries
  | .attribute owner _ => owner.isKnown
  | .item owner key => owner.isKnown && key.isKnown
  | .call callee arguments named => callee.isKnown && areKnown arguments && namedKnown named
  | .filter subject name arguments named =>
    filterNames.contains name && subject.isKnown && areKnown arguments && namedKnown named
  | .test subject name arguments =>
    testNames.contains name && subject.isKnown && areKnown arguments
  | .negation subject => subject.isKnown
  | .minus subject => subject.isKnown
  | .plus subject => subject.isKnown
  | .both left right => left.isKnown && right.isKnown
  | .either left right => left.isKnown && right.isKnown
  | .binary _ left right => left.isKnown && right.isKnown
  | .concat parts => areKnown parts
  | .compare first rest => first.isKnown && operandsKnown rest
  | .choice _ _ _ _ => true

/-- Whether every filter and test in a list of expressions exists. -/
def areKnown : List Expression → Bool
  | [] => true
  | e :: rest => e.isKnown && areKnown rest

/-- Whether every filter and test in the entries of a dictionary exists. -/
def entriesKnown : List (Expression × Expression) → Bool
  | [] => true
  | (key, value) :: rest => key.isKnown && value.isKnown && entriesKnown rest

/-- Whether every filter and test in named arguments exists. -/
def namedKnown : List (String × Expression) → Bool
  | [] => true
  | (_, e) :: rest => e.isKnown && namedKnown rest

/-- Whether every filter and test in the operands of comparisons exists. -/
def operandsKnown : List (Comparison × Expression) → Bool
  | [] => true
  | (_, e) :: rest => e.isKnown && operandsKnown rest

end

mutual

/-- Whether every filter and test that is surely compiled exists. The condition and the parts of a
branch are looked up only when they are reached, apart from loops inside of them. -/
def Statement.isKnown (conditional : Bool) : Statement → Bool
  | .text _ => true
  | .output e => conditional || e.isKnown
  | .evaluate e => conditional || e.isKnown
  | .assign _ e => conditional || e.isKnown
  | .branch _ positive negative => allKnown true positive && allKnown true negative
  | .loop _ source body otherwise =>
    (conditional || source.isKnown) && allKnown false body && allKnown false otherwise

/-- Whether every filter and test in a list of statements that is surely compiled exists. -/
def allKnown (conditional : Bool) : List Statement → Bool
  | [] => true
  | s :: rest => s.isKnown conditional && allKnown conditional rest

end

mutual

/-- Whether a statement, or one inside of it, assigns to a name. -/
def Statement.assigns (name : String) : Statement → Bool
  | .assign target _ => target = name
  | .branch _ positive negative => anyAssigns name positive || anyAssigns name negative
  | .loop target _ body otherwise =>
    target = name || anyAssigns name body || anyAssigns name otherwise
  | _ => false

/-- Whether one of several statements assigns to a name. -/
def anyAssigns (name : String) : List Statement → Bool
  | [] => false
  | s :: rest => s.assigns name || anyAssigns name rest

end

/-- The name under which a loop tells its progress. -/
def loopName : String := "loop"

mutual

/-- Whether no loop in a statement assigns to the name under which it tells its progress. -/
def Statement.sparesLoop : Statement → Bool
  | .branch _ positive negative => allSpareLoop positive && allSpareLoop negative
  | .loop target _ body otherwise =>
    target ≠ loopName && !anyAssigns loopName body && !anyAssigns loopName otherwise
  | _ => true

/-- Whether no loop in a list of statements assigns to the name under which it tells its
progress. -/
def allSpareLoop : List Statement → Bool
  | [] => true
  | s :: rest => s.sparesLoop && allSpareLoop rest

end

end TemplateEngine.Source
