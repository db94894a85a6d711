import TemplateEngine.Source.Expression
import TemplateEngine.FileTree
import TemplateEngine.Source.Token

/-!
# From lexemes to statements

Each function reads something from the front of a list of lexemes and hands on the rest. The
first argument bounds the depth of nesting; the bound that is used lies above what a list of
lexemes can hold.

## Main definitions

* `Parse`: reading from the front.
* `readExpression`: an expression.
* `readStatements`: statements up to one of some closing words.
* `compile`: the statements of a file template.
-/

namespace TemplateEngine.Source

/-- Reads something from the front of a list of lexemes. -/
abbrev Parse (α : Type) := StateT (List Lexeme) (Except Fault) α

namespace Parse

/-- The template is malformed. -/
def malformed {α : Type} : Parse α := fun _ => .error .sourceSyntax

/-- The next lexeme, which stays. -/
def peek : Parse (Option Token) := fun lexemes => .ok (lexemes.head?.map (·.token), lexemes)

/-- The line of the next lexeme. -/
def line : Parse Nat := fun lexemes => .ok ((lexemes.head?.map (·.line)).getD 0, lexemes)

/-- Skips the next lexeme. -/
def advance : Parse Unit := fun lexemes => .ok ((), lexemes.drop 1)

/-- Whether a token is a given symbol. -/
def isSymbol (token : Option Token) (s : String) : Bool :=
  match token with
  | some (.symbol t) => t == s
  | _ => false

/-- Whether a token is a given word. -/
def isWord (token : Option Token) (s : String) : Bool :=
  match token with
  | some (.name t) => t == s
  | _ => false

/-- Skips a symbol, if it comes next. -/
def skipSymbol (s : String) : Parse Bool := do
  if isSymbol (← peek) s then advance; pure true else pure false

/-- Skips a word, if it comes next. -/
def skipWord (s : String) : Parse Bool := do
  if isWord (← peek) s then advance; pure true else pure false

/-- Reads a symbol. -/
def expectSymbol (s : String) : Parse Unit := do
  if ← skipSymbol s then pure () else malformed

/-- Reads any word. -/
def expectName : Parse String := do
  match ← peek with
  | some (.name s) => advance; pure s
  | _ => malformed

/-- Reads the end of a block mark. -/
def expectBlockClose : Parse Unit := do
  match ← peek with
  | some .blockClose => advance
  | _ => malformed

/-- Reads the end of an output mark. -/
def expectOutputClose : Parse Unit := do
  match ← peek with
  | some .outputClose => advance
  | _ => malformed

/-- Whether the next two lexemes are a word and an equals sign. -/
def namesArgument : Parse Bool := fun lexemes =>
  match lexemes with
  | ⟨.name _, _⟩ :: ⟨.symbol "=", _⟩ :: _ => .ok (true, lexemes)
  | _ => .ok (false, lexemes)

/-- The comparison that comes next, which is skipped. -/
def comparison? : Parse (Option Comparison) := fun lexemes =>
  match lexemes with
  | ⟨.symbol "==", _⟩ :: rest => .ok (some .equal, rest)
  | ⟨.symbol "!=", _⟩ :: rest => .ok (some .unequal, rest)
  | ⟨.symbol "<", _⟩ :: rest => .ok (some .less, rest)
  | ⟨.symbol "<=", _⟩ :: rest => .ok (some .lessOrEqual, rest)
  | ⟨.symbol ">", _⟩ :: rest => .ok (some .greater, rest)
  | ⟨.symbol ">=", _⟩ :: rest => .ok (some .greaterOrEqual, rest)
  | ⟨.name "in", _⟩ :: rest => .ok (some .isIn, rest)
  | ⟨.name "not", _⟩ :: ⟨.name "in", _⟩ :: rest => .ok (some .isNotIn, rest)
  | _ => .ok (none, lexemes)

/-- The operator of a sum that comes next, which is skipped. -/
def sumOperator? : Parse (Option BinaryOperator) := fun lexemes =>
  match lexemes with
  | ⟨.symbol "+", _⟩ :: rest => .ok (some .add, rest)
  | ⟨.symbol "-", _⟩ :: rest => .ok (some .subtract, rest)
  | _ => .ok (none, lexemes)

/-- The operator of a product that comes next, which is skipped. -/
def productOperator? : Parse (Option BinaryOperator) := fun lexemes =>
  match lexemes with
  | ⟨.symbol "*", _⟩ :: rest => .ok (some .multiply, rest)
  | ⟨.symbol "//", _⟩ :: rest => .ok (some .floorDivide, rest)
  | ⟨.symbol "%", _⟩ :: rest => .ok (some .modulo, rest)
  | _ => .ok (none, lexemes)

/-- The string literals that come next, written together. -/
def strings : Nat → Parse String
  | 0 => pure ""
  | fuel + 1 => do
    match ← peek with
    | some (.string s) => advance; pure (s ++ (← strings fuel))
    | _ => pure ""

/-- Reads the name of a filter or test, which may hold points. -/
def dottedName : Nat → Parse String
  | 0 => malformed
  | fuel + 1 => do
    let first ← expectName
    if ← skipSymbol "." then pure (first ++ "." ++ (← dottedName fuel)) else pure first

end Parse

/-- A word that stands for itself at the beginning of an expression. -/
def wordExpression : String → Expression
  | "true" | "True" => .constant (.bool true)
  | "false" | "False" => .constant (.bool false)
  | "none" | "None" => .constant .null
  | name => .variable name

/-- Whether a token can begin the argument of a test written without brackets. -/
def beginsTestArgument : Option Token → Bool
  | some (.name s) => s ≠ "else" && s ≠ "or" && s ≠ "and"
  | some (.string _) | some (.integer _) | some (.decimal _) => true
  | some (.symbol s) => s = "(" || s = "[" || s = "\x7b"
  | _ => false

open Parse

mutual

/-- Reads an expression. -/
def readExpression : Nat → Parse Expression
  | 0 => malformed
  | fuel + 1 => do readChoice fuel (← readEither fuel)

/-- Reads the condition of a choice, if one comes next, and goes on. -/
def readChoice : Nat → Expression → Parse Expression
  | 0, _ => malformed
  | fuel + 1, positive => do
    let line ← line
    if ← skipWord "if" then
      let condition ← readEither fuel
      if ← skipWord "else" then
        let negative ← readExpression fuel
        readChoice fuel (.choice condition positive (some negative) line)
      else readChoice fuel (.choice condition positive none line)
    else pure positive

/-- Reads alternatives. -/
def readEither : Nat → Parse Expression
  | 0 => malformed
  | fuel + 1 => do moreEither fuel (← readBoth fuel)

/-- Reads further alternatives. -/
def moreEither : Nat → Expression → Parse Expression
  | 0, _ => malformed
  | fuel + 1, left => do
    if ← skipWord "or" then moreEither fuel (.either left (← readBoth fuel)) else pure left

/-- Reads conjuncts. -/
def readBoth : Nat → Parse Expression
  | 0 => malformed
  | fuel + 1 => do moreBoth fuel (← readNegation fuel)

/-- Reads further conjuncts. -/
def moreBoth : Nat → Expression → Parse Expression
  | 0, _ => malformed
  | fuel + 1, left => do
    if ← skipWord "and" then moreBoth fuel (.both left (← readNegation fuel)) else pure left

/-- Reads a negation. -/
def readNegation : Nat → Parse Expression
  | 0 => malformed
  | fuel + 1 => do
    if ← skipWord "not" then pure (.negation (← readNegation fuel)) else readCompare fuel

/-- Reads a chain of comparisons. -/
def readCompare : Nat → Parse Expression
  | 0 => malformed
  | fuel + 1 => do
    let first ← readSum fuel
    match ← moreCompare fuel with
    | [] => pure first
    | rest => pure (.compare first rest)

/-- Reads further comparisons. -/
def moreCompare : Nat → Parse (List (Comparison × Expression))
  | 0 => malformed
  | fuel + 1 => do
    match ← comparison? with
    | some comparison =>
      let operand ← readSum fuel
      pure ((comparison, operand) :: (← moreCompare fuel))
    | none => pure []

/-- Reads a sum. -/
def readSum : Nat → Parse Expression
  | 0 => malformed
  | fuel + 1 => do moreSum fuel (← readConcat fuel)

/-- Reads further terms of a sum. -/
def moreSum : Nat → Expression → Parse Expression
  | 0, _ => malformed
  | fuel + 1, left => do
    match ← sumOperator? with
    | some operator => moreSum fuel (.binary operator left (← readConcat fuel))
    | none => pure left

/-- Reads texts joined together. -/
def readConcat : Nat → Parse Expression
  | 0 => malformed
  | fuel + 1 => do
    let first ← readProduct fuel
    match ← moreConcat fuel with
    | [] => pure first
    | rest => pure (.concat (first :: rest))

/-- Reads further texts joined together. -/
def moreConcat : Nat → Parse (List Expression)
  | 0 => malformed
  | fuel + 1 => do
    if ← skipSymbol "~" then
      let part ← readProduct fuel
      pure (part :: (← moreConcat fuel))
    else pure []

/-- Reads a product. -/
def readProduct : Nat → Parse Expression
  | 0 => malformed
  | fuel + 1 => do moreProduct fuel (← readUnary fuel true)

/-- Reads further factors of a product. -/
def moreProduct : Nat → Expression → Parse Expression
  | 0, _ => malformed
  | fuel + 1, left => do
    match ← productOperator? with
    | some operator => moreProduct fuel (.binary operator left (← readUnary fuel true))
    | none => pure left

/-- Reads a signed or plain operand with what is attached to it. -/
def readUnary : Nat → Bool → Parse Expression
  | 0, _ => malformed
  | fuel + 1, withFilters => do
    let operand ←
      if ← skipSymbol "-" then do pure (.minus (← readUnary fuel false))
      else if ← skipSymbol "+" then do pure (.plus (← readUnary fuel false))
      else readPrimary fuel
    let operand ← morePostfix fuel operand
    if withFilters then moreFilters fuel operand else pure operand

/-- Reads an operand that stands alone. -/
def readPrimary : Nat → Parse Expression
  | 0 => malformed
  | fuel + 1 => do
    match ← peek with
    | some (.name s) => advance; pure (wordExpression s)
    | some (.string _) => pure (.constant (.str (← strings (fuel + 1))))
    | some (.integer n) => advance; pure (.constant (.int n))
    | some (.decimal x) => advance; pure (.constant (.float x))
    | some (.symbol "(") =>
      advance
      let inside ← readExpression fuel
      expectSymbol ")"
      pure inside
    | some (.symbol "[") => advance; pure (.list (← readItems fuel))
    | some (.symbol "\x7b") => advance; pure (.dict (← readEntries fuel))
    | _ => malformed

/-- Reads the items of a list up to the closing bracket. -/
def readItems : Nat → Parse (List Expression)
  | 0 => malformed
  | fuel + 1 => do
    if ← skipSymbol "]" then pure []
    else
      let item ← readExpression fuel
      if ← skipSymbol "," then pure (item :: (← readItems fuel))
      else
        expectSymbol "]"
        pure [item]

/-- Reads the entries of a dictionary up to the closing bracket. -/
def readEntries : Nat → Parse (List (Expression × Expression))
  | 0 => malformed
  | fuel + 1 => do
    if ← skipSymbol "\x7d" then pure []
    else
      let key ← readExpression fuel
      expectSymbol ":"
      let value ← readExpression fuel
      if ← skipSymbol "," then pure ((key, value) :: (← readEntries fuel))
      else
        expectSymbol "\x7d"
        pure [(key, value)]

/-- Reads attributes, keys and arguments behind an operand. -/
def morePostfix : Nat → Expression → Parse Expression
  | 0, _ => malformed
  | fuel + 1, owner => do
    if ← skipSymbol "." then
      match ← peek with
      | some (.name s) => advance; morePostfix fuel (.attribute owner s)
      | some (.integer n) => advance; morePostfix fuel (.item owner (.constant (.int n)))
      | _ => malformed
    else if ← skipSymbol "[" then
      let key ← readExpression fuel
      expectSymbol "]"
      morePostfix fuel (.item owner key)
    else if ← skipSymbol "(" then
      let (arguments, named) ← readArguments fuel
      morePostfix fuel (.call owner arguments named)
    else pure owner

/-- Reads filters, tests and arguments behind an operand. -/
def moreFilters : Nat → Expression → Parse Expression
  | 0, _ => malformed
  | fuel + 1, subject => do
    if ← skipSymbol "|" then
      let name ← dottedName (fuel + 1)
      if ← skipSymbol "(" then
        let (arguments, named) ← readArguments fuel
        moreFilters fuel (.filter subject name arguments named)
      else moreFilters fuel (.filter subject name [] [])
    else if ← skipWord "is" then
      let negated ← skipWord "not"
      let name ← dottedName (fuel + 1)
      let arguments ←
        if ← skipSymbol "(" then do pure (← readArguments fuel).1
        else if beginsTestArgument (← peek) then
          if isWord (← peek) "is" then malformed
          else do
            let argument ← readPrimary fuel
            pure [← morePostfix fuel argument]
        else pure []
      let test := Expression.test subject name arguments
      moreFilters fuel (if negated then .negation test else test)
    else if ← skipSymbol "(" then
      let (arguments, named) ← readArguments fuel
      moreFilters fuel (.call subject arguments named)
    else pure subject

/-- Reads arguments up to the closing bracket; those with a name come last. -/
def readArguments : Nat → Parse (List Expression × List (String × Expression))
  | 0 => malformed
  | fuel + 1 => do
    if ← skipSymbol ")" then pure ([], [])
    else
      let (arguments, named) ←
        if ← namesArgument then do
          let name ← expectName
          expectSymbol "="
          pure ([], [(name, ← readExpression fuel)])
        else do pure ([← readExpression fuel], [])
      if ← skipSymbol "," then
        let (laterArguments, laterNamed) ← readArguments fuel
        if named ≠ [] ∧ laterArguments ≠ [] then malformed
        else pure (arguments ++ laterArguments, named ++ laterNamed)
      else
        expectSymbol ")"
        pure (arguments, named)

end

/-- The words that cannot be assigned to. -/
def constantWords : List String := ["true", "false", "none", "True", "False", "None"]

/-- Reads a name that something is assigned to. -/
def readTarget : Parse String := do
  let name ← expectName
  if constantWords.contains name then malformed else pure name

mutual

/-- Reads statements up to a block that begins with one of the closing words, of which the mark
and the word are skipped; without closing words, up to the end. -/
def readStatements : Nat → List String → Parse (List Statement × String)
  | 0, _ => malformed
  | fuel + 1, closing => do
    match ← peek with
    | none => if closing = [] then pure ([], "") else malformed
    | some (.text s) =>
      advance
      let (rest, word) ← readStatements fuel closing
      pure (.text s :: rest, word)
    | some .outputOpen =>
      advance
      let e ← readExpression fuel
      expectOutputClose
      let (rest, word) ← readStatements fuel closing
      pure (.output e :: rest, word)
    | some .blockOpen =>
      advance
      let word ← expectName
      if closing.contains word then pure ([], word)
      else
        let statement ← readBlock fuel word
        let (rest, word) ← readStatements fuel closing
        pure (statement :: rest, word)
    | _ => malformed

/-- Reads the block that begins with a given word. -/
def readBlock : Nat → String → Parse Statement
  | 0, _ => malformed
  | fuel + 1, word => do
    match word with
    | "do" =>
      let e ← readExpression fuel
      expectBlockClose
      pure (.evaluate e)
    | "set" =>
      let name ← readTarget
      expectSymbol "="
      let e ← readExpression fuel
      expectBlockClose
      pure (.assign name e)
    | "if" => readBranch fuel
    | "for" =>
      let name ← readTarget
      if ← skipWord "in" then
        let source ← readEither fuel
        expectBlockClose
        let (body, closed) ← readStatements fuel ["endfor", "else"]
        expectBlockClose
        if closed = "else" then
          let (otherwise, _) ← readStatements fuel ["endfor"]
          expectBlockClose
          pure (.loop name source body otherwise)
        else pure (.loop name source body [])
      else malformed
    | _ => malformed

/-- Reads the condition and the parts of a branch. -/
def readBranch : Nat → Parse Statement
  | 0 => malformed
  | fuel + 1 => do
    let condition ← readEither fuel
    expectBlockClose
    let (positive, closed) ← readStatements fuel ["elif", "else", "endif"]
    match closed with
    | "elif" => do
      let next ← readBranch fuel
      pure (.branch condition positive [next])
    | "else" => do
      expectBlockClose
      let (negative, _) ← readStatements fuel ["endif"]
      expectBlockClose
      pure (.branch condition positive negative)
    | _ => do
      expectBlockClose
      pure (.branch condition positive [])

end

/-- The statements of a file template. -/
def compile (source : String) : Except Fault (List Statement) := do
  let lexemes ← Lexeme.ofChars (FileTree.unixLines source.toList)
  let ((statements, _), _) ← (readStatements (20 * lexemes.length + 40) []).run lexemes
  if allKnown false statements && allSpareLoop statements then pure statements
  else .error .sourceVocabulary

end TemplateEngine.Source
