import TemplateEngine.Decimal.Digits
import TemplateEngine.Fault
import TemplateEngine.Text.LetterCase
import TemplateEngine.Text.Words

/-!
# Lexemes of a file template

A file template is text with three kinds of marks: output marks around an expression, block marks
around a statement, and comment marks. A minus sign inside a mark takes the blanks of the text
beside it away. Text between a raw block and its end is taken as it is.

## Main definitions

* `Token`, `Lexeme`: pieces of a file template with their lines.
* `Lexeme.ofChars`: takes a file template apart.
-/

namespace TemplateEngine.Source

/-- A piece of a file template. -/
inductive Token where
  | text (s : String)
  | outputOpen
  | outputClose
  | blockOpen
  | blockClose
  | name (s : String)
  | string (s : String)
  | integer (n : Nat)
  | decimal (x : Float)
  | symbol (s : String)
  deriving Inhabited

/-- A piece with the line that it begins on. -/
structure Lexeme where
  token : Token
  line : Nat
  deriving Inhabited

/-- The kinds of mark. -/
inductive Mark where
  | output
  | block
  | comment
  deriving DecidableEq, Repr

/-- The number of line feeds. -/
def lineFeeds (cs : List Char) : Nat := cs.count '\n'

/-- The text up to the next mark, and the mark with what comes behind it. -/
def splitAtMark : List Char → List Char × Option (Mark × List Char)
  | '{' :: '{' :: rest => ([], some (.output, rest))
  | '{' :: '%' :: rest => ([], some (.block, rest))
  | '{' :: '#' :: rest => ([], some (.comment, rest))
  | [] => ([], none)
  | c :: rest => (c :: (splitAtMark rest).1, (splitAtMark rest).2)

/-- A list of characters without the blanks at its end. -/
def dropBlanksAtEnd (cs : List Char) : List Char := (cs.reverse.dropWhile Text.isBlank).reverse

/-- A list of characters without the blanks at its beginning. -/
def dropBlanks (cs : List Char) : List Char := cs.dropWhile Text.isBlank

/-- What comes behind a given beginning. -/
def behind? : List Char → List Char → Option (List Char)
  | [], cs => some cs
  | p :: ps, c :: cs => if p = c then behind? ps cs else none
  | _ :: _, [] => none

/-- What comes behind the end of a mark, with its sign: the blanks behind a minus sign belong to
the mark. -/
def closing? (ending : List Char) (plus : Bool) (cs : List Char) : Option (List Char) :=
  match cs with
  | '-' :: rest => (behind? ending rest).map dropBlanks
  | '+' :: rest => if plus then behind? ending rest else none
  | cs => behind? ending cs

/-- The sign at the beginning of a mark, and what comes behind it. -/
def openingSign : List Char → Option Char × List Char
  | '-' :: rest => (some '-', rest)
  | '+' :: rest => (some '+', rest)
  | cs => (none, cs)

/-- The text of a comment is skipped; what comes behind its end, if it has one. -/
def skipComment : List Char → Option (List Char)
  | [] => none
  | c :: rest =>
    match closing? ['#', '}'] true (c :: rest) with
    | some after => some after
    | none => skipComment rest

/-- What comes behind a block that holds only a given word, if it is such a block. -/
def wordBlock? (word : List Char) (plus : Bool) (cs : List Char) : Option (List Char) :=
  match behind? word (dropBlanks cs) with
  | some rest => closing? ['%', '}'] plus (dropBlanks rest)
  | none => none

/-- The end of a raw block at the beginning of a list of characters: whether its mark begins with
a minus sign, and what comes behind it. -/
def rawEnd? (cs : List Char) : Option (Bool × List Char) :=
  match behind? ['{', '%'] cs with
  | none => none
  | some inside =>
    let (sign, inside) := openingSign inside
    (wordBlock? "endraw".toList true inside).map fun after => (sign = some '-', after)

/-- The text up to the end of a raw block, whether a minus sign takes the blanks at its end away,
and what comes behind. -/
def rawText? : List Char → Option (List Char × Bool × List Char)
  | [] => none
  | c :: rest =>
    match rawEnd? (c :: rest) with
    | some (strips, after) => some ([], strips, after)
    | none => (rawText? rest).map fun found => (c :: found.1, found.2)

/-- Whether a character may stand in a name. -/
def isNameChar (c : Char) : Bool :=
  c.isAlphanum || c == '_' || (128 ≤ c.toNat && Text.isCased c)

/-- The digits at the beginning of a list of characters; a single underscore may stand between
two of them. -/
def digitRun : List Char → List Char × List Char
  | [] => ([], [])
  | '_' :: d :: rest =>
    if d.isDigit then (d :: (digitRun rest).1, (digitRun rest).2) else ([], '_' :: d :: rest)
  | c :: rest => if c.isDigit then (c :: (digitRun rest).1, (digitRun rest).2) else ([], c :: rest)

/-- The power of ten behind a number, if there is one: its sign, its size and what comes behind. -/
def powerPart? : List Char → Option (Bool × Nat × List Char)
  | e :: rest =>
    if e = 'e' ∨ e = 'E' then
      let (sign, rest) := openingSign rest
      match digitRun rest with
      | ([], _) => none
      | (digits, after) =>
        match rest with
        | '_' :: _ => none
        | _ => some (sign = some '-', Decimal.ofDecimalDigits digits, after)
    else none
  | [] => none

/-- A number at the beginning of a list of characters that begins with a digit. A whole number
that begins with zero holds nothing but zeros. -/
def number (cs : List Char) : Token × List Char :=
  let (whole, rest) := digitRun cs
  let fraction : List Char × List Char :=
    match rest with
    | '.' :: d :: more => if d.isDigit then digitRun (d :: more) else ([], rest)
    | _ => ([], rest)
  match powerPart? fraction.2 with
  | some (negative, power, after) =>
    (.decimal (Decimal.decimalToFloat whole fraction.1 negative power), after)
  | none =>
    if fraction.1 ≠ [] then (.decimal (Decimal.decimalToFloat whole fraction.1 false 0), fraction.2)
    else match cs with
      | '0' :: more => (.integer 0, more.dropWhile (· = '0'))
      | _ => (.integer (Decimal.ofDecimalDigits whole), rest)

/-- The inside of a quoted string, with its escapes, and what comes behind the closing quote. -/
def quoted? (quote : Char) : List Char → Option (List Char × List Char)
  | [] => none
  | '\\' :: c :: rest => (quoted? quote rest).map fun found => ('\\' :: c :: found.1, found.2)
  | c :: rest =>
    if c = '\\' then none
    else if c = quote then some ([], rest)
    else (quoted? quote rest).map fun found => (c :: found.1, found.2)

/-- The character of a code point in a given number of hexadecimal digits. -/
def codePoint? (width : Nat) (cs : List Char) : Option Char :=
  if cs.length < width then none
  else match Decimal.ofDigits? 16 (cs.take width) with
    | some n => if h : n.isValidChar then some (Char.ofNatAux n h) else none
    | none => none

/-- Whether a character is an octal digit. -/
def isOctal (c : Char) : Bool := '0' ≤ c && c ≤ '7'

/-- The characters that the inside of a quoted string stands for. -/
def unescape : Nat → List Char → Option (List Char)
  | 0, cs => if cs = [] then some [] else none
  | _, [] => some []
  | fuel + 1, '\\' :: c :: rest =>
    match c with
    | '\n' => unescape fuel rest
    | '\\' => (unescape fuel rest).map ('\\' :: ·)
    | '\'' => (unescape fuel rest).map ('\'' :: ·)
    | '"' => (unescape fuel rest).map ('"' :: ·)
    | 'n' => (unescape fuel rest).map ('\n' :: ·)
    | 'r' => (unescape fuel rest).map ('\r' :: ·)
    | 't' => (unescape fuel rest).map ('\t' :: ·)
    | 'a' => (unescape fuel rest).map (Char.ofNat 7 :: ·)
    | 'b' => (unescape fuel rest).map (Char.ofNat 8 :: ·)
    | 'f' => (unescape fuel rest).map (Char.ofNat 12 :: ·)
    | 'v' => (unescape fuel rest).map (Char.ofNat 11 :: ·)
    | 'x' => (codePoint? 2 rest).bind fun d => (unescape fuel (rest.drop 2)).map (d :: ·)
    | 'u' => (codePoint? 4 rest).bind fun d => (unescape fuel (rest.drop 4)).map (d :: ·)
    | 'U' => (codePoint? 8 rest).bind fun d => (unescape fuel (rest.drop 8)).map (d :: ·)
    | 'N' => none
    | c =>
      if isOctal c then
        let digits := ((c :: rest).take 3).takeWhile isOctal
        let code := digits.foldl (fun n d => n * 8 + (d.toNat - 48)) 0
        (unescape fuel ((c :: rest).drop digits.length)).map (Char.ofNat code :: ·)
      else (unescape fuel rest).map fun more => '\\' :: c :: more
  | fuel + 1, c :: rest => (unescape fuel rest).map (c :: ·)

/-- The symbols of two characters. -/
def longSymbols : List (List Char) :=
  [['/', '/'], ['*', '*'], ['=', '='], ['!', '='], ['>', '='], ['<', '=']]

/-- The symbols of one character. -/
def shortSymbols : List Char :=
  ['+', '-', '/', '*', '%', '~', '[', ']', '(', ')', '{', '}', '>', '<', '=', '.', ':', '|', ',',
    ';']

/-- The symbol at the beginning of a list of characters. -/
def symbol? (cs : List Char) : Option (List Char × List Char) :=
  match longSymbols.find? (·.isPrefixOf cs) with
  | some found => some (found, cs.drop 2)
  | none => match cs with
    | c :: rest => if shortSymbols.contains c then some ([c], rest) else none
    | [] => none

/-- The bracket that closes a given one. -/
def closer? : List Char → Option Char
  | ['('] => some ')'
  | ['['] => some ']'
  | ['{'] => some '}'
  | _ => none

/-- Whether a symbol closes a bracket. -/
def isCloser (symbol : List Char) : Bool := symbol = [')'] || symbol = [']'] || symbol = ['}']

/-- The brackets that are open behind a symbol, innermost first; none if it does not fit. -/
def bracketsAfter? (brackets : List Char) (symbol : List Char) : Option (List Char) :=
  match closer? symbol with
  | some close => some (close :: brackets)
  | none =>
    if isCloser symbol then
      match brackets with
      | expected :: rest => if symbol = [expected] then some rest else none
      | [] => none
    else some brackets

/-- A piece in front of the pieces behind it. -/
def Lexeme.before (lexeme : Lexeme) :
    Except Fault (List Lexeme × Nat × List Char) → Except Fault (List Lexeme × Nat × List Char)
  | .ok (found, after) => .ok (lexeme :: found, after)
  | .error fault => .error fault

/-- The pieces up to the end of a mark, the line behind it and what comes behind it. The end of the
mark counts only if no bracket is open. -/
def lexCode (ending : List Char) (plus : Bool) (close : Token) :
    Nat → Nat → List Char → List Char → Except Fault (List Lexeme × Nat × List Char)
  | 0, _, _, _ => .error .sourceSyntax
  | fuel + 1, line, brackets, cs =>
    let ended := if brackets = [] then closing? ending plus cs else none
    match ended, cs with
    | some rest, cs =>
      .ok ([⟨close, line⟩], line + lineFeeds (cs.take (cs.length - rest.length)), rest)
    | none, [] => .error .sourceSyntax
    | none, c :: rest =>
      if Text.isBlank c then
        lexCode ending plus close fuel (if c = '\n' then line + 1 else line) brackets rest
      else if c.isDigit then
        let (token, rest) := number (c :: rest)
        Lexeme.before ⟨token, line⟩ (lexCode ending plus close fuel line brackets rest)
      else if isNameChar c then
        let name := (c :: rest).takeWhile isNameChar
        Lexeme.before ⟨.name (String.ofList name), line⟩
          (lexCode ending plus close fuel line brackets ((c :: rest).dropWhile isNameChar))
      else if c = '"' ∨ c = '\'' then
        match quoted? c rest with
        | none => .error .sourceSyntax
        | some (inside, rest) =>
          match unescape (inside.length + 1) inside with
          | none => .error .sourceSyntax
          | some value =>
            Lexeme.before ⟨.string (String.ofList value), line⟩
              (lexCode ending plus close fuel (line + lineFeeds inside) brackets rest)
      else match symbol? (c :: rest) with
        | none => .error .sourceSyntax
        | some (symbol, rest) =>
          match bracketsAfter? brackets symbol with
          | none => .error .sourceSyntax
          | some brackets =>
            Lexeme.before ⟨.symbol (String.ofList symbol), line⟩
              (lexCode ending plus close fuel line brackets rest)

/-- A text as a piece, if it is not empty. -/
def textLexeme (cs : List Char) (line : Nat) : List Lexeme :=
  if cs = [] then [] else [⟨.text (String.ofList cs), line⟩]

/-- The pieces of a file template. -/
def lexFrom : Nat → Nat → List Char → Except Fault (List Lexeme)
  | 0, _, _ => .error .sourceSyntax
  | fuel + 1, line, cs =>
    match splitAtMark cs with
    | (before, none) => .ok (textLexeme before line)
    | (before, some (mark, rest)) =>
      let (sign, inside) := openingSign rest
      let text := textLexeme (if sign = some '-' then dropBlanksAtEnd before else before) line
      let line := line + lineFeeds before
      match mark with
      | .comment =>
        match skipComment inside with
        | none => .error .sourceSyntax
        | some after => do
          let skipped := inside.take (inside.length - after.length)
          pure (text ++ (← lexFrom fuel (line + lineFeeds skipped) after))
      | .output => do
        let (code, line', after) ←
          lexCode ['}', '}'] false .outputClose (inside.length + 1) line [] inside
        pure (text ++ ⟨.outputOpen, line⟩ :: code ++ (← lexFrom fuel line' after))
      | .block =>
        match wordBlock? "raw".toList false inside with
        | some after =>
          match rawText? after with
          | none => .error .sourceSyntax
          | some (raw, strips, rest) => do
            let skipped := inside.take (inside.length - rest.length)
            pure (text ++ textLexeme (if strips then dropBlanksAtEnd raw else raw) line ++
              (← lexFrom fuel (line + lineFeeds skipped) rest))
        | none => do
          let (code, line', after) ←
            lexCode ['%', '}'] true .blockClose (inside.length + 1) line [] inside
          pure (text ++ ⟨.blockOpen, line⟩ :: code ++ (← lexFrom fuel line' after))

/-- The pieces of a file template. -/
def Lexeme.ofChars (cs : List Char) : Except Fault (List Lexeme) := lexFrom (cs.length + 1) 1 cs

end TemplateEngine.Source
