import TemplateEngine.Decimal.Digits
import TemplateEngine.Document.Cursor

/-!
# Quoted texts of a document

Between single quotes every character stands for itself, and a quote is written twice. Between
double quotes a backslash begins an escape. In both, a line end with the blanks around it stands
for a space, and further line ends stand for themselves.

## Main definitions

* `Piece`: what the inside of a quoted text is made of.
* `fold`: the characters that pieces stand for.
* `singleQuoted?`, `doubleQuoted?`: the text up to the closing quote, and what comes behind it.
-/

namespace TemplateEngine.Document

/-- What the inside of a quoted text is made of. -/
inductive Piece where
  | char (c : Char)
  | blank (c : Char)
  | lineEnd
  /-- A line end that a backslash takes away. -/
  | joint
  deriving DecidableEq, Repr

/-- Where in a quoted text its pieces are put together. -/
inductive FoldState where
  /-- In a line, behind some blanks, latest first. -/
  | inLine (blanks : List Char)
  /-- Behind a line end, which stands for some text unless further ones follow. -/
  | between (alone : List Char) (further : Nat)

/-- What line ends stand for. -/
def lineEndText (alone : List Char) (further : Nat) : List Char :=
  if further = 0 then alone else List.replicate further '\n'

/-- The characters that pieces stand for in a state. -/
def foldFrom : FoldState → List Piece → List Char
  | .inLine blanks, [] => blanks.reverse
  | .inLine blanks, .char c :: rest => blanks.reverse ++ c :: foldFrom (.inLine []) rest
  | .inLine blanks, .blank c :: rest => foldFrom (.inLine (c :: blanks)) rest
  | .inLine _, .lineEnd :: rest => foldFrom (.between [' '] 0) rest
  | .inLine blanks, .joint :: rest => blanks.reverse ++ foldFrom (.between [] 0) rest
  | .between alone further, [] => lineEndText alone further
  | .between alone further, .char c :: rest =>
    lineEndText alone further ++ c :: foldFrom (.inLine []) rest
  | .between alone further, .blank _ :: rest => foldFrom (.between alone further) rest
  | .between alone further, .lineEnd :: rest => foldFrom (.between alone (further + 1)) rest
  | .between alone further, .joint :: rest =>
    lineEndText alone further ++ foldFrom (.between [] 0) rest

/-- The characters that the pieces of a quoted text stand for. -/
def fold (pieces : List Piece) : List Char := foldFrom (.inLine []) pieces

/-- A character as a piece. -/
def Piece.ofChar (c : Char) : Piece :=
  if isLineEnd c then .lineEnd else if c = ' ' ∨ c = '\t' then .blank c else .char c

/-- The pieces up to a closing single quote, and what comes behind it. -/
def singlePieces? : List Char → Option (List Piece × List Char)
  | [] => none
  | '\'' :: '\'' :: rest => (singlePieces? rest).map fun found => (.char '\'' :: found.1, found.2)
  | c :: rest =>
    if c = '\'' then some ([], rest)
    else (singlePieces? rest).map fun found => (Piece.ofChar c :: found.1, found.2)

/-- What an escape of one character stands for. -/
def escape? (c : Char) : Option Char :=
  match c with
  | '0' => some (Char.ofNat 0)
  | 'a' => some (Char.ofNat 7)
  | 'b' => some (Char.ofNat 8)
  | 't' => some '\t'
  | '\t' => some '\t'
  | 'n' => some '\n'
  | 'v' => some (Char.ofNat 11)
  | 'f' => some (Char.ofNat 12)
  | 'r' => some '\r'
  | 'e' => some (Char.ofNat 27)
  | ' ' => some ' '
  | '"' => some '"'
  | '\\' => some '\\'
  | '/' => some '/'
  | 'N' => some (Char.ofNat 0x85)
  | '_' => some (Char.ofNat 0xa0)
  | 'L' => some (Char.ofNat 0x2028)
  | 'P' => some (Char.ofNat 0x2029)
  | _ => none

/-- How many hexadecimal digits follow an escape by a code point. -/
def escapeWidth? (c : Char) : Option Nat :=
  match c with
  | 'x' => some 2
  | 'u' => some 4
  | 'U' => some 8
  | _ => none

/-- The character of a code point in a given number of hexadecimal digits. -/
def codePoint? (width : Nat) (cs : List Char) : Option Char :=
  if cs.length < width then none
  else match Decimal.ofDigits? 16 (cs.take width) with
    | some n => if h : n.isValidChar then some (Char.ofNatAux n h) else none
    | none => none

/-- The piece that an escape stands for, and what comes behind it. -/
def escapedPiece? (c : Char) (rest : List Char) : Option (Piece × List Char) :=
  if isLineEnd c then some (.joint, rest)
  else match escapeWidth? c with
    | some width => (codePoint? width rest).map fun d => (.char d, rest.drop width)
    | none => (escape? c).map fun d => (.char d, rest)

/-- The pieces up to a closing double quote, and what comes behind it. The first argument bounds
the number of pieces. -/
def doublePieces? : Nat → List Char → Option (List Piece × List Char)
  | 0, _ => none
  | _, [] => none
  | fuel + 1, c :: rest =>
    if c = '"' then some ([], rest)
    else if c = '\\' then
      match rest with
      | [] => none
      | d :: more =>
        match escapedPiece? d more with
        | none => none
        | some (piece, more) =>
          (doublePieces? fuel more).map fun found => (piece :: found.1, found.2)
    else (doublePieces? fuel rest).map fun found => (Piece.ofChar c :: found.1, found.2)

/-- The text up to a closing single quote, and what comes behind it. -/
def singleQuoted? (cs : List Char) : Option (List Char × List Char) :=
  (singlePieces? cs).map fun found => (fold found.1, found.2)

/-- The text up to a closing double quote, and what comes behind it. -/
def doubleQuoted? (cs : List Char) : Option (List Char × List Char) :=
  (doublePieces? (cs.length + 1) cs).map fun found => (fold found.1, found.2)

end TemplateEngine.Document
