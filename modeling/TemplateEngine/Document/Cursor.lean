/-!
# Places in a document

A document is read from left to right. Its structure hangs on the columns at which lines begin,
so a place in it is known with its line and its column. Blanks between the parts of a document
are spaces, line ends and comments; a tab is none.

## Main definitions

* `Cursor`: a line, a column and the characters from there on.
* `Cursor.skipSpaces`, `Cursor.skipFill`: the next place that is no space, or no filling at all.
* `Cursor.advanceTo`: the place where a given rest begins.
-/

namespace TemplateEngine.Document

/-- A place in a document. -/
structure Cursor where
  line : Nat := 0
  column : Nat := 0
  /-- The characters from this place on. -/
  rest : List Char
  deriving DecidableEq, Repr, Inhabited

/-- Whether a character ends a line. -/
def isLineEnd (c : Char) : Bool :=
  c == '\n' || c.toNat == 0x85 || c.toNat == 0x2028 || c.toNat == 0x2029

/-- Whether a blank, the end of a line or the end of the document comes next. -/
def atGap : List Char → Bool
  | [] => true
  | c :: _ => c == ' ' || c == '\t' || isLineEnd c

namespace Cursor

/-- The place behind a character. -/
def after (p : Cursor) (c : Char) : Cursor :=
  if isLineEnd c then ⟨p.line + 1, 0, p.rest.drop 1⟩ else ⟨p.line, p.column + 1, p.rest.drop 1⟩

/-- The place where a given rest begins. -/
def advanceTo (p : Cursor) (rest : List Char) : Cursor :=
  (p.rest.take (p.rest.length - rest.length)).foldl after p

/-- The place behind the next character. -/
def next (p : Cursor) : Cursor := p.advanceTo (p.rest.drop 1)

/-- The place behind the spaces that come next. -/
def skipSpaces (p : Cursor) : Cursor :=
  let n := (p.rest.takeWhile (· = ' ')).length
  ⟨p.line, p.column + n, p.rest.drop n⟩

/-- The place behind spaces, line ends and comments; the flag tells whether a comment goes on. -/
def skipFillFrom (comment : Bool) (line column : Nat) : List Char → Cursor
  | [] => ⟨line, column, []⟩
  | c :: rest =>
    if isLineEnd c then skipFillFrom false (line + 1) 0 rest
    else if comment then skipFillFrom true line (column + 1) rest
    else if c = ' ' then skipFillFrom false line (column + 1) rest
    else if c = '#' then skipFillFrom true line (column + 1) rest
    else ⟨line, column, c :: rest⟩

/-- The next place that is part of no space, line end or comment. -/
def skipFill (p : Cursor) : Cursor := skipFillFrom false p.line p.column p.rest

/-- The place behind spaces and line ends, and how many lines ended. -/
def skipLinesFrom (count line column : Nat) : List Char → Nat × Cursor
  | [] => (count, ⟨line, column, []⟩)
  | c :: rest =>
    if isLineEnd c then skipLinesFrom (count + 1) (line + 1) 0 rest
    else if c = ' ' then skipLinesFrom count line (column + 1) rest
    else (count, ⟨line, column, c :: rest⟩)

/-- The place behind spaces and line ends, and how many lines ended. -/
def skipLines (p : Cursor) : Nat × Cursor := skipLinesFrom 0 p.line p.column p.rest

/-- Whether nothing is left. -/
def atEnd (p : Cursor) : Bool := p.rest.isEmpty

/-- Whether a dash with a gap behind it comes next, which begins an item of a list. -/
def atDash (p : Cursor) : Bool :=
  match p.rest with
  | '-' :: rest => atGap rest
  | _ => false

/-- Whether a colon with a gap behind it comes next, which ends a key. -/
def atColon (p : Cursor) : Bool :=
  match p.rest with
  | ':' :: rest => atGap rest
  | _ => false

end Cursor

end TemplateEngine.Document
