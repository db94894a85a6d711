import TemplateEngine.Document.Node
import TemplateEngine.Document.Plain
import TemplateEngine.Document.Quoted

/-!
# From the characters of a document to its structure

Outside brackets the columns tell the structure: the keys of a mapping stand in one column, and
so do the dashes of a list; what belongs to a key or a dash stands farther to the right. Only the
dashes of a list may stand in the column of the key that they belong to. Inside brackets columns
tell nothing. Each function reads a part that begins at a place and hands on the place behind
it; its first argument bounds the depth and number of the parts.

## Main definitions

* `readText`: a text that begins at a place.
* `readBracketed`: a part inside brackets.
* `readPart`: a part outside brackets.
* `Node.ofChars`: the structure of a document.
-/

namespace TemplateEngine.Document

/-- A part that was read, and the place behind it. -/
abbrev Reading (α : Type) := Except Fault (α × Cursor)

/-- The document is malformed. -/
def malformed {α : Type} : Reading α := .error .documentSyntax

/-- The text that begins at a place, quoted or plain. -/
def readText (inBrackets : Bool) (indent : Nat) (p : Cursor) : Reading Node :=
  match p.rest with
  | c :: rest =>
    if c = '\'' then
      match singleQuoted? rest with
      | some (text, behind) => .ok (.quoted (String.ofList text), p.advanceTo behind)
      | none => malformed
    else if c = '"' then
      match doubleQuoted? rest with
      | some (text, behind) => .ok (.quoted (String.ofList text), p.advanceTo behind)
      | none => malformed
    else if startsPlain inBrackets (c :: rest) then
      let (text, behind) := plain inBrackets indent p
      .ok (.plain (String.ofList text), behind)
    else malformed
  | [] => malformed

/-- A text that is nothing. -/
def nothing : Node := .plain ""

/-- Whether one of some characters comes next. -/
def Cursor.isAt (p : Cursor) (signs : List Char) : Bool :=
  match p.rest with
  | c :: _ => signs.contains c
  | [] => false

mutual

/-- A part inside brackets. -/
def readBracketed : Nat → Cursor → Reading Node
  | 0, _ => malformed
  | fuel + 1, p =>
    if p.isAt ['['] then
      match readItems fuel p.next.skipFill with
      | .ok (items, behind) => .ok (.list items, behind)
      | .error fault => .error fault
    else if p.isAt ['{'] then
      match readPairs fuel p.next.skipFill with
      | .ok (entries, behind) => .ok (.mapping entries, behind)
      | .error fault => .error fault
    else readText true 0 p

/-- The value behind a key inside brackets, which is nothing if it is not there. The colon stands
on the line on which the key begins. -/
def readPairValue : Nat → Nat → Cursor → Reading (Option Node)
  | 0, _, _ => malformed
  | fuel + 1, line, p =>
    let colon := p.skipFill
    if colon.isAt [':'] then
      if colon.line = line then
        let start := colon.next.skipFill
        if start.isAt [',', ']', '}'] then .ok (some nothing, colon.next)
        else match readBracketed fuel start with
          | .ok (value, behind) => .ok (some value, behind)
          | .error fault => .error fault
      else malformed
    else .ok (none, p)

/-- The items up to a closing bracket. An item with a colon is a mapping of its own. -/
def readItems : Nat → Cursor → Reading (List Node)
  | 0, _ => malformed
  | fuel + 1, p =>
    if p.isAt [']'] then .ok ([], p.next)
    else match readBracketed fuel p with
      | .error fault => .error fault
      | .ok (first, behind) =>
        match readPairValue fuel p.line behind with
        | .error fault => .error fault
        | .ok (value, behind) =>
          let item := match value with
            | some value => .mapping [(first, value)]
            | none => first
          let q := behind.skipFill
          if q.isAt [','] then
            match readItems fuel q.next.skipFill with
            | .ok (items, behind) => .ok (item :: items, behind)
            | .error fault => .error fault
          else if q.isAt [']'] then .ok ([item], q.next)
          else malformed

/-- The entries up to a closing brace. -/
def readPairs : Nat → Cursor → Reading (List (Node × Node))
  | 0, _ => malformed
  | fuel + 1, p =>
    if p.isAt ['}'] then .ok ([], p.next)
    else match readBracketed fuel p with
      | .error fault => .error fault
      | .ok (key, behind) =>
        match readPairValue fuel p.line behind with
        | .error fault => .error fault
        | .ok (value, behind) =>
          let entry := (key, value.getD nothing)
          let q := behind.skipFill
          if q.isAt [','] then
            match readPairs fuel q.next.skipFill with
            | .ok (entries, behind) => .ok (entry :: entries, behind)
            | .error fault => .error fault
          else if q.isAt ['}'] then .ok ([entry], q.next)
          else malformed

end

/-- A text or a part in brackets, which may turn out to be a key. -/
def readLeaf (fuel indent : Nat) (p : Cursor) : Reading Node :=
  if p.isAt ['[', '{'] then readBracketed fuel p else readText false indent p

mutual

/-- A part outside brackets. Further lines of a text begin at a given column or behind it;
a flag tells whether mappings and lists can begin at the place. -/
def readPart : Nat → Nat → Bool → Cursor → Reading Node
  | 0, _, _, _ => malformed
  | fuel + 1, indent, opens, p =>
    if p.atDash then
      if opens then
        match readDashes fuel p.column p with
        | .ok (items, behind) => .ok (.list items, behind)
        | .error fault => .error fault
      else malformed
    else match readLeaf fuel indent p with
      | .error fault => .error fault
      | .ok (leaf, behind) =>
        if behind.skipSpaces.atColon && behind.line == p.line then
          if opens then
            match readEntries fuel p.column p with
            | .ok (entries, behind) => .ok (.mapping entries, behind)
            | .error fault => .error fault
          else malformed
        else .ok (leaf, behind)

/-- The entries of a mapping whose keys stand in a column, from the key at a place on. -/
def readEntries : Nat → Nat → Cursor → Reading (List (Node × Node))
  | 0, _, _ => malformed
  | fuel + 1, column, p =>
    match readLeaf fuel (column + 1) p with
    | .error fault => .error fault
    | .ok (key, behind) =>
      let colon := behind.skipSpaces
      if colon.atColon && behind.line == p.line then
        match readEntryValue fuel column colon.next with
        | .error fault => .error fault
        | .ok (value, behind) =>
          let q := behind.skipFill
          if q.atEnd || (behind.line < q.line && q.column < column) then
            .ok ([(key, value)], behind)
          else if behind.line < q.line && q.column == column then
            match readEntries fuel column q with
            | .ok (entries, behind) => .ok ((key, value) :: entries, behind)
            | .error fault => .error fault
          else malformed
      else malformed

/-- What belongs to a key in a column, from the place behind its colon on. -/
def readEntryValue : Nat → Nat → Cursor → Reading Node
  | 0, _, _ => malformed
  | fuel + 1, column, p =>
    let q := p.skipFill
    if q.atEnd then .ok (nothing, p)
    else if q.line = p.line then readPart fuel (column + 1) false q
    else if column < q.column then readPart fuel (column + 1) true q
    else if q.column = column ∧ q.atDash then
      match readDashes fuel column q with
      | .ok (items, behind) => .ok (.list items, behind)
      | .error fault => .error fault
    else .ok (nothing, p)

/-- The items of a list whose dashes stand in a column, from the dash at a place on. -/
def readDashes : Nat → Nat → Cursor → Reading (List Node)
  | 0, _, _ => malformed
  | fuel + 1, column, p =>
    match readItem fuel column p.next with
    | .error fault => .error fault
    | .ok (item, behind) =>
      let q := behind.skipFill
      if q.atEnd || (behind.line < q.line && q.column < column) then .ok ([item], behind)
      else if behind.line < q.line && q.column == column then
        if q.atDash then
          match readDashes fuel column q with
          | .ok (items, behind) => .ok (item :: items, behind)
          | .error fault => .error fault
        else .ok ([item], behind)
      else malformed

/-- What belongs to a dash in a column, from the place behind it on. -/
def readItem : Nat → Nat → Cursor → Reading Node
  | 0, _, _ => malformed
  | fuel + 1, column, p =>
    let q := p.skipFill
    if q.atEnd then .ok (nothing, p)
    else if q.line = p.line ∨ column < q.column then readPart fuel (column + 1) true q
    else .ok (nothing, p)

end

/-! ### Whole documents -/

/-- The lines of a text. -/
def lines : List Char → List (List Char)
  | [] => [[]]
  | c :: rest =>
    if isLineEnd c then [] :: lines rest
    else match lines rest with
      | [] => [[c]]
      | line :: others => (c :: line) :: others

/-- Whether a line begins with a marker, which is a sign three times with a gap behind it. -/
def isMarked (sign : Char) (line : List Char) : Bool :=
  line.take 3 == List.replicate 3 sign && atGap (line.drop 3)

/-- Whether a line holds nothing but spaces and a comment. -/
def isFill (line : List Char) : Bool := (Cursor.skipFill { rest := line }).atEnd

/-- Whether nothing but filling follows the end of a document. -/
def endsWell : List (List Char) → Bool
  | [] => true
  | line :: rest => if isMarked '-' line then false else (isFill line && endsWell rest)

/-- The lines of a document up to its end marker. A second document is not allowed. -/
def documentLines? : List (List Char) → Option (List (List Char))
  | [] => some []
  | line :: rest =>
    if isMarked '-' line then none
    else if isMarked '.' line then (if isFill (line.drop 3) && endsWell rest then some [] else none)
    else (documentLines? rest).map (line :: ·)

/-- The lines of a document, and whether mappings and lists can begin at its first place. A begin
marker counts as three spaces; behind it on the same line they cannot begin. -/
def openDocument? : List (List Char) → Option (List (List Char) × Bool)
  | [] => some ([], true)
  | line :: rest =>
    if isMarked '-' line then
      (documentLines? rest).map fun more =>
        (([' ', ' ', ' '] ++ line.drop 3) :: more, isFill (line.drop 3))
    else if isFill line then (openDocument? rest).map fun (more, opens) => (line :: more, opens)
    else (documentLines? (line :: rest)).map fun more => (more, true)

/-- Joins lines by line ends. -/
def joinLines : List (List Char) → List Char
  | [] => []
  | [line] => line
  | line :: rest => line ++ '\n' :: joinLines rest

/-- Whether a character may occur in a document. -/
def isAllowed (c : Char) : Bool :=
  let n := c.toNat
  n == 9 || n == 10 || n == 13 || (0x20 ≤ n && n ≤ 0x7e) || n == 0x85 ||
    (0xa0 ≤ n && n ≤ 0xfffd) || 0x10000 ≤ n

/-- A document without a mark of its byte order. -/
def withoutByteOrder : List Char → List Char
  | [] => []
  | c :: rest => if c.toNat = 0xfeff then rest else c :: rest

/-- The structure of a document; an empty one is nothing. -/
def Node.ofChars (cs : List Char) : Except Fault Node :=
  if cs.all isAllowed then
    match openDocument? (lines (withoutByteOrder cs)) with
    | none => .error .documentSyntax
    | some (ls, opens) =>
      let text := joinLines ls
      let start := Cursor.skipFill { rest := text }
      if start.atEnd then .ok nothing
      else match readPart (4 * text.length + 4) 0 opens start with
        | .error fault => .error fault
        | .ok (node, behind) =>
          if behind.skipFill.atEnd then .ok node else .error .documentSyntax
  else .error .documentSyntax

end TemplateEngine.Document
