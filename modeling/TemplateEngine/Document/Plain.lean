import TemplateEngine.Document.Cursor

/-!
# Plain texts of a document

A text without quotes ends at a comment, at a colon with a gap behind it, and at a line that is
not indented enough. Inside brackets it ends at brackets and commas as well, and its lines may
begin anywhere. A line end stands for a space, and further line ends stand for themselves.

## Main definitions

* `startsPlain`: whether a plain text can begin with some characters.
* `plain`: the plain text that begins at a place, and the place behind it.
-/

namespace TemplateEngine.Document

/-- The characters with which no plain text begins, unless one of the last three is followed by
something. -/
def indicators : List Char :=
  [',', '[', ']', '{', '}', '#', '&', '*', '!', '|', '>', '\'', '"', '%', '@', Char.ofNat 0x60,
    '-', '?', ':']

/-- The characters that end a plain text inside brackets. -/
def bracketSigns : List Char := [',', '?', '[', ']', '{', '}']

/-- Whether a plain text can begin with some characters. -/
def startsPlain (inBrackets : Bool) (cs : List Char) : Bool :=
  match cs with
  | [] => false
  | c :: rest =>
    if atGap (c :: rest) then false
    else if indicators.contains c then
      !atGap rest && (c == '-' || (!inBrackets && (c == '?' || c == ':')))
    else true

/-- Whether a colon ends what stands before it, given what stands behind it. -/
def colonEnds (inBrackets : Bool) (rest : List Char) : Bool :=
  atGap rest || (inBrackets && match rest with
    | c :: _ => [',', '[', ']', '{', '}'].contains c
    | [] => false)

/-- The characters of a plain text up to a gap, and what comes behind them. -/
def plainRun (inBrackets : Bool) : List Char → List Char × List Char
  | [] => ([], [])
  | c :: rest =>
    if atGap (c :: rest) || (c == ':' && colonEnds inBrackets rest) ||
        (inBrackets && bracketSigns.contains c) then ([], c :: rest)
    else (c :: (plainRun inBrackets rest).1, (plainRun inBrackets rest).2)

/-- What ends of lines inside a plain text stand for. -/
def lineGap (count : Nat) : List Char :=
  if count ≤ 1 then [' '] else List.replicate (count - 1) '\n'

/-- Goes on with a plain text behind a gap: the text and the place behind it, which is the last
one if nothing goes on. The first argument bounds the number of runs. -/
def plainFrom (inBrackets : Bool) (indent : Nat) :
    Nat → List Char → Cursor → Cursor → List Char × Cursor
  | 0, _, last, _ => ([], last)
  | fuel + 1, gap, last, p =>
    if p.rest.head? = some '#' then ([], last)
    else
      let (run, rest) := plainRun inBrackets p.rest
      if run = [] then ([], last)
      else
        let behind : Cursor := ⟨p.line, p.column + run.length, rest⟩
        let spaced := behind.skipSpaces
        let more : List Char × Cursor :=
          if (spaced.rest.head?.map isLineEnd).getD false then
            let (count, next) := spaced.skipLines
            if inBrackets || indent ≤ next.column then
              plainFrom inBrackets indent fuel (lineGap count) behind next
            else ([], behind)
          else if behind.column < spaced.column then
            let blanks := List.replicate (spaced.column - behind.column) ' '
            plainFrom inBrackets indent fuel blanks behind spaced
          else ([], behind)
        (gap ++ run ++ more.1, more.2)

/-- The plain text that begins at a place, and the place behind it. Its further lines begin at a
given column or behind it. -/
def plain (inBrackets : Bool) (indent : Nat) (p : Cursor) : List Char × Cursor :=
  plainFrom inBrackets indent (p.rest.length + 1) [] p p

end TemplateEngine.Document
