/-!
# Blanks and words

A blank is a character that separates words: the controls that move to another line or column,
the four information separators, and the spaces of Unicode.

## Main definitions

* `isBlank`: the blanks.
* `strip`: a text without the blanks, or without given characters, at its two ends.
* `words`: the runs of characters that are not blank.
-/

namespace TemplateEngine.Text

/-- Whether a character separates words. -/
def isBlank (c : Char) : Bool :=
  let n := c.toNat
  (9 ≤ n && n ≤ 13) || (0x1c ≤ n && n ≤ 0x20) || n == 0x85 || n == 0xa0 || n == 0x1680 ||
    (0x2000 ≤ n && n ≤ 0x200a) || n == 0x2028 || n == 0x2029 || n == 0x202f || n == 0x205f ||
    n == 0x3000

/-- A list of characters without those at its two ends that satisfy a condition. -/
def stripChars (drops : Char → Bool) (s : List Char) : List Char :=
  ((s.dropWhile drops).reverse.dropWhile drops).reverse

/-- A text without the blanks at its two ends. -/
def strip (s : String) : String := String.ofList (stripChars isBlank s.toList)

/-- A text without the given characters at its two ends. -/
def stripOf (drops s : String) : String := String.ofList (stripChars drops.toList.contains s.toList)

/-- The runs of characters that are not blank; the first argument is the run so far, latest
character first. -/
def wordsFrom : List Char → List Char → List (List Char)
  | run, [] => if run = [] then [] else [run.reverse]
  | run, c :: rest =>
    if isBlank c then (if run = [] then wordsFrom [] rest else run.reverse :: wordsFrom [] rest)
    else wordsFrom (c :: run) rest

/-- The words of a text. -/
def words (s : String) : List String := (wordsFrom [] s.toList).map String.ofList

end TemplateEngine.Text
