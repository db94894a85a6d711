/-!
# Control sequences in text

A control sequence tells a terminal what to do: an escape character, an opening bracket,
parameters, and a letter. What is written elsewhere than to a terminal has its control sequences
taken out. They are taken out in one pass, so characters that come together only because a sequence
between them was taken out stay as they are.

## Main definitions

* `controlLength?`: the length of the control sequence that a text begins with.
* `withoutControls`: a text without its control sequences.
-/

namespace TemplateEngine.Text

/-- Whether a character may stand among the parameters of a control sequence. -/
def isParameter (c : Char) : Bool := c.isDigit || c == ';' || c == '?'

/-- The length of the control sequence that a list of characters begins with, if it does. -/
def controlLength? : List Char → Option Nat
  | '\x1b' :: '[' :: rest =>
    match rest.dropWhile isParameter with
    | c :: _ => if c.isAlpha then some ((rest.takeWhile isParameter).length + 3) else none
    | [] => none
  | _ => none

/-- A list of characters behind the next `skip` characters, which belong to a control sequence,
without its control sequences. -/
def dropControlsFrom : Nat → List Char → List Char
  | _, [] => []
  | skip + 1, _ :: rest => dropControlsFrom skip rest
  | 0, c :: rest =>
    match controlLength? (c :: rest) with
    | some length => dropControlsFrom (length - 1) rest
    | none => c :: dropControlsFrom 0 rest

/-- A text without its control sequences. -/
def withoutControls (text : String) : String :=
  String.ofList (dropControlsFrom 0 text.toList)

end TemplateEngine.Text
