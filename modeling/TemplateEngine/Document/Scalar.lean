import TemplateEngine.Decimal.Digits
import TemplateEngine.Value

/-!
# What plain texts of a document stand for

A plain text stands for nothing, a truth value or a number if it is written like one, and for
itself otherwise. Underscores may stand between digits.

## Main definitions

* `truth?`, `integer?`, `decimal?`: the truth value or number that a text stands for.
* `plainValue`: what a plain text stands for.
-/

namespace TemplateEngine.Document

/-- The texts that stand for nothing. -/
def nullTexts : List String := ["", "~", "null", "Null", "NULL"]

/-- The texts that stand for truth. -/
def trueTexts : List String :=
  ["yes", "Yes", "YES", "true", "True", "TRUE", "on", "On", "ON"]

/-- The texts that stand for falsehood. -/
def falseTexts : List String :=
  ["no", "No", "NO", "false", "False", "FALSE", "off", "Off", "OFF"]

/-- The truth value that a text stands for. -/
def truth? (s : String) : Option Bool :=
  if trueTexts.contains s then some true else if falseTexts.contains s then some false else none

/-- Whether a number begins with a minus sign, and what stands behind its sign. -/
def signed : List Char → Bool × List Char
  | '-' :: rest => (true, rest)
  | '+' :: rest => (false, rest)
  | cs => (false, cs)

/-- Digits without the underscores between them. -/
def withoutUnderscores (cs : List Char) : List Char := cs.filter (· ≠ '_')

/-- Whether a text is a digit followed by digits and underscores. -/
def isDigitRun : List Char → Bool
  | [] => false
  | c :: rest => c.isDigit && rest.all fun d => d.isDigit || d == '_'

/-- The number that digits in a base stand for, if there is one at least. -/
def inBase? (base : Nat) (cs : List Char) : Option Nat :=
  if cs = [] then none
  else Decimal.ofDigits? base ('0' :: withoutUnderscores cs)

/-- Whether a text is a number of minutes or seconds. -/
def isSixtieth (cs : List Char) : Bool :=
  cs ≠ [] && cs.length ≤ 2 && cs.all Char.isDigit && decide (Decimal.ofDecimalDigits cs < 60)

/-- The number of sixtieths that a number with colons stands for. -/
def sixtieths (parts : List (List Char)) : Nat :=
  parts.foldl (fun n part => n * 60 + Decimal.ofDecimalDigits part) 0

/-- The whole number without a sign that a text stands for. -/
def magnitude? : List Char → Option Nat
  | '0' :: 'b' :: rest => inBase? 2 rest
  | '0' :: 'x' :: rest => inBase? 16 rest
  | '0' :: rest => if rest = [] then some 0 else inBase? 8 rest
  | cs =>
    match cs.splitOn ':' with
    | first :: others =>
      if isDigitRun first && others.all isSixtieth then
        some (sixtieths (withoutUnderscores first :: others))
      else none
    | [] => none

/-- The whole number that a text stands for. -/
def integer? (cs : List Char) : Option Int :=
  let (negative, body) := signed cs
  (magnitude? body).map fun n => if negative then -(n : Int) else n

/-- The power of ten that the end of a number stands for: whether it is negative, and its size. A
sign may be called for. -/
def power? (needsSign : Bool) : List Char → Option (Bool × Nat)
  | [] => some (false, 0)
  | e :: rest =>
    let (negative, digits) := signed rest
    if (e = 'e' ∨ e = 'E') ∧ digits ≠ [] ∧ digits.all Char.isDigit ∧
        (needsSign = false ∨ digits.length < rest.length) then
      some (negative, Decimal.ofDecimalDigits digits)
    else none

/-- The number without a sign that a text with a point or a power of ten stands for. -/
def decimalMagnitude? (needsWhole : Bool) (cs : List Char) : Option Float :=
  let isPart : Char → Bool := fun c => c.isDigit || c == '_'
  let whole := cs.takeWhile isPart
  match cs.dropWhile isPart with
  | '.' :: rest =>
    let fraction := rest.takeWhile isPart
    if isDigitRun whole || (whole = [] && !needsWhole && isDigitRun fraction) then
      (power? (whole = []) (rest.dropWhile isPart)).map fun (negative, power) =>
        Decimal.decimalToFloat (withoutUnderscores whole) (withoutUnderscores fraction) negative
          power
    else none
  | e :: rest =>
    if isDigitRun whole then
      (power? false (e :: rest)).map fun (negative, power) =>
        Decimal.decimalToFloat (withoutUnderscores whole) [] negative power
    else none
  | [] => none

/-- The texts that stand for infinity. -/
def infinityTexts : List String := [".inf", ".Inf", ".INF"]

/-- The texts that stand for no number. -/
def nanTexts : List String := [".nan", ".NaN", ".NAN"]

/-- The number with a point or a power of ten that a text stands for. -/
def decimal? (cs : List Char) : Option Float :=
  let (negative, body) := signed cs
  let unsigned : Option Float :=
    if infinityTexts.contains (String.ofList body) then some (1.0 / 0.0)
    else decimalMagnitude? (body.length < cs.length) body
  if nanTexts.contains (String.ofList cs) then some (0.0 / 0.0)
  else unsigned.map fun x => if negative then -x else x

/-- The plain texts that stand for no value of their own. -/
def reservedTexts : List String := ["=", "<<"]

/-- What a plain text stands for. -/
def plainValue (s : String) : Value :=
  if nullTexts.contains s then .null
  else match truth? s with
    | some b => .bool b
    | none =>
      match decimal? s.toList with
      | some x => .float x
      | none =>
        match integer? s.toList with
        | some n => .int n
        | none => .str s

end TemplateEngine.Document
