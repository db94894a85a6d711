import TemplateEngine.Text.Printable

/-!
# Quoted string literals

A literal stands between single quotes, or between double quotes if the text holds a single
quote and no double one. A backslash, the quote in use, and the characters for a new line, a
carriage return and a tab are escaped by a backslash; any other character that is not printable
is written by its code point in two, four or eight hexadecimal digits.

## Main definitions

* `hexadecimal`: a number in lower-case hexadecimal digits of a given least width.
* `literal`: the literal of a text.
-/

namespace TemplateEngine.Text

/-- The lower-case hexadecimal digit of a number below sixteen. -/
def hexDigit (n : Nat) : Char :=
  if n < 10 then Char.ofNat (n + 48) else Char.ofNat (n + 87)

/-- The lowest `width` hexadecimal digits of a number, highest first. -/
def hexadecimal : Nat → Nat → List Char
  | 0, _ => []
  | width + 1, n => hexadecimal width (n / 16) ++ [hexDigit (n % 16)]

/-- The quote that a literal uses. -/
def quoteFor (text : List Char) : Char :=
  if text.contains '\'' && !text.contains '"' then '"' else '\''

/-- How one character stands in a literal with the given quote. -/
def literalChar (quote c : Char) : List Char :=
  if c = quote ∨ c = '\\' then ['\\', c]
  else if c = '\n' then ['\\', 'n']
  else if c = '\r' then ['\\', 'r']
  else if c = '\t' then ['\\', 't']
  else if isPrintable c then [c]
  else if c.toNat ≤ 0xff then '\\' :: 'x' :: hexadecimal 2 c.toNat
  else if c.toNat ≤ 0xffff then '\\' :: 'u' :: hexadecimal 4 c.toNat
  else '\\' :: 'U' :: hexadecimal 8 c.toNat

/-- The literal of a list of characters. -/
def literalChars (text : List Char) : List Char :=
  let quote := quoteFor text
  quote :: text.flatMap (literalChar quote) ++ [quote]

/-- The literal of a text. -/
def literal (text : String) : String := String.ofList (literalChars text.toList)

end TemplateEngine.Text
