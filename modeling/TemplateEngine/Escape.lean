import TemplateEngine.Value.Text

/-!
# Escaping for markup

The ampersand and the angle brackets are written as entities, and the two quotes as well if the
settings ask for it. Every other character stays as it is.

## Main definitions

* `EscapeSettings`: whether quotes are escaped, and what nothing is written as.
* `escapeChars`, `escapeText`: the escape of a text.
* `escapeValue`: the escape of the text of a value.

## Main results

* `escapeChars_append`: the escape of a concatenation is the concatenation of the escapes.
-/

namespace TemplateEngine

/-- Whether quotes are escaped, and whether nothing is written as an empty text. -/
structure EscapeSettings where
  quote : Bool := true
  nullAsEmpty : Bool := true
  deriving DecidableEq, Repr, Inhabited

/-- What is written for one character. -/
def escapeChar (quote : Bool) (c : Char) : List Char :=
  if c = '&' then ['&', 'a', 'm', 'p', ';']
  else if c = '<' then ['&', 'l', 't', ';']
  else if c = '>' then ['&', 'g', 't', ';']
  else if quote ∧ c = '"' then ['&', 'q', 'u', 'o', 't', ';']
  else if quote ∧ c = '\'' then ['&', '#', 'x', '2', '7', ';']
  else [c]

/-- The escape of a list of characters. -/
def escapeChars (quote : Bool) (text : List Char) : List Char := text.flatMap (escapeChar quote)

/-- The escape of a text. -/
def escapeText (quote : Bool) (text : String) : String :=
  String.ofList (escapeChars quote text.toList)

/-- The escape of the text of a value. -/
def escapeValue (settings : EscapeSettings) (v : Value) : Except Fault String :=
  if v.isNull && settings.nullAsEmpty then .ok ""
  else v.text.map (escapeText settings.quote)

@[simp] theorem escapeChars_cons (quote : Bool) (c : Char) (rest : List Char) :
    escapeChars quote (c :: rest) = escapeChar quote c ++ escapeChars quote rest := rfl

/-- The escape of a concatenation is the concatenation of the escapes. -/
theorem escapeChars_append (quote : Bool) (s t : List Char) :
    escapeChars quote (s ++ t) = escapeChars quote s ++ escapeChars quote t :=
  List.flatMap_append

end TemplateEngine
