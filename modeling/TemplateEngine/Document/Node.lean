import TemplateEngine.Document.Scalar
import TemplateEngine.Value.Text

/-!
# The structure of a document

A document is a tree of texts, lists and mappings. What the texts stand for is settled when the
tree is turned into a value: a key must be a text, a truth value or a number, and no text may be
a key twice.

## Main definitions

* `Node`: texts, lists and mappings.
* `Node.toValue`: the value of a document.
-/

namespace TemplateEngine.Document

/-- Texts, lists and mappings. -/
inductive Node where
  | plain (text : String)
  | quoted (text : String)
  | list (items : List Node)
  | mapping (entries : List (Node × Node))
  deriving Inhabited

namespace Node

/-- The key that a node stands for, and whether it is a text. -/
def key : Node → Except Fault (String × Bool)
  | .quoted text => .ok (text, true)
  | .plain text =>
    match plainValue text with
    | .str s => .ok (s, true)
    | .null => .error .documentKey
    | .bool b => .ok (if b then "true" else "false", false)
    | v => .ok (v.literal, false)
  | _ => .error .documentSyntax

/-- The texts among the keys of a mapping. -/
def textKeys (entries : List (Node × Node)) : List String :=
  entries.filterMap fun (k, _) => match k.key with
    | .ok (text, true) => some text
    | _ => none

/-- Whether a text occurs twice. -/
def hasRepetition : List String → Bool
  | [] => false
  | s :: rest => rest.contains s || hasRepetition rest

mutual

/-- The value of a node. -/
def toValue : Node → Except Fault Value
  | .plain text =>
    if reservedTexts.contains text then .error .documentSyntax else .ok (plainValue text)
  | .quoted text => .ok (.str text)
  | .list items => (itemValues items).map .list
  | .mapping entries =>
    if hasRepetition (textKeys entries) then .error .documentSyntax
    else (entryValues entries).map fun entries => .dict (Dictionary.overlay [] entries)

/-- The values of the items of a list. -/
def itemValues : List Node → Except Fault (List Value)
  | [] => .ok []
  | item :: rest => do
    let first ← item.toValue
    pure (first :: (← itemValues rest))

/-- The keys and values of the entries of a mapping. -/
def entryValues : List (Node × Node) → Except Fault (List (String × Value))
  | [] => .ok []
  | (k, item) :: rest => do
    let (text, _) ← k.key
    let first ← item.toValue
    pure ((text, first) :: (← entryValues rest))

end

end Node

end TemplateEngine.Document
