import TemplateEngine.Value.Text

/-!
# References inside documents

A text of a document may refer to other parts of it: a dollar sign with a path in braces stands
for the part that the path leads to. A path begins at the root, or with points, which lead that
many levels up from the text. A text that is one reference and nothing else is that part itself;
otherwise the texts of the parts are put in. Backslashes in front of a reference come in pairs,
and one that is left over keeps the reference as it is written.

## Main definitions

* `Reference`, `Phrase`: paths, and texts with paths in them.
* `Phrase.ofChars?`: reads a phrase.
* `settle`: what a part of a document stands for, and where it is.
* `settled`: a document with what its references stand for.
-/

namespace TemplateEngine.Document

/-- A path to a part of a document. -/
structure Reference where
  /-- How many levels above the text the path begins; none is the root. -/
  up : Option Nat
  steps : List String
  deriving DecidableEq, Repr, Inhabited

/-- A piece of a phrase. -/
inductive Fragment where
  | text (cs : List Char)
  | reference (r : Reference)
  deriving DecidableEq, Repr, Inhabited

/-- A text with references in it. -/
abbrev Phrase := List Fragment

/-! ### Reading -/

/-- Whether a character may stand in a step of a path. -/
def isStepChar (c : Char) : Bool :=
  let ending : List Char :=
    ['\\', '{', '}', '(', ')', '[', ']', ':', '.', ' ', '\t', '\'', '"']
  !ending.contains c

/-- The step at the beginning of some characters, and what comes behind it. -/
def readStep? (cs : List Char) : Option (String × List Char) :=
  let step := cs.takeWhile isStepChar
  if step = [] then none else some (String.ofList step, cs.dropWhile isStepChar)

/-- The step inside brackets, and what comes behind the bracket. -/
def readIndex? (cs : List Char) : Option (String × List Char) :=
  match readStep? cs with
  | some (step, ']' :: rest) => some (step, rest)
  | _ => none

/-- Characters without the blanks in front of them. -/
def withoutBlanks (cs : List Char) : List Char := cs.dropWhile fun c => c == ' ' || c == '\t'

/-- The further steps of a path up to its closing brace, and what comes behind it. The first
argument bounds their number. -/
def readSteps? : Nat → List Char → Option (List String × List Char)
  | 0, _ => none
  | fuel + 1, cs =>
    let step := match cs with
      | '.' :: rest => readStep? rest
      | '[' :: rest => readIndex? rest
      | _ => none
    match step with
    | some (step, rest) => (readSteps? fuel rest).map fun (steps, behind) => (step :: steps, behind)
    | none =>
      match withoutBlanks cs with
      | '}' :: behind => some ([], behind)
      | _ => none

/-- The reference whose opening brace has been read, and what comes behind its closing brace. -/
def readReference? (cs : List Char) : Option (Reference × List Char) :=
  let cs := withoutBlanks cs
  let points := (cs.takeWhile (· = '.')).length
  let first := match cs.drop points with
    | '[' :: rest => readIndex? rest
    | rest => readStep? rest
  match first with
  | none => none
  | some (step, rest) =>
    (readSteps? (rest.length + 1) rest).map fun (steps, behind) =>
      (⟨if points = 0 then none else some points, step :: steps⟩, behind)

/-- The characters that stand for a given number of backslashes. -/
def backslashes (count : Nat) : List Char := List.replicate count '\\'

/-- The phrase that characters stand for, if every reference is well-formed. The first argument
bounds the number of fragments. -/
def readPhrase? : Nat → List Char → Option Phrase
  | _, [] => some []
  | 0, _ => none
  | fuel + 1, cs =>
    let count := (cs.takeWhile (· = '\\')).length
    match cs.drop count with
    | '$' :: '{' :: rest =>
      if count % 2 = 1 then
        (readPhrase? fuel rest).map (.text (backslashes (count / 2) ++ ['$', '{']) :: ·)
      else
        match readReference? rest with
        | none => none
        | some (r, behind) =>
          (readPhrase? fuel behind).map fun more =>
            (if count = 0 then [] else [.text (backslashes (count / 2))]) ++ .reference r :: more
    | [] => some [.text (backslashes count)]
    | c :: rest => (readPhrase? fuel rest).map (.text (backslashes count ++ [c]) :: ·)

/-- The phrase that characters stand for. -/
def Phrase.ofChars? (cs : List Char) : Option Phrase := readPhrase? (cs.length + 1) cs

/-- The phrase that a text stands for. -/
def Phrase.ofText? (s : String) : Option Phrase := Phrase.ofChars? s.toList

/-! ### Following -/

/-- Where a part of a document is: the steps from the root. -/
abbrev Place := List String

/-- The number that a step stands for in a list. -/
def index? (step : String) : Option Nat := step.toNat?

/-- The part one step below a part. -/
def child? (v : Value) (step : String) : Option Value :=
  match v with
  | .dict entries => Dictionary.value? entries step
  | .list items => (index? step).bind (items[·]?)
  | _ => none

/-- The part at a place, as it is written. -/
def partAt? (root : Value) : Place → Option Value
  | [] => some root
  | step :: rest => (child? root step).bind fun v => partAt? v rest

/-- Whether a value is the mark for one that is still to be given. -/
def isToBeGiven : Value → Bool
  | .str s => s == "???"
  | _ => false

mutual

/-- What a part of a document stands for, and where that is. A text with references and other
characters stands for a text at its own place. The first argument bounds the number of steps. -/
def settle (root : Value) : Nat → Place → Value → Except Fault (Place × Value)
  | 0, _, _ => .error .reference
  | fuel + 1, place, .str s =>
    match Phrase.ofText? s with
    | none => .error .reference
    | some [.reference r] => follow root fuel place r
    | some phrase =>
      match phraseText root fuel place phrase with
      | .ok cs => .ok (place, .str (String.ofList cs))
      | .error fault => .error fault
  | _ + 1, place, v => .ok (place, v)

/-- The text of a phrase at a place. -/
def phraseText (root : Value) : Nat → Place → Phrase → Except Fault (List Char)
  | _, _, [] => .ok []
  | 0, _, _ => .error .reference
  | fuel + 1, place, .text cs :: rest =>
    match phraseText root fuel place rest with
    | .ok more => .ok (cs ++ more)
    | .error fault => .error fault
  | fuel + 1, place, .reference r :: rest =>
    match follow root fuel place r with
    | .error fault => .error fault
    | .ok (_, v) =>
      match v.text, phraseText root fuel place rest with
      | .ok text, .ok more => .ok (text.toList ++ more)
      | .error fault, _ => .error fault
      | _, .error fault => .error fault

/-- The part that a reference in a text at a place leads to. It must not hold the text. -/
def follow (root : Value) : Nat → Place → Reference → Except Fault (Place × Value)
  | 0, _, _ => .error .reference
  | fuel + 1, place, r =>
    let start : Option Place := match r.up with
      | none => some []
      | some levels =>
        if levels ≤ place.length then some (place.take (place.length - levels)) else none
    match start.bind fun start => (partAt? root start).map fun v => (start, v) with
    | none => .error .reference
    | some (start, v) =>
      match walk root fuel start v r.steps with
      | .error fault => .error fault
      | .ok (target, v) =>
        if target.isPrefixOf place.dropLast then .error .reference else .ok (target, v)

/-- The part that some steps lead to from a part at a place. -/
def walk (root : Value) : Nat → Place → Value → List String → Except Fault (Place × Value)
  | _, place, v, [] => .ok (place, v)
  | 0, _, _, _ => .error .reference
  | fuel + 1, place, v, step :: rest =>
    match child? v step with
    | none => .error .reference
    | some part =>
      if isToBeGiven part then .error .reference
      else match settle root fuel (place ++ [step]) part with
        | .error fault => .error fault
        | .ok (target, v) => walk root fuel target v rest

end

mutual

/-- A part at a place, with what its references stand for. -/
def expand (root : Value) : Nat → Place → Value → Except Fault Value
  | 0, _, _ => .error .reference
  | fuel + 1, place, .dict entries =>
    match expandEntries root fuel place entries with
    | .ok entries => .ok (.dict entries)
    | .error fault => .error fault
  | fuel + 1, place, .list items =>
    match expandItems root fuel place 0 items with
    | .ok items => .ok (.list items)
    | .error fault => .error fault
  | _ + 1, _, v => .ok v

/-- The entries of a part at a place. -/
def expandEntries (root : Value) :
    Nat → Place → List (String × Value) → Except Fault (List (String × Value))
  | _, _, [] => .ok []
  | 0, _, _ => .error .reference
  | fuel + 1, place, (key, v) :: rest =>
    match settle root fuel (place ++ [key]) v with
    | .error fault => .error fault
    | .ok (target, v) =>
      match expand root fuel target v, expandEntries root fuel place rest with
      | .ok v, .ok rest => .ok ((key, v) :: rest)
      | .error fault, _ => .error fault
      | _, .error fault => .error fault

/-- The items of a part at a place, from a position on. -/
def expandItems (root : Value) :
    Nat → Place → Nat → List Value → Except Fault (List Value)
  | _, _, _, [] => .ok []
  | 0, _, _, _ => .error .reference
  | fuel + 1, place, n, v :: rest =>
    match settle root fuel (place ++ [toString n]) v with
    | .error fault => .error fault
    | .ok (target, v) =>
      match expand root fuel target v, expandItems root fuel place (n + 1) rest with
      | .ok v, .ok rest => .ok (v :: rest)
      | .error fault, _ => .error fault
      | _, .error fault => .error fault

end

mutual

/-- The number of parts and characters of a document. -/
def weight : Value → Nat
  | .str s => s.length + 1
  | .list items => itemsWeight items + 1
  | .dict entries => entriesWeight entries + 1
  | _ => 1

/-- The number of parts and characters of items. -/
def itemsWeight : List Value → Nat
  | [] => 0
  | v :: rest => weight v + itemsWeight rest + 1

/-- The number of parts and characters of entries. -/
def entriesWeight : List (String × Value) → Nat
  | [] => 0
  | (key, v) :: rest => key.length + weight v + entriesWeight rest + 1

end

/-- A document with what its references stand for. -/
def settled (root : Value) : Except Fault Value :=
  let bound := (weight root + 4) * (weight root + 4)
  expand root bound [] root

mutual

/-- Whether every text of a document is a phrase. -/
def isWellFormed : Value → Bool
  | .str s => (Phrase.ofText? s).isSome
  | .list items => areWellFormed items
  | .dict entries => areWellFormedEntries entries
  | _ => true

/-- Whether every text of some items is a phrase. -/
def areWellFormed : List Value → Bool
  | [] => true
  | v :: rest => isWellFormed v && areWellFormed rest

/-- Whether every text of some entries is a phrase. -/
def areWellFormedEntries : List (String × Value) → Bool
  | [] => true
  | (_, v) :: rest => isWellFormed v && areWellFormedEntries rest

end

end TemplateEngine.Document
