import TemplateEngine.Document.Node.Reader
import TemplateEngine.Document.Reference
import TemplateEngine.Documents

/-!
# Documents to run on

The program reads documents in a part of the language that settings are usually written in. It is
one of the languages that the results hold for. A document holds a mapping or a list. One that is
empty holds an empty mapping. One that is a single text is read once more as a document; if it is a
single text then too, it stands for a mapping in which that text is the only key. References must be
well-formed as soon as the document is read; where they lead is settled later.

## Main definitions

* `Document.ofText`: the mapping or list that a text holds.
* `Document.mergeOver`: a document put over a mapping.
* `Documents.standard`: the documents that the program reads.
-/

namespace TemplateEngine

namespace Document

/-! ### Reading a document -/

/-- The value that characters stand for as a document. -/
def valueOf (cs : List Char) : Except Fault Value :=
  match Node.ofChars cs with
  | .ok node => node.toValue
  | .error fault => .error fault

/-- The mapping that a document of a single text holds. -/
def ofSingleText (s : String) : Except Fault Value :=
  match valueOf s.toList with
  | .error fault => .error fault
  | .ok v =>
    match v with
    | .null => .ok (.dict [])
    | .str t => .ok (.dict [(t, .null)])
    | .list _ => .ok v
    | .dict _ => .ok v
    | _ => .error (.plain .assertion)

/-- The mapping or list that a value of a document stands for. -/
def container : Value → Except Fault Value
  | .null => .ok (.dict [])
  | .str s => ofSingleText s
  | .list items => .ok (.list items)
  | .dict entries => .ok (.dict entries)
  | _ => .error (.plain .osError)

/-- The mapping or list that a text holds. -/
def ofText (s : String) : Except Fault Value :=
  match valueOf s.toList with
  | .error fault => .error fault
  | .ok v =>
    match container v with
    | .error fault => .error fault
    | .ok v => if isWellFormed v then .ok v else .error .reference

/-! ### Putting a document over another one -/

mutual

/-- A value put over another one, if there is one: a mapping is put over a mapping entry by entry,
the mark for a value that is still to be given leaves what is there, and anything else takes its
place. A list cannot take the place of a mapping, nor a mapping that of a list. -/
def mergeValue : Option Value → Value → Except Fault Value
  | none, v => .ok v
  | some (.dict old), .dict entries =>
    match mergeEntries old entries with
    | .ok merged => .ok (.dict merged)
    | .error fault => .error fault
  | some (.dict _), .list _ => .error .wrongType
  | some (.list _), .dict _ => .error .wrongType
  | some old, .str s => .ok (if s = "???" then old else .str s)
  | some _, v => .ok v

/-- Entries put over a mapping, one after the other. -/
def mergeEntries : Dictionary Value → List (String × Value) → Except Fault (Dictionary Value)
  | old, [] => .ok old
  | old, (key, v) :: rest =>
    match mergeValue (old.value? key) v with
    | .ok merged => mergeEntries (old.put key merged) rest
    | .error fault => .error fault

end

/-- A document put over a mapping. -/
def mergeOver (old : Dictionary Value) : Value → Except Fault (Dictionary Value)
  | .dict entries => mergeEntries old entries
  | _ => .error .wrongType

end Document

/-- The documents that the program reads. -/
def Documents.standard : Documents where
  read := Document.ofText
  merge := Document.mergeOver
  settle := Document.settled

end TemplateEngine
