import TemplateEngine.FileTree

/-!
# Documents of settings and data

Settings and data are read from documents, which are put over defaults and may hold references. The
language of documents is not fixed: all that is relied on is that a text holds a value or none, that
a value can be put over a mapping or cannot, and that the references of a value stand for something
or for nothing.

## Main definitions

* `Documents`: what reads documents, puts them over others and settles their references.
* `Documents.load`: what the file at a path holds.
-/

namespace TemplateEngine

/-- What is made of documents. By default every text holds an empty mapping. -/
structure Documents where
  /-- What a text holds. -/
  read : String → Except Fault Value := fun _ => .ok (.dict [])
  /-- A mapping with a value put over it. -/
  merge : Dictionary Value → Value → Except Fault (Dictionary Value) := fun old _ => .ok old
  /-- A value with what its references stand for. -/
  settle : Value → Except Fault Value := .ok

namespace Documents

instance : Inhabited Documents := ⟨{}⟩

/-- What the file at a path holds. -/
def load (documents : Documents) (files : FileTree) (path : Path) : Except Fault Value :=
  match files.readText path with
  | .ok text => documents.read text
  | .error fault => .error fault

end Documents

end TemplateEngine
