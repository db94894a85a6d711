import TemplateEngine.Proofs.Render.Occurrence

/-!
# What an operation can do to its scene

An orderly operation acts on the sections and the captured text, assigns data, declares a layout,
notes something in the journal, prints what a function of the host prints, looks up the body of the
template, lets another template be rendered, or calls a program that the stage offers. A relation
between scenes that holds across each of these holds across every orderly operation.

## Main definitions

* `Nested.CoveredBy`: a relation holds across whatever orderly operations are made of.

## Main results

* `Nested.CoveredBy.perform`: the relation holds across every orderly operation.
* `Nested.CoveredBy.perform_any`: when it holds across every operation.
-/

namespace TemplateEngine

/-- A relation between scenes holds across whatever orderly operations are made of. -/
structure Nested.CoveredBy (nested : Nested) (S : Scene → Scene → Prop) : Prop where
  refl : ∀ s, S s s
  trans : ∀ {s s' s''}, S s s' → S s' s'' → S s s''
  canvas : ∀ s (operation : CanvasOperation), operation.isOrderly →
    S s (s.setCanvas (operation.perform s.canvas).2)
  assign : ∀ s data, S s { s with template := s.template.assign data }
  declare : ∀ s name data, S s { s with template := s.template.declare name data }
  note : ∀ s label outcome, S s (s.note label outcome)
  print : ∀ {s : Scene} {name f}, s.stage.host.function? name = some f → ∀ v, S s (s.print (f v).2)
  lookUp : ∀ s, S s { s with stage := (s.stage.body s.template.name).2 }
  fetch : ∀ {s left name data outcome},
    nested.render data ⟨s.stage.engine.make name, s.stage⟩ = some (outcome, left) →
    S s { s with stage := left.stage }
  call : ∀ {s p}, s.Offers p → Leaves (S s) (nested.call p s)

namespace Nested.CoveredBy

variable {nested : Nested} {S : Scene → Scene → Prop}

/-- Such a relation does not tell what happens in between. -/
theorem follows (h : nested.CoveredBy S) (chronicle : Chronicle) :
    nested.Follows chronicle fun s _ s' => S s s' where
  refl := h.refl
  trans := h.trans
  canvas := h.canvas
  assign := h.assign
  declare := h.declare
  note := h.note
  print := h.print
  lookUp := h.lookUp
  fetch := h.fetch
  call := h.call

/-- A relation that holds across what orderly operations are made of holds across each of them. -/
theorem perform (h : nested.CoveredBy S) {operation : Operation} (ho : operation.isOrderly)
    (s : Scene) : Leaves (S s) (perform nested operation s) :=
  (h.follows ⟨fun _ _ => [], fun _ _ => []⟩).perform ho s

/-- If it also holds across renders of the template itself, and across all that can be done to the
canvas, it holds across every operation. -/
theorem perform_any (h : nested.CoveredBy S)
    (hcanvas : ∀ s (operation : CanvasOperation), S s (s.setCanvas (operation.perform s.canvas).2))
    (hrender : ∀ s data, Leaves (S s) (nested.render data s)) (operation : Operation) (s : Scene) :
    Leaves (S s) (TemplateEngine.perform nested operation s) :=
  (h.follows ⟨fun _ _ => [], fun _ _ => []⟩).perform_any hcanvas hrender operation s

end Nested.CoveredBy

end TemplateEngine
