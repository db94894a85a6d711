import TemplateEngine.Proofs.Engine.Repertoire
import TemplateEngine.Render

/-!
# What happens in the course of an operation

An operation of a body may look up a body or have templates rendered, by itself or through the
programs that it calls, and those do the same in turn. What happens is written down in the order
in which it happens, with what happened inside of a render as a part of it. A relation between the
scene before, what happens and the scene after holds across operations and programs if it holds
across whatever these are made of.

## Main definitions

* `Occurrence`: the look-up of a body, or a render with what happened inside of it.
* `Chronicle`: what happens in the course of nested renders and calls.
* `Chronicle.ofOperation`, `Chronicle.ofProgram`: what happens in the course of an operation and
  of a program.
* `Scene.Offers`: the programs that an operation can call.
* `Nested.Follows`: a relation holds across whatever orderly operations are made of.

## Main results

* `Nested.Follows.perform`, `Nested.Follows.perform_any`: the relation holds across operations.
* `Nested.Follows.run`, `Nested.Follows.run_any`: the relation holds across programs.
-/

namespace TemplateEngine

/-- How a render ended. -/
inductive Ending where
  | returned
  /-- The body was not found, or it failed, or a section was left open. The flag tells whether text
  went to a region of the open section then. -/
  | bodyFailed (kind : FaultKind) (captured : Bool)
  | layoutFailed (kind : FaultKind)
  deriving DecidableEq, Repr, Inhabited

/-- What happens in the course of a program. -/
inductive Occurrence where
  /-- The body of a template is looked up on a stage. -/
  | lookUp (stage : Stage) (name : String)
  /-- A body begins in a scene, and something happens until the render has ended. -/
  | render (begun : Scene) (inner : List Occurrence) (ending : Ending)

/-- What happens in the course of nested renders and nested calls. -/
structure Chronicle where
  render : Dictionary Value → Scene → List Occurrence
  call : Program Value → Scene → List Occurrence

namespace Chronicle

variable (chronicle : Chronicle) (nested : Nested)

/-- What happens while another template is rendered. -/
def ofFetch (name : String) (data : Dictionary Value) (s : Scene) : List Occurrence :=
  chronicle.render data ⟨s.stage.engine.make name, s.stage⟩

/-- What happens while a registered function is called. -/
def ofFunction (name : String) (arguments : List Value) (named : Dictionary Value) (s : Scene) :
    List Occurrence :=
  match s.stage.engine.functions.fetch name with
  | .error _ => []
  | .ok f => chronicle.call (f.call (some s.template.name) arguments named) s

/-- What happens while the function of a given name is applied. -/
def ofNamed (name : String) (v : Value) (s : Scene) : List Occurrence :=
  if s.stage.engine.functions.holds name then chronicle.ofFunction name [v] [] s else []

/-- What happens while a value is sent through functions. -/
def ofFunctions : List String → Value → Scene → List Occurrence
  | [], _, _ => []
  | name :: rest, v, s =>
    chronicle.ofNamed name v s ++ match applyNamed nested name v s with
      | some (.ok v', s') => ofFunctions rest v' s'
      | _ => []

/-- What happens while a value is sent through the functions named in a text. -/
def ofBatch (v : Value) (functions : String) (s : Scene) : List Occurrence :=
  match s.stage.engine.functionNames functions with
  | .error _ => []
  | .ok names => chronicle.ofFunctions nested names v s

/-- What happens while the body of the template at hand is looked up and called. -/
def ofBody (s : Scene) : List Occurrence :=
  .lookUp s.stage s.template.name :: match s.stage.body s.template.name with
    | (.error _, _) => []
    | (.ok body, stage) => chronicle.call (body.bind fun _ => .done .null) { s with stage := stage }

/-- What happens in the course of an operation. -/
def ofOperation (operation : Operation) (s : Scene) : List Occurrence :=
  match operation with
  | .fetch name data own => chronicle.ofFetch name (s.template.dataFor data own) s
  | .insert name data own => chronicle.ofFetch name (s.template.dataFor data own) s
  | .render data => chronicle.render data s
  | .display => chronicle.ofBody s
  | .call name arguments named => chronicle.ofFunction name arguments named s
  | .batch v functions => chronicle.ofBatch nested v functions s
  | .escape v functions => if functions = "" then [] else chronicle.ofBatch nested v functions s
  | _ => []

/-- What happens in the course of a program. -/
def ofProgram {α : Type} : Program α → Scene → List Occurrence
  | .done _, _ => []
  | .fail _, _ => []
  | .perform operation next, s =>
    chronicle.ofOperation nested operation s ++ match perform nested operation s with
      | none => []
      | some (answer, s') => ofProgram (next answer) s'

end Chronicle

/-- The programs that an operation of a body can call: registered functions, with any arguments,
and the body of the template itself. -/
inductive Scene.Offers (s : Scene) : Program Value → Prop
  | function {name : String} {f : TemplateFunction}
    (h : s.stage.engine.functions.value? name = some f) (arguments : List Value)
    (named : Dictionary Value) : Offers s (f.call (some s.template.name) arguments named)
  | body {body : Program Unit} (h : s.stage.repertoire.body s.template.name = .ok body) :
    Offers s (body.bind fun _ => .done .null)

/-- If all that can be looked up is orderly, so are the programs that can be called. -/
theorem Scene.Offers.orderly {s : Scene} {p : Program Value} (h : s.Offers p)
    (hr : s.stage.repertoire.Orderly) : p.Orderly := by
  cases h with
  | function hf arguments named => exact hr.call hf _ arguments named
  | body hbody => exact (hr.body hbody).bind fun _ => trivial

/-- The body that is looked up is one that the stage offers, also when it has been looked up. -/
theorem Scene.offers_body {s : Scene} {body : Program Unit} {stage : Stage}
    (hlooked : s.stage.body s.template.name = (.ok body, stage)) :
    Scene.Offers { s with stage := stage } (body.bind fun _ => .done .null) := by
  have hstage : stage.repertoire = s.stage.repertoire := by
    rw [← s.stage.repertoire_body s.template.name, hlooked]
  refine .body ?_
  rw [hstage]
  exact congrArg Prod.fst hlooked

theorem leaves_answer {α : Type} {P : Scene → Prop} {f : α → Value} {e : Evaluation α}
    (h : Leaves P e) : Leaves P (e.answer f) := by
  cases e with
  | none => exact leaves_none
  | some left => exact leaves_some h.of_some

/-- A relation between two scenes and what happens in between holds across whatever orderly
operations are made of. -/
structure Nested.Follows (nested : Nested) (chronicle : Chronicle)
    (R : Scene → List Occurrence → Scene → Prop) : Prop where
  refl : ∀ s, R s [] s
  trans : ∀ {s s' s'' first second}, R s first s' → R s' second s'' → R s (first ++ second) s''
  canvas : ∀ s (operation : CanvasOperation), operation.isOrderly →
    R s [] (s.setCanvas (operation.perform s.canvas).2)
  assign : ∀ s data, R s [] { s with template := s.template.assign data }
  declare : ∀ s name data, R s [] { s with template := s.template.declare name data }
  note : ∀ s label outcome, R s [] (s.note label outcome)
  print : ∀ {s : Scene} {name f}, s.stage.host.function? name = some f →
    ∀ v, R s [] (s.print (f v).2)
  lookUp : ∀ s, R s [.lookUp s.stage s.template.name]
    { s with stage := (s.stage.body s.template.name).2 }
  fetch : ∀ {s left name data outcome},
    nested.render data ⟨s.stage.engine.make name, s.stage⟩ = some (outcome, left) →
    R s (chronicle.ofFetch name data s) { s with stage := left.stage }
  call : ∀ {s p}, s.Offers p → Leaves (R s (chronicle.call p s)) (nested.call p s)

namespace Nested.Follows

variable {nested : Nested} {chronicle : Chronicle} {R : Scene → List Occurrence → Scene → Prop}

/-! ### Operations -/

theorem write (h : nested.Follows chronicle R) (s : Scene) (text : String) :
    R s [] (s.write text) :=
  h.canvas s (.write text) rfl

theorem onCanvas (h : nested.Follows chronicle R) (s : Scene) {operation : CanvasOperation}
    (ho : operation.isOrderly) : Leaves (R s []) (onCanvas operation s) :=
  leaves_some (h.canvas s operation ho)

theorem writeValue (h : nested.Follows chronicle R) (s : Scene) (v : Value) :
    Leaves (R s []) (writeValue v s) := by
  unfold TemplateEngine.writeValue
  split
  · exact leaves_some (h.refl s)
  · split
    · exact leaves_some (h.refl s)
    · exact leaves_some (h.write s _)

theorem showSection (h : nested.Follows chronicle R) (s : Scene) (name : String)
    (default : Value) : Leaves (R s []) (showSection name default s) := by
  unfold TemplateEngine.showSection
  split
  · exact h.onCanvas s rfl
  · exact h.onCanvas s rfl
  · split
    · exact leaves_some (h.refl s)
    · exact h.onCanvas s rfl

theorem fetchTemplate (h : nested.Follows chronicle R) (s : Scene) (name : String)
    (data : Dictionary Value) :
    Leaves (R s (chronicle.ofFetch name data s)) (fetchTemplate nested name data s) := by
  unfold TemplateEngine.fetchTemplate
  cases hleft : nested.render data ⟨s.stage.engine.make name, s.stage⟩ with
  | none => exact leaves_none
  | some left => exact leaves_some (h.fetch hleft)

theorem callFunction (h : nested.Follows chronicle R) (s : Scene) (name : String)
    (arguments : List Value) (named : Dictionary Value) :
    Leaves (R s (chronicle.ofFunction name arguments named s))
      (callFunction nested name arguments named s) := by
  unfold TemplateEngine.callFunction Chronicle.ofFunction FunctionTable.fetch
  cases hf : s.stage.engine.functions.value? name with
  | none => exact leaves_some (h.refl s)
  | some f => exact h.call (.function hf arguments named)

theorem applyNamed (h : nested.Follows chronicle R) (s : Scene) (name : String) (v : Value) :
    Leaves (R s (chronicle.ofNamed name v s)) (applyNamed nested name v s) := by
  unfold TemplateEngine.applyNamed Chronicle.ofNamed
  by_cases hheld : s.stage.engine.functions.holds name
  · rw [if_pos hheld, if_pos hheld]
    exact h.callFunction s name [v] []
  · rw [if_neg hheld, if_neg hheld]
    cases hfound : s.stage.host.function? name with
    | none => exact leaves_some (h.refl s)
    | some f => exact leaves_some (h.print hfound v)

theorem throughFunctions (h : nested.Follows chronicle R) (s : Scene) (names : List String)
    (v : Value) :
    Leaves (R s (chronicle.ofFunctions nested names v s)) (throughFunctions nested names v s) := by
  induction names generalizing v s with
  | nil => exact leaves_some (h.refl s)
  | cons name rest ih =>
    have hfirst := h.applyNamed s name v
    unfold TemplateEngine.throughFunctions Chronicle.ofFunctions
    rcases hleft : TemplateEngine.applyNamed nested name v s with _ | ⟨fault | v', s'⟩
    · exact leaves_none
    · exact leaves_some (h.trans (hfirst _ _ hleft) (h.refl s'))
    · exact (ih s' v').imp fun _ hrest => h.trans (hfirst _ _ hleft) hrest

theorem batch (h : nested.Follows chronicle R) (s : Scene) (v : Value) (functions : String) :
    Leaves (R s (chronicle.ofBatch nested v functions s)) (batch nested v functions s) := by
  unfold TemplateEngine.batch Chronicle.ofBatch
  cases s.stage.engine.functionNames functions with
  | error fault => exact leaves_some (h.refl s)
  | ok names => exact h.throughFunctions s names v

theorem escape (h : nested.Follows chronicle R) (s : Scene) (v : Value) (functions : String) :
    Leaves (R s (chronicle.ofOperation nested (.escape v functions) s))
      (escape nested v functions s) := by
  unfold TemplateEngine.escape Chronicle.ofOperation
  by_cases hnone : functions = ""
  · simp only [hnone, if_true]
    exact leaves_some (h.refl s)
  · have hbatch := h.batch s v functions
    simp only [hnone, if_false]
    rcases hleft : TemplateEngine.batch nested v functions s with _ | ⟨fault | v', s'⟩
    · exact leaves_none
    · exact leaves_some (hbatch _ _ hleft)
    · exact leaves_some (hbatch _ _ hleft)

theorem insert (h : nested.Follows chronicle R) (s : Scene) (name : String)
    (data : Dictionary Value) (own : Bool) :
    Leaves (R s (chronicle.ofFetch name (s.template.dataFor data own) s))
      (perform nested (.insert name data own) s) := by
  have hfetch := h.fetchTemplate s name (s.template.dataFor data own)
  simp only [TemplateEngine.perform]
  rcases hleft : TemplateEngine.fetchTemplate nested name (s.template.dataFor data own) s with
    _ | ⟨fault | text, s'⟩
  · exact leaves_none
  · exact leaves_some (hfetch _ _ hleft)
  · have hwritten := h.trans (hfetch _ _ hleft) (h.write s' text)
    rw [List.append_nil] at hwritten
    exact leaves_some hwritten

theorem display (h : nested.Follows chronicle R) (s : Scene) :
    Leaves (R s (chronicle.ofBody s)) (perform nested .display s) := by
  have hlookUp := h.lookUp s
  unfold Chronicle.ofBody
  simp only [TemplateEngine.perform]
  rcases hlooked : s.stage.body s.template.name with ⟨fault | body, stage⟩
  · rw [hlooked] at hlookUp
    exact leaves_some hlookUp
  · rw [hlooked] at hlookUp
    exact (h.call (Scene.offers_body hlooked)).imp fun _ hcall => h.trans hlookUp hcall

/-- A relation that holds across what orderly operations are made of holds across each of them. -/
theorem perform (h : nested.Follows chronicle R) {operation : Operation} (ho : operation.isOrderly)
    (s : Scene) :
    Leaves (R s (chronicle.ofOperation nested operation s)) (perform nested operation s) := by
  cases operation with
  | canvas operation => exact h.onCanvas s ho
  | write v => exact h.writeValue s v
  | showSection name default => exact h.showSection s name default
  | data given =>
    cases given with
    | none => exact leaves_some (h.refl s)
    | some given => exact leaves_some (h.assign s given)
  | layout name data => exact leaves_some (h.declare s name data.toOption)
  | layoutName | name | hasFunction _ | exists? | path | state => exact leaves_some (h.refl s)
  | fetch name data own => exact leaves_answer (h.fetchTemplate s name _)
  | insert name data own => exact h.insert s name data own
  | render data => cases ho
  | display => exact h.display s
  | call name arguments named => exact h.callFunction s name arguments named
  | batch v functions => exact h.batch s v functions
  | escape v functions => exact h.escape s v functions
  | observe label outcome => exact leaves_some (h.note s label outcome)

/-- If it also holds across renders of the template itself, and across all that can be done to the
canvas, it holds across every operation. -/
theorem perform_any (h : nested.Follows chronicle R)
    (hcanvas : ∀ s (operation : CanvasOperation),
      R s [] (s.setCanvas (operation.perform s.canvas).2))
    (hrender : ∀ s data, Leaves (R s (chronicle.render data s)) (nested.render data s))
    (operation : Operation) (s : Scene) :
    Leaves (R s (chronicle.ofOperation nested operation s))
      (TemplateEngine.perform nested operation s) := by
  cases operation with
  | canvas operation => exact leaves_some (hcanvas s operation)
  | render data => exact leaves_answer (hrender s data)
  | _ => exact h.perform rfl s

/-! ### Programs -/

variable {α : Type}

/-- What holds across one operation of a program and across what comes after it holds across the
program. -/
theorem run_of_step (h : nested.Follows chronicle R) {operation : Operation}
    {next : Except Fault Value → Program α} {s : Scene}
    (hstep : Leaves (R s (chronicle.ofOperation nested operation s))
      (TemplateEngine.perform nested operation s))
    (hnext : ∀ answer s', Leaves (R s' (chronicle.ofProgram nested (next answer) s'))
      ((next answer).run (TemplateEngine.perform nested) s')) :
    Leaves (R s (chronicle.ofProgram nested (.perform operation next) s))
      ((Program.perform operation next).run (TemplateEngine.perform nested) s) := by
  simp only [Program.run, Chronicle.ofProgram]
  rcases hleft : TemplateEngine.perform nested operation s with _ | ⟨answer, s'⟩
  · exact leaves_none
  · exact (hnext answer s').imp fun _ hrest => h.trans (hstep _ _ hleft) hrest

/-- What holds across orderly operations holds across orderly programs. -/
theorem run (h : nested.Follows chronicle R) {p : Program α} (hp : p.Orderly) (s : Scene) :
    Leaves (R s (chronicle.ofProgram nested p s)) (p.run (TemplateEngine.perform nested) s) := by
  induction p generalizing s with
  | done => exact leaves_some (h.refl s)
  | fail => exact leaves_some (h.refl s)
  | perform operation next ih =>
    exact h.run_of_step (h.perform hp.1 s) fun answer s' => ih answer (hp.2 answer) s'

/-- What holds across every operation holds across every program. -/
theorem run_any (h : nested.Follows chronicle R)
    (hcanvas : ∀ s (operation : CanvasOperation),
      R s [] (s.setCanvas (operation.perform s.canvas).2))
    (hrender : ∀ s data, Leaves (R s (chronicle.render data s)) (nested.render data s))
    (p : Program α) (s : Scene) :
    Leaves (R s (chronicle.ofProgram nested p s)) (p.run (TemplateEngine.perform nested) s) := by
  induction p generalizing s with
  | done => exact leaves_some (h.refl s)
  | fail => exact leaves_some (h.refl s)
  | perform operation next ih => exact h.run_of_step (h.perform_any hcanvas hrender operation s) ih

end Nested.Follows

end TemplateEngine
