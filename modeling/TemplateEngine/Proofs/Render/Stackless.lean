import TemplateEngine.Proofs.Engine.Repertoire
import TemplateEngine.Proofs.Section.Page
import TemplateEngine.Render

/-!
# Rendering without a capture

Here a render keeps all of its texts itself, on a page of its own, and hands out a text. It knows
nothing but what can be looked up. As before, what is done inside of a body is defined from what
nested renders and calls do, and these are defined by the depth to which they may nest. A deeper
limit changes no outcome that there is.

## Main definitions

* `Draft`: a template in the course of a render, with its page.
* `Stackless`: what nested renders and calls do.
* `Stackless.perform`, `Stackless.renderWith`, `stacklessAt`: operations, renders, nested renders.

## Main results

* `stacklessAt_mono`: an outcome within a depth is the outcome within any larger depth.
-/

namespace TemplateEngine

/-- A template in the course of a render, with its page. -/
structure Draft where
  name : String
  data : Dictionary Value := []
  page : Page := {}
  layoutName : Option String := none
  layoutData : Dictionary Value := []

namespace Draft

/-- The template with the sections of its page. -/
def template (d : Draft) : Template where
  name := d.name
  data := d.data
  store := d.page.store
  layoutName := d.layoutName
  layoutData := d.layoutData

/-- Merges data into that of the template. -/
def assign (d : Draft) (data : Dictionary Value) : Draft := { d with data := d.data.overlay data }

end Draft

namespace Repertoire

/-- A fresh template. -/
def draft (repertoire : Repertoire) (name : String) : Draft :=
  { name, data := repertoire.initialData name }

/-- A fresh layout, with sections taken over and a text as the content section. -/
def layoutDraft (repertoire : Repertoire) (name : String) (sections : Dictionary String)
    (modes : Dictionary SectionMode) (content : String) : Draft where
  name := name
  data := repertoire.initialData name
  page := { sections := sections.put contentSection content, modes := modes }

end Repertoire

/-- What nested renders and calls do. A render hands out a text and nothing else. -/
structure Stackless where
  render : Dictionary Value → Draft → Option (Except Fault String)
  call : Program Value → Draft → Option (Except Fault Value × Draft)

namespace Stackless

variable (repertoire : Repertoire) (nested : Stackless)

/-! ### Operations -/

def onPage (operation : CanvasOperation) (d : Draft) : Option (Except Fault Value × Draft) :=
  (d.page.perform operation).map fun left => (left.1, { d with page := left.2 })

def writeValue (v : Value) (d : Draft) : Except Fault Value × Draft :=
  if v.isNull then (.ok .null, d)
  else match v.text with
    | .error fault => (.error fault, d)
    | .ok text => (.ok .null, { d with page := d.page.write text })

def showSection (name : String) (default : Value) (d : Draft) :
    Option (Except Fault Value × Draft) :=
  match default with
  | .null => onPage (.startSection name none) d
  | .str text => onPage (.startSection name (some text)) d
  | _ =>
    if d.page.hasSection name && d.page.modeOf name ≠ .once then some (.error .wrongType, d)
    else onPage (.startSection name (some "")) d

def callFunction (name : String) (arguments : List Value) (named : Dictionary Value) (d : Draft) :
    Option (Except Fault Value × Draft) :=
  match repertoire.functions.fetch name with
  | .error fault => some (.error fault, d)
  | .ok f => nested.call (f.call (some d.name) arguments named) d

def applyNamed (name : String) (v : Value) (d : Draft) : Option (Except Fault Value × Draft) :=
  if repertoire.functions.holds name then callFunction repertoire nested name [v] [] d
  else match repertoire.host.function? name with
    | none => some (.error (.unknownBatchFunction name), d)
    | some f => some ((f v).1, d)

def throughFunctions : List String → Value → Draft → Option (Except Fault Value × Draft)
  | [], v, d => some (.ok v, d)
  | name :: rest, v, d =>
    match applyNamed repertoire nested name v d with
    | none => none
    | some (.error fault, d') => some (.error fault, d')
    | some (.ok v', d') => throughFunctions rest v' d'

def batch (v : Value) (functions : String) (d : Draft) : Option (Except Fault Value × Draft) :=
  match repertoire.functionNames functions with
  | .error fault => some (.error fault, d)
  | .ok names => throughFunctions repertoire nested names v d

def escape (v : Value) (functions : String) (d : Draft) : Option (Except Fault Value × Draft) :=
  if functions = "" then some ((escapeValue {} v).map .str, d)
  else match batch repertoire nested v functions d with
    | none => none
    | some (.error fault, d') => some (.error fault, d')
    | some (.ok v', d') => some ((escapeValue {} v').map .str, d')

/-- What an operation of a body does. Rendering the template anew has no meaning here. -/
def perform (operation : Operation) (d : Draft) : Option (Except Fault Value × Draft) :=
  match operation with
  | .canvas operation => onPage operation d
  | .write v => some (writeValue v d)
  | .showSection name default => showSection name default d
  | .data none => some (.ok (.dict d.data), d)
  | .data (some given) => some (.ok (.dict (d.data.overlay given)), d.assign given)
  | .layout name data =>
    some (data.map fun _ => .null,
      { d with layoutName := name, layoutData := data.toOption.elim d.layoutData d.data.overlay })
  | .layoutName => some (.ok (.ofText? d.layoutName), d)
  | .name => some (.ok (.str d.name), d)
  | .fetch name data own =>
    (nested.render (d.template.dataFor data own) (repertoire.draft name)).map fun fetched =>
      (fetched.map .str, d)
  | .insert name data own =>
    (nested.render (d.template.dataFor data own) (repertoire.draft name)).map fun
      | .error fault => (.error fault, d)
      | .ok text => (.ok .null, { d with page := d.page.write text })
  | .render _ => none
  | .display =>
    match repertoire.body d.name with
    | .error fault => some (.error fault, d)
    | .ok body => nested.call (body.bind fun _ => .done .null) d
  | .call name arguments named => callFunction repertoire nested name arguments named d
  | .hasFunction name => some (.ok (.bool (repertoire.functions.holds name)), d)
  | .batch v functions => batch repertoire nested v functions d
  | .escape v functions => escape repertoire nested v functions d
  | .exists? => some ((repertoire.templateExists d.name).map .bool, d)
  | .path => some ((repertoire.templatePath d.name).map fun p => p.elim .null .path, d)
  | .state => some (.ok d.template.state, d)
  | .observe _ _ => some (.ok .null, d)

/-! ### Renders -/

/-- What a render hands out when its body has ended. -/
def finish (d : Draft) : Option (Except Fault String) :=
  match d.page.current, d.layoutName with
  | some o, _ => some (.error (.unclosedSection o.name))
  | none, none => some (.ok d.page.output)
  | none, some name =>
    nested.render d.layoutData
      (repertoire.layoutDraft name d.page.sections d.page.modes d.page.output)

/-- Runs the body of a template, and the layout that it declared. -/
def renderBody (d : Draft) : Option (Except Fault String) :=
  match repertoire.body d.name with
  | .error fault => some (.error fault)
  | .ok body =>
    match body.run (perform repertoire nested) d with
    | none => none
    | some (.error fault, _) => some (.error fault)
    | some (.ok _, d') => finish repertoire nested d'

/-- Renders a template with data merged into its own. -/
def renderWith (data : Dictionary Value) (d : Draft) : Option (Except Fault String) :=
  renderBody repertoire nested (d.assign data)

end Stackless

/-- Renders and calls that nest up to a given depth. -/
def stacklessAt (repertoire : Repertoire) : Nat → Stackless
  | 0 => ⟨fun _ _ => none, fun _ _ => none⟩
  | depth + 1 =>
    { render := Stackless.renderWith repertoire (stacklessAt repertoire depth)
      call := fun p d => p.run (Stackless.perform repertoire (stacklessAt repertoire depth)) d }

/-! ### A deeper limit -/

/-- There is no outcome yet, or there is the same one. -/
def Approximates {α : Type} (left left' : Option α) : Prop := left = none ∨ left = left'

theorem Approximates.eq_some {α : Type} {left left' : Option α} {a : α}
    (h : Approximates left left') (ha : left = some a) : left' = some a := by
  rcases h with h | h
  · simp [ha] at h
  · rw [← h, ha]

theorem approximates_rfl {α : Type} (left : Option α) : Approximates left left := .inr rfl

theorem Approximates.map {α β : Type} {left left' : Option α} (h : Approximates left left')
    (f : α → β) : Approximates (left.map f) (left'.map f) := by
  rcases h with rfl | rfl
  · exact .inl rfl
  · exact .inr rfl

/-- If operations have the same outcomes or none yet, so have runs of programs. -/
theorem Program.run_approximates {α σ : Type}
    {handle handle' : Operation → σ → Option (Except Fault Value × σ)}
    (h : ∀ operation s, Approximates (handle operation s) (handle' operation s)) (p : Program α)
    (s : σ) : Approximates (p.run handle s) (p.run handle' s) := by
  induction p generalizing s with
  | done => exact approximates_rfl _
  | fail => exact approximates_rfl _
  | perform operation next ih =>
    simp only [run]
    rcases h operation s with hnone | hsame
    · rw [hnone]
      exact .inl rfl
    · rw [hsame]
      cases handle' operation s with
      | none => exact .inl rfl
      | some answered => exact ih answered.1 answered.2

namespace Stackless

variable (repertoire : Repertoire) {nested nested' : Stackless}

/-- Nested renders and calls have the same outcomes or none yet. -/
structure Below (nested nested' : Stackless) : Prop where
  render : ∀ data d, Approximates (nested.render data d) (nested'.render data d)
  call : ∀ p d, Approximates (nested.call p d) (nested'.call p d)

theorem Below.callFunction (h : nested.Below nested') (name : String) (arguments : List Value)
    (named : Dictionary Value) (d : Draft) :
    Approximates (callFunction repertoire nested name arguments named d)
      (callFunction repertoire nested' name arguments named d) := by
  unfold Stackless.callFunction
  split
  · exact approximates_rfl _
  · exact h.call _ d

theorem Below.applyNamed (h : nested.Below nested') (name : String) (v : Value) (d : Draft) :
    Approximates (applyNamed repertoire nested name v d)
      (applyNamed repertoire nested' name v d) := by
  unfold Stackless.applyNamed
  split
  · exact h.callFunction repertoire name [v] [] d
  · exact approximates_rfl _

theorem Below.throughFunctions (h : nested.Below nested') (names : List String) (v : Value)
    (d : Draft) :
    Approximates (throughFunctions repertoire nested names v d)
      (throughFunctions repertoire nested' names v d) := by
  induction names generalizing v d with
  | nil => exact approximates_rfl _
  | cons name rest ih =>
    unfold Stackless.throughFunctions
    rcases h.applyNamed repertoire name v d with hnone | hsame
    · rw [hnone]
      exact .inl rfl
    · rw [hsame]
      rcases Stackless.applyNamed repertoire nested' name v d with _ | ⟨fault | v', d'⟩
      · exact .inl rfl
      · exact approximates_rfl _
      · exact ih v' d'

theorem Below.batch (h : nested.Below nested') (v : Value) (functions : String) (d : Draft) :
    Approximates (batch repertoire nested v functions d)
      (batch repertoire nested' v functions d) := by
  unfold Stackless.batch
  split
  · exact approximates_rfl _
  · exact h.throughFunctions repertoire _ v d

theorem Below.escape (h : nested.Below nested') (v : Value) (functions : String) (d : Draft) :
    Approximates (escape repertoire nested v functions d)
      (escape repertoire nested' v functions d) := by
  unfold Stackless.escape
  split
  · exact approximates_rfl _
  · rcases h.batch repertoire v functions d with hnone | hsame
    · rw [hnone]
      exact .inl rfl
    · rw [hsame]
      exact approximates_rfl _

theorem Below.perform (h : nested.Below nested') (operation : Operation) (d : Draft) :
    Approximates (perform repertoire nested operation d)
      (perform repertoire nested' operation d) := by
  cases operation with
  | fetch name data own => exact (h.render _ _).map _
  | insert name data own => exact (h.render _ _).map _
  | display =>
    simp only [Stackless.perform]
    split
    · exact approximates_rfl _
    · exact h.call _ d
  | call name arguments named => exact h.callFunction repertoire name arguments named d
  | batch v functions => exact h.batch repertoire v functions d
  | escape v functions => exact h.escape repertoire v functions d
  | data given => cases given <;> exact approximates_rfl _
  | canvas _ | write _ | showSection _ _ | layout _ _ | layoutName | name | render _ =>
    exact approximates_rfl _
  | hasFunction _ | exists? | path | state | observe _ _ => exact approximates_rfl _

theorem Below.finish (h : nested.Below nested') (d : Draft) :
    Approximates (finish repertoire nested d) (finish repertoire nested' d) := by
  unfold Stackless.finish
  split
  · exact approximates_rfl _
  · exact approximates_rfl _
  · exact h.render _ _

theorem Below.renderBody (h : nested.Below nested') (d : Draft) :
    Approximates (renderBody repertoire nested d) (renderBody repertoire nested' d) := by
  unfold Stackless.renderBody
  split
  · exact approximates_rfl _
  · next body _ =>
    rcases Program.run_approximates (h.perform repertoire) body d with hnone | hsame
    · rw [hnone]
      exact .inl rfl
    · rw [hsame]
      rcases body.run (Stackless.perform repertoire nested') d with _ | ⟨fault | ended, d'⟩
      · exact .inl rfl
      · exact approximates_rfl _
      · exact h.finish repertoire d'

end Stackless

theorem stacklessAt_below_succ (repertoire : Repertoire) (depth : Nat) :
    (stacklessAt repertoire depth).Below (stacklessAt repertoire (depth + 1)) := by
  -- Within depth zero nothing has an outcome, and that approximates every outcome.
  induction depth with
  | zero => exact ⟨fun _ _ => .inl rfl, fun _ _ => .inl rfl⟩
  | succ depth ih =>
    exact ⟨fun data d => ih.renderBody repertoire (d.assign data),
      fun p d => Program.run_approximates (ih.perform repertoire) p d⟩

/-- An outcome within a depth is the outcome within any larger depth. -/
theorem stacklessAt_mono {repertoire : Repertoire} {depth depth' : Nat} (hle : depth ≤ depth')
    {data : Dictionary Value} {d : Draft} {outcome : Except Fault String}
    (h : (stacklessAt repertoire depth).render data d = some outcome) :
    (stacklessAt repertoire depth').render data d = some outcome := by
  induction hle with
  | refl => exact h
  | step _ ih => exact ((stacklessAt_below_succ repertoire _).render data d).eq_some ih

end TemplateEngine
