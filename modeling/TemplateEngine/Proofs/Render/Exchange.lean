import TemplateEngine.Proofs.Render.Body
import TemplateEngine.Proofs.Render.Chronicle

/-!
# Exchanging the body of one template

If the body of one template is exchanged for one with the same runs, and the path of the template
with it, no render can tell the difference, unless something asks the template for its path. The
renders of the two stages go side by side: their templates and their captures are the same at each
step, and whatever is looked up is the same but for that body. In particular a render depends on
nothing of a stage but its capture and what can be looked up.

## Main definitions

* `SameRuns`: two programs have the same runs.
* `Repertoire.Exchanged`: two repertoires differ in one body, and in the path of its template.
* `Repertoire.Alike`: two repertoires differ in the bodies of templates that are told apart.
* `Scene.Twin`: the same template with the same capture, over the two repertoires.
* `Nested.Exchanges`: nested renders and calls of twins end as twins.

## Main results

* `perform_twins`, `run_twins`: operations and programs of twins end as twins.
* `exchanges_nestedAt`: nested renders and calls of any depth do.
* `Stage.render_congr`: what a render depends on.
-/

namespace TemplateEngine

/-! ### Programs with the same runs -/

/-- Two programs have the same runs, whatever nested renders and calls do. -/
def SameRuns {α : Type} (p q : Program α) : Prop :=
  ∀ (nested : Nested) (s : Scene), p.run (perform nested) s = q.run (perform nested) s

namespace SameRuns

variable {α β : Type} {p q r : Program α}

theorem refl (p : Program α) : SameRuns p p := fun _ _ => rfl

theorem trans (h : SameRuns p q) (h' : SameRuns q r) : SameRuns p r :=
  fun nested s => (h nested s).trans (h' nested s)

/-- Programs with the same runs may be followed by programs with the same runs. -/
theorem bind (h : SameRuns p q) {f g : α → Program β} (hfg : ∀ a, SameRuns (f a) (g a)) :
    SameRuns (p.bind f) (q.bind g) := by
  intro nested s
  rw [Program.run_bind, Program.run_bind, h nested s]
  rcases q.run (perform nested) s with _ | ⟨fault | a, s'⟩
  · rfl
  · rfl
  · exact hfg a nested s'

end SameRuns

/-! ### Repertoires that differ in a body -/

/-- Two repertoires are the same but for the body of one template and its path. The two bodies have
the same runs, and neither the second one nor any function asks for the path of its template. -/
structure Repertoire.Exchanged (name : String) (given changed : Repertoire) : Prop where
  host_eq : changed.host = given.host
  functions_eq : changed.functions = given.functions
  functionNames_eq : changed.functionNames = given.functionNames
  initialData_eq : changed.initialData = given.initialData
  templateExists_eq : changed.templateExists = given.templateExists
  body_eq : ∀ {other}, other ≠ name → changed.body other = given.body other
  templatePath_eq : ∀ {other}, other ≠ name → changed.templatePath other = given.templatePath other
  body : ∃ p q, given.body name = .ok p ∧ changed.body name = .ok q ∧
    SameRuns p q ∧ q.Asks (· ≠ .path)
  function : ∀ {called f}, given.functions.value? called = some f →
    ∀ arguments named, (f.callback arguments named).Asks (· ≠ .path)

/-- Two repertoires are the same but for the bodies of the templates that are told apart, and their
paths. The two bodies of a template have the same runs, and where templates are told apart, neither
the second body nor any function asks for the path of its template. -/
structure Repertoire.Alike (apart : String → Prop) (given changed : Repertoire) : Prop where
  host_eq : changed.host = given.host
  functions_eq : changed.functions = given.functions
  functionNames_eq : changed.functionNames = given.functionNames
  initialData_eq : changed.initialData = given.initialData
  templateExists_eq : changed.templateExists = given.templateExists
  templatePath_eq : ∀ {owner}, ¬ apart owner →
    changed.templatePath owner = given.templatePath owner
  bodies : ∀ owner,
    (∃ fault, given.body owner = .error fault ∧ changed.body owner = .error fault) ∨
      ∃ p q, given.body owner = .ok p ∧ changed.body owner = .ok q ∧
        SameRuns p q ∧ (apart owner → q.Asks (· ≠ .path))
  function : ∀ {owner}, apart owner → ∀ {called f}, given.functions.value? called = some f →
    ∀ arguments named, (f.callback arguments named).Asks (· ≠ .path)

/-- The same body has the same runs. -/
theorem Repertoire.bodies_of_eq {given changed : Repertoire} (apart : String → Prop)
    {owner : String} (hbody : changed.body owner = given.body owner) (howner : ¬ apart owner) :
    (∃ fault, given.body owner = .error fault ∧ changed.body owner = .error fault) ∨
      ∃ p q, given.body owner = .ok p ∧ changed.body owner = .ok q ∧
        SameRuns p q ∧ (apart owner → q.Asks (· ≠ .path)) := by
  rw [hbody]
  cases given.body owner with
  | error fault => exact .inl ⟨fault, rfl, rfl⟩
  | ok p => exact .inr ⟨p, p, rfl, rfl, .refl p, fun h => absurd h howner⟩

/-- A repertoire is like itself, with no template told apart. -/
theorem Repertoire.alike_refl (repertoire : Repertoire) :
    repertoire.Alike (fun _ => False) repertoire where
  host_eq := rfl
  functions_eq := rfl
  functionNames_eq := rfl
  initialData_eq := rfl
  templateExists_eq := rfl
  templatePath_eq _ := rfl
  bodies _ := Repertoire.bodies_of_eq (fun _ => False) rfl not_false
  function howner := howner.elim

/-- If one body was exchanged, its template is told apart. -/
theorem Repertoire.Exchanged.alike {name : String} {given changed : Repertoire}
    (hx : given.Exchanged name changed) : given.Alike (· = name) changed where
  host_eq := hx.host_eq
  functions_eq := hx.functions_eq
  functionNames_eq := hx.functionNames_eq
  initialData_eq := hx.initialData_eq
  templateExists_eq := hx.templateExists_eq
  templatePath_eq hother := hx.templatePath_eq hother
  bodies owner := by
    by_cases hname : owner = name
    · subst hname
      obtain ⟨p, q, hp, hq, hruns, hasks⟩ := hx.body
      exact .inr ⟨p, q, hp, hq, hruns, fun _ => hasks⟩
    · exact Repertoire.bodies_of_eq (· = name) (hx.body_eq hname) hname
  function _ := hx.function

/-- The same template with the same capture and the same printed text, over two repertoires. -/
structure Scene.Twin (given changed : Repertoire) (owner : String) (s t : Scene) : Prop where
  template_eq : t.template = s.template
  name_eq : s.template.name = owner
  capture_eq : t.stage.capture = s.stage.capture
  printed_eq : t.stage.printed = s.stage.printed
  left : s.stage.repertoire = given
  right : t.stage.repertoire = changed

/-- Two evaluations have the same outcome and leave twins, or neither has an outcome. -/
abbrev Twins {α : Type} (given changed : Repertoire) (owner : String) :
    Evaluation α → Evaluation α → Prop :=
  Option.Rel fun left left' => left.1 = left'.1 ∧ left.2.Twin given changed owner left'.2

theorem Twins.cases {α : Type} {given changed : Repertoire} {owner : String} {e e' : Evaluation α}
    (h : Twins given changed owner e e') :
    (e = none ∧ e' = none) ∨ ∃ outcome s t, e = some (outcome, s) ∧ e' = some (outcome, t) ∧
      s.Twin given changed owner t := by
  cases h with
  | none => exact .inl ⟨rfl, rfl⟩
  | some h => exact .inr ⟨_, _, _, rfl, by rw [h.1], h.2⟩

/-- Nested renders of twins end as twins, and so do nested calls of programs with the same runs. -/
structure Nested.Exchanges (apart : String → Prop) (given changed : Repertoire) (nested : Nested) :
    Prop where
  render : ∀ {owner s t} (data : Dictionary Value), s.Twin given changed owner t →
    Twins given changed owner (nested.render data s) (nested.render data t)
  call : ∀ {owner s t p q}, SameRuns p q → (apart owner → q.Asks (· ≠ .path)) →
    s.Twin given changed owner t → Twins given changed owner (nested.call p s) (nested.call q t)

section Operations

variable {apart : String → Prop} {owner : String} {given changed : Repertoire} {nested : Nested}
  {s t : Scene}

/-! ### Twins -/

namespace Scene.Twin

/-- What is done to both, and changes nothing that can be looked up, leaves twins. -/
theorem of_repertoire (h : s.Twin given changed owner t) {s' t' : Scene}
    (htemplate : t'.template = s'.template) (hname : s'.template.name = s.template.name)
    (hcapture : t'.stage.capture = s'.stage.capture)
    (hprinted : t'.stage.printed = s'.stage.printed)
    (hs : s'.stage.repertoire = s.stage.repertoire)
    (ht : t'.stage.repertoire = t.stage.repertoire) : s'.Twin given changed owner t' :=
  ⟨htemplate, hname.trans h.name_eq, hcapture, hprinted, hs.trans h.left, ht.trans h.right⟩

theorem canvas_eq (h : s.Twin given changed owner t) : t.canvas = s.canvas := by
  rw [Scene.canvas, Scene.canvas, h.template_eq, h.capture_eq]

theorem setCanvas (h : s.Twin given changed owner t) (c : Canvas) :
    (s.setCanvas c).Twin given changed owner (t.setCanvas c) := by
  refine h.of_repertoire ?_ rfl rfl h.printed_eq (s.repertoire_setCanvas c)
    (t.repertoire_setCanvas c)
  rw [Scene.setCanvas, Scene.setCanvas, h.template_eq]

theorem write (h : s.Twin given changed owner t) (text : String) :
    (s.write text).Twin given changed owner (t.write text) :=
  h.of_repertoire h.template_eq rfl (congrArg (Capture.write · text) h.capture_eq) h.printed_eq
    (s.repertoire_setCanvas (s.canvas.write text)) (t.repertoire_setCanvas (t.canvas.write text))

theorem print (h : s.Twin given changed owner t) (text : String) :
    (s.print text).Twin given changed owner (t.print text) :=
  h.of_repertoire h.template_eq rfl h.capture_eq (congrArg (· ++ text) h.printed_eq)
    (s.stage.repertoire_print text) (t.stage.repertoire_print text)

/-- Twins stay twins under the same change of the template that keeps its name. -/
theorem mapTemplate (h : s.Twin given changed owner t) (f : Template → Template)
    (hf : (f s.template).name = s.template.name) :
    Scene.Twin given changed owner { s with template := f s.template }
      { t with template := f t.template } :=
  h.of_repertoire (congrArg f h.template_eq) hf h.capture_eq h.printed_eq rfl rfl

/-- Twins stay twins on stages with the same capture and the same printed text that can look up the
same. -/
theorem withStages (h : s.Twin given changed owner t) {stage stage' : Stage}
    (hcapture : stage'.capture = stage.capture) (hprinted : stage'.printed = stage.printed)
    (hs : stage.repertoire = s.stage.repertoire)
    (ht : stage'.repertoire = t.stage.repertoire) :
    Scene.Twin given changed owner { s with stage := stage } { t with stage := stage' } :=
  h.of_repertoire h.template_eq rfl hcapture hprinted hs ht

end Scene.Twin

/-- Freshly made templates on the stages of twins are twins. -/
theorem Repertoire.Alike.twin_make (hx : given.Alike apart changed)
    (h : s.Twin given changed owner t) (made : String) :
    Scene.Twin given changed made ⟨s.stage.engine.make made, s.stage⟩
      ⟨t.stage.engine.make made, t.stage⟩ := by
  have hdata : t.stage.engine.sharedData.forTemplate made =
      s.stage.engine.sharedData.forTemplate made := by
    have hleft := congrFun (congrArg Repertoire.initialData h.left) made
    have hright := congrFun (congrArg Repertoire.initialData h.right) made
    exact hright.trans ((congrFun hx.initialData_eq made).trans hleft.symm)
  refine ⟨?_, rfl, h.capture_eq, h.printed_eq, h.left, h.right⟩
  simp only [Engine.make, hdata]

namespace Scene.Twin

variable (hx : given.Alike apart changed) (h : s.Twin given changed owner t)

include hx h

theorem functions_eq : t.stage.engine.functions = s.stage.engine.functions :=
  ((congrArg Repertoire.functions h.right).trans hx.functions_eq).trans
    (congrArg Repertoire.functions h.left).symm

theorem host_eq : t.stage.host = s.stage.host :=
  ((congrArg Repertoire.host h.right).trans hx.host_eq).trans
    (congrArg Repertoire.host h.left).symm

theorem functionNames_eq : t.stage.engine.functionNames = s.stage.engine.functionNames :=
  ((congrArg Repertoire.functionNames h.right).trans hx.functionNames_eq).trans
    (congrArg Repertoire.functionNames h.left).symm

theorem templateExists_eq : t.stage.templateExists = s.stage.templateExists :=
  ((congrArg Repertoire.templateExists h.right).trans hx.templateExists_eq).trans
    (congrArg Repertoire.templateExists h.left).symm

theorem templatePath_eq (howner : ¬ apart owner) :
    t.stage.templatePath owner = s.stage.templatePath owner :=
  ((congrFun (congrArg Repertoire.templatePath h.right) owner).trans
    (hx.templatePath_eq howner)).trans
    (congrFun (congrArg Repertoire.templatePath h.left) owner).symm

/-- Twins find bodies with the same runs, or the same fault. -/
theorem bodies : (∃ fault, (s.stage.body owner).1 = .error fault ∧
      (t.stage.body owner).1 = .error fault) ∨
    ∃ p q, (s.stage.body owner).1 = .ok p ∧ (t.stage.body owner).1 = .ok q ∧
      SameRuns p q ∧ (apart owner → q.Asks (· ≠ .path)) := by
  have hs : (s.stage.body owner).1 = given.body owner :=
    congrFun (congrArg Repertoire.body h.left) owner
  have ht : (t.stage.body owner).1 = changed.body owner :=
    congrFun (congrArg Repertoire.body h.right) owner
  rw [hs, ht]
  exact hx.bodies owner

/-- Twins look up bodies with the same runs, or the same fault, and stay twins. -/
theorem lookUp : ∃ stage stage',
    Scene.Twin given changed owner { s with stage := stage } { t with stage := stage' } ∧
    ((∃ fault, s.stage.body s.template.name = (.error fault, stage) ∧
        t.stage.body t.template.name = (.error fault, stage')) ∨
      ∃ p q, s.stage.body s.template.name = (.ok p, stage) ∧
        t.stage.body t.template.name = (.ok q, stage') ∧
        SameRuns p q ∧ (apart owner → q.Asks (· ≠ .path))) := by
  have hcapture : (t.stage.body owner).2.capture = (s.stage.body owner).2.capture := by
    rw [s.stage.capture_body, t.stage.capture_body, h.capture_eq]
  have hprinted : (t.stage.body owner).2.printed = (s.stage.body owner).2.printed := by
    rw [s.stage.printed_body, t.stage.printed_body, h.printed_eq]
  refine ⟨(s.stage.body owner).2, (t.stage.body owner).2,
    h.withStages hcapture hprinted (s.stage.repertoire_body owner)
      (t.stage.repertoire_body owner), ?_⟩
  rw [h.template_eq, h.name_eq]
  rcases h.bodies hx with ⟨fault, hs, ht⟩ | ⟨p, q, hs, ht, hruns⟩
  · exact .inl ⟨fault, Prod.ext hs rfl, Prod.ext ht rfl⟩
  · exact .inr ⟨p, q, Prod.ext hs rfl, Prod.ext ht rfl, hruns⟩

end Scene.Twin

/-! ### Operations of a body -/

theorem onCanvas_twins (h : s.Twin given changed owner t) (operation : CanvasOperation) :
    Twins given changed owner (onCanvas operation s) (onCanvas operation t) := by
  unfold onCanvas
  rw [h.canvas_eq]
  exact .some ⟨rfl, h.setCanvas _⟩

theorem writeValue_twins (h : s.Twin given changed owner t) (v : Value) :
    Twins given changed owner (writeValue v s) (writeValue v t) := by
  unfold writeValue
  split
  · exact .some ⟨rfl, h⟩
  · cases v.text with
    | error fault => exact .some ⟨rfl, h⟩
    | ok text => exact .some ⟨rfl, h.write text⟩

theorem showSection_twins (h : s.Twin given changed owner t) (shown : String) (default : Value) :
    Twins given changed owner (showSection shown default s) (showSection shown default t) := by
  unfold showSection
  rw [h.template_eq]
  split
  · exact onCanvas_twins h _
  · exact onCanvas_twins h _
  · split
    · exact .some ⟨rfl, h⟩
    · exact onCanvas_twins h _

theorem fetchTemplate_twins (hx : given.Alike apart changed)
    (hn : nested.Exchanges apart given changed) (h : s.Twin given changed owner t)
    (fetched : String) (data : Dictionary Value) :
    Twins given changed owner (fetchTemplate nested fetched data s)
      (fetchTemplate nested fetched data t) := by
  unfold fetchTemplate
  rcases (hn.render data (hx.twin_make h fetched)).cases with
    ⟨hs, ht⟩ | ⟨outcome, s', t', hs, ht, h'⟩
  · rw [hs, ht]
    exact .none
  · rw [hs, ht]
    exact .some ⟨rfl, h.withStages h'.capture_eq h'.printed_eq (h'.left.trans h.left.symm)
      (h'.right.trans h.right.symm)⟩

theorem callFunction_twins (hx : given.Alike apart changed)
    (hn : nested.Exchanges apart given changed) (h : s.Twin given changed owner t)
    (called : String) (arguments : List Value) (named : Dictionary Value) :
    Twins given changed owner (callFunction nested called arguments named s)
      (callFunction nested called arguments named t) := by
  have hs : s.stage.engine.functions = given.functions := congrArg Repertoire.functions h.left
  unfold callFunction FunctionTable.fetch
  rw [h.functions_eq hx, hs, h.template_eq]
  cases hf : given.functions.value? called with
  | none => exact .some ⟨rfl, h⟩
  | some f =>
    refine hn.call (.refl _) (fun howner => ?_) h
    unfold TemplateFunction.call
    split
    · trivial
    · exact hx.function howner hf _ _

theorem applyNamed_twins (hx : given.Alike apart changed)
    (hn : nested.Exchanges apart given changed) (h : s.Twin given changed owner t)
    (called : String) (v : Value) :
    Twins given changed owner (applyNamed nested called v s) (applyNamed nested called v t) := by
  unfold applyNamed
  rw [h.functions_eq hx, h.host_eq hx]
  split
  · exact callFunction_twins hx hn h called [v] []
  · cases s.stage.host.function? called with
    | none => exact .some ⟨rfl, h⟩
    | some f => exact .some ⟨rfl, h.print _⟩

theorem throughFunctions_twins (hx : given.Alike apart changed)
    (hn : nested.Exchanges apart given changed) (h : s.Twin given changed owner t)
    (names : List String) (v : Value) :
    Twins given changed owner (throughFunctions nested names v s)
      (throughFunctions nested names v t) := by
  induction names generalizing v s t with
  | nil => exact .some ⟨rfl, h⟩
  | cons called rest ih =>
    unfold throughFunctions
    rcases (applyNamed_twins hx hn h called v).cases with ⟨hs, ht⟩ | ⟨outcome, s', t', hs, ht, h'⟩
    · rw [hs, ht]
      exact .none
    · rw [hs, ht]
      cases outcome with
      | error fault => exact .some ⟨rfl, h'⟩
      | ok v' => exact ih h' v'

theorem batch_twins (hx : given.Alike apart changed)
    (hn : nested.Exchanges apart given changed) (h : s.Twin given changed owner t) (v : Value)
    (functions : String) :
    Twins given changed owner (batch nested v functions s) (batch nested v functions t) := by
  unfold batch
  rw [h.functionNames_eq hx]
  cases s.stage.engine.functionNames functions with
  | error fault => exact .some ⟨rfl, h⟩
  | ok names => exact throughFunctions_twins hx hn h names v

theorem escape_twins (hx : given.Alike apart changed)
    (hn : nested.Exchanges apart given changed) (h : s.Twin given changed owner t) (v : Value)
    (functions : String) :
    Twins given changed owner (escape nested v functions s) (escape nested v functions t) := by
  unfold escape
  split
  · exact .some ⟨rfl, h⟩
  · rcases (batch_twins hx hn h v functions).cases with ⟨hs, ht⟩ | ⟨outcome, s', t', hs, ht, h'⟩
    · rw [hs, ht]
      exact .none
    · rw [hs, ht]
      cases outcome with
      | error fault => exact .some ⟨rfl, h'⟩
      | ok v' => exact .some ⟨rfl, h'⟩

theorem insert_twins (hx : given.Alike apart changed)
    (hn : nested.Exchanges apart given changed) (h : s.Twin given changed owner t)
    (inserted : String) (data : Dictionary Value) (own : Bool) :
    Twins given changed owner (perform nested (.insert inserted data own) s)
      (perform nested (.insert inserted data own) t) := by
  simp only [perform, h.template_eq]
  rcases (fetchTemplate_twins hx hn h inserted (s.template.dataFor data own)).cases with
    ⟨hs, ht⟩ | ⟨outcome, s', t', hs, ht, h'⟩
  · rw [hs, ht]
    exact .none
  · rw [hs, ht]
    cases outcome with
    | error fault => exact .some ⟨rfl, h'⟩
    | ok text => exact .some ⟨rfl, h'.write text⟩

/-- An evaluation with another form of answer. -/
theorem Twins.answer {α : Type} {e e' : Evaluation α} (h : Twins given changed owner e e')
    (f : α → Value) : Twins given changed owner (e.answer f) (e'.answer f) := by
  rcases h.cases with ⟨rfl, rfl⟩ | ⟨outcome, s', t', rfl, rfl, h'⟩
  · exact .none
  · exact .some ⟨rfl, h'⟩

theorem perform_display_twins (hx : given.Alike apart changed)
    (hn : nested.Exchanges apart given changed) (h : s.Twin given changed owner t) :
    Twins given changed owner (perform nested .display s) (perform nested .display t) := by
  obtain ⟨stage, stage', htwin, ⟨fault, hs, ht⟩ | ⟨p, q, hs, ht, hruns, hasks⟩⟩ := h.lookUp hx
  · simp only [perform, hs, ht]
    exact .some ⟨rfl, htwin⟩
  · simp only [perform, hs, ht]
    exact hn.call (hruns.bind fun _ => .refl _)
      (fun howner => (hasks howner).bind fun _ => trivial) htwin

/-- Operations of twins have the same answers and leave twins, unless the template is asked for its
path. -/
theorem perform_twins (hx : given.Alike apart changed)
    (hn : nested.Exchanges apart given changed) (h : s.Twin given changed owner t)
    {operation : Operation} (hpath : apart owner → operation ≠ .path) :
    Twins given changed owner (perform nested operation s) (perform nested operation t) := by
  cases operation with
  | canvas operation => exact onCanvas_twins h operation
  | write v => exact writeValue_twins h v
  | showSection shown default => exact showSection_twins h shown default
  | data assigned =>
    cases assigned with
    | none => exact .some ⟨by rw [h.template_eq], h⟩
    | some assigned =>
      exact .some ⟨by rw [h.template_eq], h.mapTemplate (·.assign assigned) rfl⟩
  | layout layout data => exact .some ⟨rfl, h.mapTemplate (·.declare layout data.toOption) rfl⟩
  | layoutName => exact .some ⟨by rw [h.template_eq], h⟩
  | name => exact .some ⟨by rw [h.template_eq], h⟩
  | fetch fetched data own =>
    simp only [perform, h.template_eq]
    exact (fetchTemplate_twins hx hn h fetched _).answer .str
  | insert inserted data own => exact insert_twins hx hn h inserted data own
  | render data => exact (hn.render data h).answer .str
  | display => exact perform_display_twins hx hn h
  | call called arguments named => exact callFunction_twins hx hn h called arguments named
  | hasFunction called => exact .some ⟨by rw [h.functions_eq hx], h⟩
  | batch v functions => exact batch_twins hx hn h v functions
  | escape v functions => exact escape_twins hx hn h v functions
  | exists? => exact .some ⟨by rw [h.template_eq, h.templateExists_eq hx], h⟩
  | path =>
    have howner : ¬ apart owner := fun howner => hpath howner rfl
    exact .some ⟨by rw [h.template_eq, h.name_eq, h.templatePath_eq hx howner], h⟩
  | state => exact .some ⟨by rw [h.template_eq], h⟩
  | observe label outcome =>
    exact .some ⟨rfl, h.of_repertoire h.template_eq rfl h.capture_eq h.printed_eq
      (s.repertoire_note label outcome) (t.repertoire_note label outcome)⟩

end Operations

section Renders

variable {apart : String → Prop} {owner : String} {given changed : Repertoire} {s t : Scene}
  {depth : Nat}

/-! ### Programs and renders -/

/-- Programs with the same runs leave twins of twins, unless the template is asked for its path. -/
theorem run_twins {α : Type} (hx : given.Alike apart changed)
    (hn : (nestedAt depth).Exchanges apart given changed) {p q : Program α}
    (hruns : SameRuns p q) (hasks : apart owner → q.Asks (· ≠ .path))
    (h : s.Twin given changed owner t) :
    Twins given changed owner (p.run (perform (nestedAt depth)) s)
      (q.run (perform (nestedAt depth)) t) := by
  have hq : q.Asks fun operation => apart owner → operation ≠ .path := by
    by_cases howner : apart owner
    · exact (hasks howner).imp fun _ hpath _ => hpath
    · exact q.asks_any.imp fun _ _ hname => absurd hname howner
  rw [hruns (nestedAt depth) s]
  have hstep (operation : Operation) (s t : Scene) (hpath : apart owner → operation ≠ .path)
      (htwin : s.Twin given changed owner t) : Twins given changed owner
        (perform (nestedAt depth) operation s) (perform (nestedAt depth) operation t) :=
    perform_twins hx hn htwin hpath
  exact hq.run_rel hstep h

theorem display_twins (hx : given.Alike apart changed)
    (hn : (nestedAt depth).Exchanges apart given changed) (h : s.Twin given changed owner t) :
    Twins given changed owner (display (nestedAt depth) s) (display (nestedAt depth) t) := by
  obtain ⟨stage, stage', htwin, ⟨fault, hs, ht⟩ | ⟨p, q, hs, ht, hruns, hasks⟩⟩ := h.lookUp hx
  · simp only [display, hs, ht]
    exact .some ⟨rfl, htwin⟩
  · simp only [display, hs, ht]
    exact run_twins hx hn hruns hasks htwin

/-- Ending the bodies of twins has the same outcome and leaves twins. -/
theorem finishBody_twins (h : s.Twin given changed owner t) :
    (finishBody s).1 = (finishBody t).1 ∧
      (finishBody s).2.Twin given changed owner (finishBody t).2 := by
  obtain ⟨template, other⟩ := t
  obtain rfl : template = s.template := h.template_eq
  have hcapture : other.capture = s.stage.capture := h.capture_eq
  unfold finishBody
  cases s.template.store.openName with
  | some opened => exact ⟨rfl, h⟩
  | none =>
    simp only [hcapture]
    exact ⟨trivial, h.withStages rfl h.printed_eq (s.stage.repertoire_withCapture _)
      (other.repertoire_withCapture _)⟩

theorem applyLayout_twins (hx : given.Alike apart changed)
    (hn : (nestedAt depth).Exchanges apart given changed) (h : s.Twin given changed owner t)
    (content : String) :
    Twins given changed owner (applyLayout (nestedAt depth) content s)
      (applyLayout (nestedAt depth) content t) := by
  cases hname : s.template.layoutName with
  | none =>
    have hname' : t.template.layoutName = none := by rw [h.template_eq, hname]
    rw [applyLayout_of_none _ content hname, applyLayout_of_none _ content hname']
    exact .some ⟨rfl, h⟩
  | some layout =>
    have hname' : t.template.layoutName = some layout := by rw [h.template_eq, hname]
    have hmade := hx.twin_make h layout
    have htwin : (s.layoutScene layout content).Twin given changed layout
        (t.layoutScene layout content) := by
      refine hmade.of_repertoire ?_ rfl h.capture_eq h.printed_eq (s.stage.repertoire_emit _)
        (t.stage.repertoire_emit _)
      have hfresh : t.stage.engine.make layout = s.stage.engine.make layout := hmade.template_eq
      simp only [Scene.layoutScene, hfresh, h.template_eq]
    rw [applyLayout_of_some _ content hname, applyLayout_of_some _ content hname', h.template_eq]
    rcases (hn.render s.template.layoutData htwin).cases with
      ⟨hs, ht⟩ | ⟨outcome, s', t', hs, ht, h'⟩
    · rw [hs, ht]
      exact .none
    · rw [hs, ht]
      exact .some ⟨rfl, rfl, h.name_eq, h'.capture_eq, h'.printed_eq, h'.left, h'.right⟩

theorem completeBody_twins (hx : given.Alike apart changed)
    (hn : (nestedAt depth).Exchanges apart given changed) {e e' : Evaluation Unit}
    (h : Twins given changed owner e e') :
    Twins given changed owner (completeBody (nestedAt depth) e)
      (completeBody (nestedAt depth) e') := by
  rcases h.cases with ⟨rfl, rfl⟩ | ⟨fault | _, s', t', rfl, rfl, h'⟩
  · exact .none
  · exact .some ⟨rfl, h'⟩
  · obtain ⟨houtcome, htwin⟩ := finishBody_twins h'
    simp only [completeBody]
    rcases hs : finishBody s' with ⟨outcome, closed⟩
    rcases ht : finishBody t' with ⟨outcome', closed'⟩
    rw [hs, ht] at houtcome htwin
    obtain rfl : outcome = outcome' := houtcome
    cases outcome with
    | error fault => exact .some ⟨rfl, htwin⟩
    | ok content => exact applyLayout_twins hx hn htwin content

/-- Settling the stages of twins leaves twins. -/
theorem settle_twins (h : s.Twin given changed owner t) {left left' : Scene}
    (hleft : left.Twin given changed owner left') (outcome : Except Fault String) :
    (s.settle outcome left).Twin given changed owner (t.settle outcome left') := by
  cases outcome with
  | ok text =>
    exact hleft.withStages hleft.capture_eq hleft.printed_eq left.stage.repertoire_leave
      left'.stage.repertoire_leave
  | error fault =>
    refine hleft.withStages ?_ hleft.printed_eq ?_ ?_
    · change left'.stage.capture.unwind t.stage.capture.depth =
        left.stage.capture.unwind s.stage.capture.depth
      rw [hleft.capture_eq, h.capture_eq]
    · simp [abandon]
    · simp [abandon]

theorem renderWith_twins (hx : given.Alike apart changed)
    (hn : (nestedAt depth).Exchanges apart given changed) (h : s.Twin given changed owner t)
    (data : Dictionary Value) :
    Twins given changed owner (renderWith (nestedAt depth) data s)
      (renderWith (nestedAt depth) data t) := by
  have hopening : (s.opening data).Twin given changed owner (t.opening data) := by
    refine (h.mapTemplate (·.assign data) rfl).withStages ?_ h.printed_eq ?_ ?_
    · change t.stage.capture.openRegion = s.stage.capture.openRegion
      rw [h.capture_eq]
    · exact (Stage.repertoire_openRegion _).trans (s.repertoire_begin data)
    · exact (Stage.repertoire_openRegion _).trans (t.repertoire_begin data)
  rw [renderWith_eq_settle, renderWith_eq_settle]
  rcases (completeBody_twins hx hn (display_twins hx hn hopening)).cases with
    ⟨hs, ht⟩ | ⟨outcome, left, left', hs, ht, hleft⟩
  · rw [hs, ht]
    exact .none
  · rw [hs, ht]
    exact .some ⟨rfl, settle_twins h hleft outcome⟩

/-- Nested renders and calls of twins end as twins, however deep they may nest. -/
theorem exchanges_nestedAt (hx : given.Alike apart changed) (depth : Nat) :
    (nestedAt depth).Exchanges apart given changed := by
  induction depth with
  | zero => exact ⟨fun _ _ => .none, fun _ _ _ => .none⟩
  | succ depth ih =>
    exact ⟨fun data h => renderWith_twins hx ih h data, fun hruns hasks h =>
      run_twins hx ih hruns hasks h⟩

/-- Renders of twins have the same outcome and leave twins. -/
theorem render_twins (hx : given.Alike apart changed) (h : s.Twin given changed owner t)
    (data : Dictionary Value) :
    (s.render data).1 = (t.render data).1 ∧
      (s.render data).2.Twin given changed owner (t.render data).2 := by
  unfold Scene.render
  rw [h.host_eq hx]
  rcases ((exchanges_nestedAt hx s.stage.host.nesting).render data h).cases with
    ⟨hs, ht⟩ | ⟨outcome, left, left', hs, ht, hleft⟩
  · rw [hs, ht]
    exact ⟨rfl, h⟩
  · rw [hs, ht]
    exact ⟨rfl, hleft⟩

/-- A render by name depends on nothing of a stage but its capture and what can be looked up, and
goes on behind what was printed. -/
theorem Stage.render_congr {stage stage' : Stage} (hcapture : stage'.capture = stage.capture)
    (hprinted : stage'.printed = stage.printed)
    (hrepertoire : stage'.repertoire = stage.repertoire) (name : String)
    (data : Dictionary Value) :
    (stage'.render name data).1 = (stage.render name data).1 ∧
      (stage'.render name data).2.written = (stage.render name data).2.written := by
  have hmade : stage'.engine.make name = stage.engine.make name := by
    have hdata := congrFun (congrArg Repertoire.initialData hrepertoire) name
    change stage'.engine.sharedData.forTemplate name =
      stage.engine.sharedData.forTemplate name at hdata
    rw [Engine.make, Engine.make, hdata]
  have htwin : Scene.Twin stage.repertoire stage.repertoire name
      ⟨stage.engine.make name, stage⟩ ⟨stage'.engine.make name, stage'⟩ :=
    ⟨hmade, rfl, hcapture, hprinted, rfl, hrepertoire⟩
  obtain ⟨houtcome, hleft⟩ := render_twins stage.repertoire.alike_refl htwin data
  have hwritten : (Scene.render ⟨stage'.engine.make name, stage'⟩ data).2.stage.written =
      (Scene.render ⟨stage.engine.make name, stage⟩ data).2.stage.written := by
    rw [Stage.written, Stage.written, hleft.capture_eq, hleft.printed_eq]
  exact ⟨houtcome.symm, hwritten⟩

end Renders

end TemplateEngine
