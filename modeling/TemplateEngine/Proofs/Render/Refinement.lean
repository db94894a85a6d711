import TemplateEngine.Proofs.Render.Frame
import TemplateEngine.Proofs.Render.Stackless

/-!
# The capture can be done without

While a body runs, the capture is the one at its start with the texts of its page on top: the
output, and above it the text of the open section if that was not skipped. Every operation keeps
this relation, so a render over any capture has the outcome that it has without one.

## Main definitions

* `Scene.Shows`: a scene shows a draft over a capture.
* `Nested.Refines`: nested renders and calls have the outcomes that they have without a capture.

## Main results

* `perform_agrees`: operations have the same answers and keep the relation.
* `refines_nestedAt`: nested renders of any depth have the same outcomes.
-/

namespace TemplateEngine

/-- A scene shows a draft: the templates are the same, and the capture is a given one with the
texts of the page on top. -/
structure Scene.Shows (base : Capture) (repertoire : Repertoire) (s : Scene) (d : Draft) :
    Prop where
  template_eq : s.template = d.template
  capture_eq : s.stage.capture = d.page.capture base
  repertoire_eq : s.stage.repertoire = repertoire
  wellFormed : d.page.WellFormed

/-- Two evaluations have the same outcome and leave a scene and a draft that it shows, or neither
has an outcome. -/
abbrev Agree {α : Type} (base : Capture) (repertoire : Repertoire) :
    Evaluation α → Option (Except Fault α × Draft) → Prop :=
  Option.Rel fun left left' => left.1 = left'.1 ∧ left.2.Shows base repertoire left'.2

theorem Agree.cases {α : Type} {base : Capture} {repertoire : Repertoire} {e : Evaluation α}
    {e' : Option (Except Fault α × Draft)} (h : Agree base repertoire e e') :
    (e = none ∧ e' = none) ∨ ∃ outcome s d, e = some (outcome, s) ∧ e' = some (outcome, d) ∧
      s.Shows base repertoire d := by
  cases h with
  | none => exact .inl ⟨rfl, rfl⟩
  | some h => exact .inr ⟨_, _, _, rfl, by rw [h.1], h.2⟩

/-- A page that nothing was written to and no section of which is open. -/
structure Page.IsBlank (p : Page) : Prop where
  current_eq : p.current = none
  output_eq : p.output = ""
  content_mode : p.modes.value? contentSection = none

/-- Nested renders and calls have the outcomes that they have without a capture. -/
structure Nested.Refines (repertoire : Repertoire) (nested : Nested) (nested' : Stackless) :
    Prop where
  keeps : nested.KeepsCapture repertoire
  render : ∀ {s : Scene} {d : Draft} (data : Dictionary Value), s.template = d.template →
    d.page.IsBlank → s.stage.repertoire = repertoire →
    (nested.render data s).map Prod.fst = nested'.render data d
  call : ∀ {p : Program Value} {base : Capture} {s : Scene} {d : Draft}, p.Orderly →
    s.Shows base repertoire d → Agree base repertoire (nested.call p s) (nested'.call p d)

section Operations

variable {nested : Nested} {nested' : Stackless} {repertoire : Repertoire} {base : Capture}
  {s : Scene} {d : Draft}

/-! ### Operations of a body -/

theorem Scene.Shows.canvas_eq (h : s.Shows base repertoire d) : s.canvas = d.page.canvas base := by
  rw [Scene.canvas, h.template_eq, h.capture_eq]
  rfl

theorem Scene.Shows.setCanvas (h : s.Shows base repertoire d) {p : Page} (hp : p.WellFormed) :
    (s.setCanvas (p.canvas base)).Shows base repertoire { d with page := p } := by
  refine ⟨?_, rfl, (s.repertoire_setCanvas _).trans h.repertoire_eq, hp⟩
  simp only [Scene.setCanvas, h.template_eq]
  rfl

theorem Scene.Shows.write (h : s.Shows base repertoire d) (text : String) :
    (s.write text).Shows base repertoire { d with page := d.page.write text } := by
  have hshows := h.setCanvas (h.wellFormed.write text)
  rw [← Page.canvas_write, ← h.canvas_eq] at hshows
  exact hshows

theorem Scene.Shows.print (h : s.Shows base repertoire d) (text : String) :
    (s.print text).Shows base repertoire d :=
  ⟨h.template_eq, h.capture_eq, (s.stage.repertoire_print text).trans h.repertoire_eq,
    h.wellFormed⟩

theorem onCanvas_agrees {operation : CanvasOperation} (ho : operation.isOrderly)
    (h : s.Shows base repertoire d) :
    Agree base repertoire (onCanvas operation s) (Stackless.onPage operation d) := by
  obtain ⟨left, hleft, hcanvas, hwell⟩ := Page.perform_canvas h.wellFormed base ho
  rw [Stackless.onPage, hleft, onCanvas, h.canvas_eq, hcanvas]
  exact .some ⟨rfl, h.setCanvas hwell⟩

theorem writeValue_agrees (v : Value) (h : s.Shows base repertoire d) :
    Agree base repertoire (writeValue v s) (some (Stackless.writeValue v d)) := by
  unfold writeValue Stackless.writeValue
  split
  · exact .some ⟨rfl, h⟩
  · cases v.text with
    | error fault => exact .some ⟨rfl, h⟩
    | ok text => exact .some ⟨rfl, h.write text⟩

theorem showSection_agrees (name : String) (default : Value) (h : s.Shows base repertoire d) :
    Agree base repertoire (showSection name default s) (Stackless.showSection name default d) := by
  have hstore : s.template.store = d.page.store := congrArg Template.store h.template_eq
  have hhas : s.template.store.hasSection name = d.page.hasSection name := by rw [hstore]; rfl
  have hmode : s.template.store.modeOf name = d.page.modeOf name := by rw [hstore]; rfl
  have hneither : Agree base repertoire
      (if s.template.store.hasSection name && s.template.store.modeOf name ≠ .once then
        some (.error .wrongType, s) else onCanvas (.startSection name (some "")) s)
      (if d.page.hasSection name && d.page.modeOf name ≠ .once then some (.error .wrongType, d)
        else Stackless.onPage (.startSection name (some "")) d) := by
    rw [hhas, hmode]
    by_cases hshown : (d.page.hasSection name && decide (d.page.modeOf name ≠ .once)) = true
    · rw [if_pos hshown, if_pos hshown]
      exact .some ⟨rfl, h⟩
    · rw [if_neg hshown, if_neg hshown]
      exact onCanvas_agrees rfl h
  have hshow (text? : Option String) : (CanvasOperation.startSection name text?).isOrderly := rfl
  cases default with
  | null => exact onCanvas_agrees (hshow none) h
  | str text => exact onCanvas_agrees (hshow (some text)) h
  | _ => exact hneither

/-- A freshly made template shows a fresh draft. -/
theorem make_eq {stage : Stage} (hs : stage.repertoire = repertoire) (name : String) :
    stage.engine.make name = (repertoire.draft name).template := by
  rw [← hs]
  rfl

theorem isBlank_draft (repertoire : Repertoire) (name : String) :
    (repertoire.draft name).page.IsBlank := ⟨rfl, rfl, rfl⟩

/-- Fetching a template has the outcome that it has without a capture. -/
theorem fetchTemplate_map_fst (hn : nested.Refines repertoire nested')
    (hs : s.stage.repertoire = repertoire) (name : String) (data : Dictionary Value) :
    (fetchTemplate nested name data s).map Prod.fst =
      nested'.render data (repertoire.draft name) := by
  rw [← hn.render (s := ⟨s.stage.engine.make name, s.stage⟩) data (make_eq hs name)
    (isBlank_draft repertoire name) hs]
  unfold fetchTemplate
  cases nested.render data ⟨s.stage.engine.make name, s.stage⟩ <;> rfl

/-- Fetching a template has the outcome that it has without a capture, and the body that asked for
it goes on with the same draft. -/
theorem fetchTemplate_cases (hn : nested.Refines repertoire nested')
    (h : s.Shows base repertoire d) (name : String) (data : Dictionary Value) :
    (fetchTemplate nested name data s = none ∧
        nested'.render data (repertoire.draft name) = none) ∨
      ∃ outcome s', fetchTemplate nested name data s = some (outcome, s') ∧
        nested'.render data (repertoire.draft name) = some outcome ∧
        s'.Shows base repertoire d := by
  have hframe := fetchTemplate_frame hn.keeps h.repertoire_eq name data
  have hfst := fetchTemplate_map_fst hn h.repertoire_eq name data
  rcases hleft : fetchTemplate nested name data s with _ | ⟨outcome, s'⟩
  · rw [hleft] at hfst
    exact .inl ⟨rfl, hfst.symm⟩
  · rw [hleft] at hfst
    obtain ⟨htemplate, hkeeps⟩ := hframe _ _ hleft
    exact .inr ⟨outcome, s', rfl, hfst.symm, htemplate.trans h.template_eq,
      hkeeps.capture_eq.trans h.capture_eq, hkeeps.repertoire_eq, h.wellFormed⟩

theorem callFunction_agrees (hn : nested.Refines repertoire nested') (hr : repertoire.Orderly)
    (h : s.Shows base repertoire d) (name : String) (arguments : List Value)
    (named : Dictionary Value) :
    Agree base repertoire (callFunction nested name arguments named s)
      (Stackless.callFunction repertoire nested' name arguments named d) := by
  have hfunctions : s.stage.engine.functions = repertoire.functions :=
    congrArg Repertoire.functions h.repertoire_eq
  have hname : s.template.name = d.name := congrArg Template.name h.template_eq
  unfold callFunction Stackless.callFunction FunctionTable.fetch
  rw [hfunctions, hname]
  cases hf : repertoire.functions.value? name with
  | none => exact .some ⟨rfl, h⟩
  | some f => exact hn.call (hr.call hf _ _ _) h

theorem applyNamed_agrees (hn : nested.Refines repertoire nested') (hr : repertoire.Orderly)
    (h : s.Shows base repertoire d) (name : String) (v : Value) :
    Agree base repertoire (applyNamed nested name v s)
      (Stackless.applyNamed repertoire nested' name v d) := by
  have hfunctions : s.stage.engine.functions = repertoire.functions :=
    congrArg Repertoire.functions h.repertoire_eq
  have hhost : s.stage.host = repertoire.host := congrArg Repertoire.host h.repertoire_eq
  unfold applyNamed Stackless.applyNamed
  rw [hfunctions, hhost]
  by_cases hholds : repertoire.functions.holds name = true
  · rw [if_pos hholds, if_pos hholds]
    exact callFunction_agrees hn hr h name [v] []
  · rw [if_neg hholds, if_neg hholds]
    cases repertoire.host.function? name with
    | none => exact .some ⟨rfl, h⟩
    | some f => exact .some ⟨rfl, h.print _⟩

theorem throughFunctions_agrees (hn : nested.Refines repertoire nested') (hr : repertoire.Orderly)
    (names : List String) (v : Value) (h : s.Shows base repertoire d) :
    Agree base repertoire (throughFunctions nested names v s)
      (Stackless.throughFunctions repertoire nested' names v d) := by
  induction names generalizing v s d with
  | nil => exact .some ⟨rfl, h⟩
  | cons name rest ih =>
    unfold throughFunctions Stackless.throughFunctions
    rcases (applyNamed_agrees hn hr h name v).cases with ⟨hs, hd⟩ | ⟨outcome, s', d', hs, hd, h'⟩
    · rw [hs, hd]
      exact .none
    · rw [hs, hd]
      cases outcome with
      | error fault => exact .some ⟨rfl, h'⟩
      | ok v' => exact ih v' h'

theorem batch_agrees (hn : nested.Refines repertoire nested') (hr : repertoire.Orderly)
    (h : s.Shows base repertoire d) (v : Value) (functions : String) :
    Agree base repertoire (batch nested v functions s)
      (Stackless.batch repertoire nested' v functions d) := by
  have hnames : s.stage.engine.functionNames = repertoire.functionNames :=
    congrArg Repertoire.functionNames h.repertoire_eq
  unfold batch Stackless.batch
  rw [hnames]
  cases repertoire.functionNames functions with
  | error fault => exact .some ⟨rfl, h⟩
  | ok names => exact throughFunctions_agrees hn hr names v h

theorem escape_agrees (hn : nested.Refines repertoire nested') (hr : repertoire.Orderly)
    (h : s.Shows base repertoire d) (v : Value) (functions : String) :
    Agree base repertoire (escape nested v functions s)
      (Stackless.escape repertoire nested' v functions d) := by
  unfold escape Stackless.escape
  split
  · exact .some ⟨rfl, h⟩
  · rcases (batch_agrees hn hr h v functions).cases with
      ⟨hs, hd⟩ | ⟨outcome, s', d', hs, hd, h'⟩
    · rw [hs, hd]
      exact .none
    · rw [hs, hd]
      cases outcome with
      | error fault => exact .some ⟨rfl, h'⟩
      | ok v' => exact .some ⟨rfl, h'⟩

/-- A change of the template that leaves its sections is a change of the draft. -/
theorem Scene.Shows.withTemplate (h : s.Shows base repertoire d) {t : Template} {d' : Draft}
    (htemplate : t = d'.template) (hpage : d'.page = d.page) :
    Scene.Shows base repertoire ⟨t, s.stage⟩ d' :=
  ⟨htemplate, by rw [hpage]; exact h.capture_eq, h.repertoire_eq, by rw [hpage]; exact h.wellFormed⟩

/-- The body that is looked up is that of the repertoire, and the scene shows the same draft. -/
theorem Scene.Shows.body_found (h : s.Shows base repertoire d) :
    ∃ stage, s.stage.body s.template.name = (repertoire.body d.name, stage) ∧
      Scene.Shows base repertoire { s with stage := stage } d := by
  have hfound : (s.stage.body s.template.name).1 = repertoire.body d.name := by
    rw [h.template_eq, ← h.repertoire_eq]
    rfl
  refine ⟨(s.stage.body s.template.name).2, by rw [← hfound], h.template_eq,
    (s.stage.capture_body _).trans h.capture_eq,
    (s.stage.repertoire_body _).trans h.repertoire_eq, h.wellFormed⟩

theorem display_agrees (hn : nested.Refines repertoire nested') (hr : repertoire.Orderly)
    (h : s.Shows base repertoire d) :
    Agree base repertoire (perform nested .display s)
      (Stackless.perform repertoire nested' .display d) := by
  obtain ⟨stage, hlooked, hshows⟩ := h.body_found
  simp only [perform, Stackless.perform, hlooked]
  cases hbody : repertoire.body d.name with
  | error fault => exact .some ⟨rfl, hshows⟩
  | ok body => exact hn.call ((hr.body hbody).bind fun _ => trivial) hshows

theorem fetch_agrees (hn : nested.Refines repertoire nested') (h : s.Shows base repertoire d)
    (name : String) (data : Dictionary Value) (own : Bool) :
    Agree base repertoire (perform nested (.fetch name data own) s)
      (Stackless.perform repertoire nested' (.fetch name data own) d) := by
  have hfetch := fetchTemplate_cases hn h name (s.template.dataFor data own)
  simp only [perform, Stackless.perform, ← h.template_eq]
  rcases hfetch with ⟨hs, hd⟩ | ⟨outcome, s', hs, hd, h'⟩
  · rw [hs, hd]
    exact .none
  · rw [hs, hd]
    exact .some ⟨rfl, h'⟩

theorem insert_agrees (hn : nested.Refines repertoire nested') (h : s.Shows base repertoire d)
    (name : String) (data : Dictionary Value) (own : Bool) :
    Agree base repertoire (perform nested (.insert name data own) s)
      (Stackless.perform repertoire nested' (.insert name data own) d) := by
  have hfetch := fetchTemplate_cases hn h name (s.template.dataFor data own)
  simp only [perform, Stackless.perform, ← h.template_eq]
  rcases hfetch with ⟨hs, hd⟩ | ⟨outcome, s', hs, hd, h'⟩
  · rw [hs, hd]
    exact .none
  · rw [hs, hd]
    cases outcome with
    | error fault => exact .some ⟨rfl, h'⟩
    | ok text => exact .some ⟨rfl, h'.write text⟩

/-- Operations have the same answers, and a scene that shows a draft before shows it after. -/
theorem perform_agrees (hn : nested.Refines repertoire nested') (hr : repertoire.Orderly)
    {operation : Operation} (ho : operation.isOrderly) (h : s.Shows base repertoire d) :
    Agree base repertoire (perform nested operation s)
      (Stackless.perform repertoire nested' operation d) := by
  cases operation with
  | canvas operation => exact onCanvas_agrees ho h
  | write v => exact writeValue_agrees v h
  | showSection name default => exact showSection_agrees name default h
  | data given =>
    cases given with
    | none => exact .some ⟨by rw [h.template_eq]; rfl, h⟩
    | some given =>
      exact .some ⟨by rw [h.template_eq]; rfl, h.withTemplate (by rw [h.template_eq]; rfl) rfl⟩
  | layout name data =>
    exact .some ⟨rfl, h.withTemplate (by rw [h.template_eq]; rfl) rfl⟩
  | layoutName => exact .some ⟨by rw [h.template_eq]; rfl, h⟩
  | name => exact .some ⟨by rw [h.template_eq]; rfl, h⟩
  | fetch name data own => exact fetch_agrees hn h name data own
  | insert name data own => exact insert_agrees hn h name data own
  | render data => cases ho
  | display => exact display_agrees hn hr h
  | call name arguments named => exact callFunction_agrees hn hr h name arguments named
  | hasFunction name => exact .some ⟨by rw [← h.repertoire_eq]; rfl, h⟩
  | batch v functions => exact batch_agrees hn hr h v functions
  | escape v functions => exact escape_agrees hn hr h v functions
  | exists? => exact .some ⟨by rw [← h.repertoire_eq, h.template_eq]; rfl, h⟩
  | path => exact .some ⟨by rw [← h.repertoire_eq, h.template_eq]; rfl, h⟩
  | state => exact .some ⟨by rw [h.template_eq], h⟩
  | observe label outcome =>
    exact .some ⟨rfl, h.template_eq, h.capture_eq,
      (s.repertoire_note label outcome).trans h.repertoire_eq, h.wellFormed⟩

/-- Runs of orderly programs have the same outcomes with and without a capture. -/
theorem run_agrees {α : Type} (hn : nested.Refines repertoire nested') (hr : repertoire.Orderly)
    {p : Program α} (hp : p.Orderly) (h : s.Shows base repertoire d) :
    Agree base repertoire (p.run (perform nested) s)
      (p.run (Stackless.perform repertoire nested') d) :=
  hp.run_rel (fun _ _ _ ho => perform_agrees hn hr ho) h

end Operations

section Renders

variable {nested : Nested} {nested' : Stackless} {repertoire : Repertoire} {s : Scene} {d : Draft}

/-! ### Renders -/

/-- When the region of a body has just been opened, the scene shows a draft with a blank page. -/
theorem shows_openRegion (htemplate : s.template = d.template) (hd : d.page.IsBlank)
    (hs : s.stage.repertoire = repertoire) :
    Scene.Shows s.stage.capture.openRegion repertoire { s with stage := s.stage.openRegion } d := by
  refine ⟨htemplate, ?_, (s.stage.repertoire_openRegion).trans hs, ?_⟩
  · simp [Page.capture, hd.current_eq, hd.output_eq, Stage.openRegion]
  · exact ⟨by simp [hd.current_eq], by simp [hd.current_eq], hd.content_mode⟩

/-- A layout has the outcome that it has without a capture. -/
theorem applyLayout_map_fst (hn : nested.Refines repertoire nested')
    (hs : s.stage.repertoire = repertoire) {name : String}
    (hname : s.template.layoutName = some name)
    (hcontent : s.template.store.modes.value? contentSection = none) (content : String) :
    (applyLayout nested content s).map Prod.fst =
      nested'.render s.template.layoutData (repertoire.layoutDraft name s.template.store.sections
        s.template.store.modes content) := by
  have hscene : (s.layoutScene name content).template = (repertoire.layoutDraft name
      s.template.store.sections s.template.store.modes content).template := by
    rw [Scene.layoutScene, ← hs]
    rfl
  rw [applyLayout_of_some _ _ hname, Option.map_map]
  exact hn.render (s := s.layoutScene name content) s.template.layoutData hscene
    ⟨rfl, rfl, hcontent⟩ ((s.stage.repertoire_emit _).trans hs)

/-- What a render hands out, once its body has ended with no section open. -/
theorem applyLayout_agrees (hn : nested.Refines repertoire nested')
    (htemplate : s.template = d.template) (hs : s.stage.repertoire = repertoire)
    (hclosed : d.page.current = none) (hcontent : d.page.modes.value? contentSection = none) :
    (applyLayout nested d.page.output s).map Prod.fst = Stackless.finish repertoire nested' d := by
  have hname : s.template.layoutName = d.layoutName := congrArg Template.layoutName htemplate
  cases hlayout : d.layoutName with
  | none =>
    rw [applyLayout_of_none _ _ (hname.trans hlayout), Stackless.finish, hclosed, hlayout]
    rfl
  | some name =>
    have hmodes : s.template.store.modes.value? contentSection = none := by
      rw [htemplate]
      exact hcontent
    rw [applyLayout_map_fst hn hs (hname.trans hlayout) hmodes, Stackless.finish, hclosed, hlayout,
      htemplate]
    rfl

/-- What a render hands out, once its body has ended. -/
theorem finishBody_agrees {entry : Capture} (hn : nested.Refines repertoire nested')
    (h : s.Shows entry.openRegion repertoire d) :
    Option.map Prod.fst (completeBody nested (some (.ok (), s))) =
      Stackless.finish repertoire nested' d := by
  have hname : s.template.store.openName = d.page.current.map OpenSection.name := by
    rw [h.template_eq]
    rfl
  rcases hcurrent : d.page.current with _ | o
  · have hcapture : s.stage.capture = entry.openRegion.write d.page.output := by
      rw [h.capture_eq, Page.capture, hcurrent]
    rw [hcurrent] at hname
    simp only [completeBody, finishBody_of_closed hname hcapture]
    exact applyLayout_agrees hn h.template_eq
      ((s.stage.repertoire_withCapture _).trans h.repertoire_eq) hcurrent h.wellFormed.content_mode
  · rw [hcurrent] at hname
    simp only [completeBody, finishBody_of_open hname, Stackless.finish, hcurrent]
    rfl

/-- The body of a render and its layout have the outcome that they have without a capture. -/
theorem renderBody_map_fst (hn : nested.Refines repertoire nested') (hr : repertoire.Orderly)
    (htemplate : s.template = d.template) (hd : d.page.IsBlank)
    (hs : s.stage.repertoire = repertoire) :
    (renderBody nested s).map Prod.fst = Stackless.renderBody repertoire nested' d := by
  obtain ⟨stage, hlooked, hshows⟩ := (shows_openRegion htemplate hd hs).body_found
  have hlooked : s.stage.openRegion.body s.template.name = (repertoire.body d.name, stage) :=
    hlooked
  unfold renderBody Stackless.renderBody display
  simp only [hlooked]
  cases hbody : repertoire.body d.name with
  | error fault => rfl
  | ok body =>
    rcases (run_agrees hn hr (hr.body hbody) hshows).cases with
      ⟨hleft, hleft'⟩ | ⟨outcome, s', d', hleft, hleft', h'⟩
    · simp only [hleft, hleft']
      rfl
    · simp only [hleft, hleft']
      cases outcome with
      | error fault => rfl
      | ok ended => exact finishBody_agrees hn h'

/-- A render has the outcome that it has without a capture. -/
theorem renderWith_map_fst (hn : nested.Refines repertoire nested') (hr : repertoire.Orderly)
    (data : Dictionary Value) (htemplate : s.template = d.template) (hd : d.page.IsBlank)
    (hs : s.stage.repertoire = repertoire) :
    (renderWith nested data s).map Prod.fst = Stackless.renderWith repertoire nested' data d := by
  have hbegin : (s.begin data).template = (d.assign data).template := by
    rw [Scene.begin, htemplate]
    rfl
  rw [renderWith_outcome]
  exact renderBody_map_fst hn hr hbegin hd ((s.repertoire_begin data).trans hs)

/-- Nested renders and calls of any depth have the outcomes that they have without a capture. -/
theorem refines_nestedAt (hr : repertoire.Orderly) (depth : Nat) :
    (nestedAt depth).Refines repertoire (stacklessAt repertoire depth) := by
  induction depth with
  | zero => exact ⟨keepsCapture_nestedAt hr 0, fun _ _ _ _ => rfl, fun _ _ => .none⟩
  | succ depth ih =>
    exact ⟨keepsCapture_nestedAt hr (depth + 1),
      fun data htemplate hd hs => renderWith_map_fst ih hr data htemplate hd hs,
      fun hp h => run_agrees ih hr hp h⟩

/-- A render by name over any capture has the outcome that it has without one, and so has one that
is reached by `fetch` or as a layout. So the outcome depends neither on the regions that are open,
nor on what they hold, nor on where the render is reached from. -/
theorem render_eq_stackless {s : Stage} (hr : s.repertoire.Orderly) (name : String)
    (data : Dictionary Value) :
    (∀ depth, ((nestedAt depth).render data ⟨s.engine.make name, s⟩).map Prod.fst =
      (stacklessAt s.repertoire depth).render data (s.repertoire.draft name)) ∧
    (∀ {depth outcome},
      (stacklessAt s.repertoire depth).render data (s.repertoire.draft name) = some outcome →
      depth ≤ s.host.nesting → (s.render name data).1 = outcome) ∧
    (∀ {s' : Stage}, s'.repertoire = s.repertoire →
      (s'.render name data).1 = (s.render name data).1) ∧
    (∀ {depth outcome} {caller left : Scene}, caller.stage.repertoire = s.repertoire →
      fetchTemplate (nestedAt depth) name data caller = some (outcome, left) →
      depth ≤ s.host.nesting → (s.render name data).1 = outcome) ∧
    ∀ {depth content} {caller : Scene}, caller.stage.repertoire = s.repertoire →
      caller.template.layoutName = some name →
      caller.template.store.modes.value? contentSection = none →
      (applyLayout (nestedAt depth) content caller).map Prod.fst =
        (stacklessAt s.repertoire depth).render caller.template.layoutData
          (s.repertoire.layoutDraft name caller.template.store.sections
            caller.template.store.modes content) := by
  have hrender (depth : Nat) {s' : Stage} (hs : s'.repertoire = s.repertoire) :
      ((nestedAt depth).render data ⟨s'.engine.make name, s'⟩).map Prod.fst =
        (stacklessAt s.repertoire depth).render data (s.repertoire.draft name) :=
    (refines_nestedAt hr depth).render (s := ⟨s'.engine.make name, s'⟩) data (make_eq hs name)
      (isBlank_draft _ name) hs
  -- A render that nests too deep fails on both sides.
  have hlimit {s' : Stage} (hs : s'.repertoire = s.repertoire) :
      (s'.render name data).1 =
        ((stacklessAt s.repertoire s.host.nesting).render data (s.repertoire.draft name)).getD
          (.error (.plain .recursionError)) := by
    have hhost : s'.host = s.host := congrArg Repertoire.host hs
    rw [← hrender s.host.nesting hs, Stage.render, Scene.render, hhost]
    cases (nestedAt s.host.nesting).render data ⟨s'.engine.make name, s'⟩ <;> rfl
  have hterminates {depth outcome}
      (h : (stacklessAt s.repertoire depth).render data (s.repertoire.draft name) = some outcome)
      (hle : depth ≤ s.host.nesting) : (s.render name data).1 = outcome := by
    rw [hlimit rfl, stacklessAt_mono hle h]
    rfl
  refine ⟨fun depth => hrender depth rfl, hterminates, fun hs => ?_,
    fun {depth outcome caller left} hs hleft hle => ?_, fun hs hlayout hcontent => ?_⟩
  · rw [hlimit hs, hlimit rfl]
  · have hfetch := fetchTemplate_map_fst (refines_nestedAt hr depth) hs name data
    rw [hleft] at hfetch
    exact hterminates hfetch.symm hle
  · exact applyLayout_map_fst (refines_nestedAt hr _) hs hlayout hcontent _

/-- The page of the sample has its outcome without a capture, and so it has it on the stage. -/
theorem render_eq_stackless_sample :
    Stage.sample.repertoire.Orderly ∧
      (stacklessAt Stage.sample.repertoire 3).render [] (Stage.sample.repertoire.draft "page") =
        some (.ok "<dptext>") ∧
      (Stage.sample.render "page" []).1 = .ok "<dptext>" := by
  obtain ⟨-, hrender, -, -, -⟩ := render_eq_stackless Stage.orderly_sample "page" []
  have houtcome : (stacklessAt Stage.sample.repertoire 3).render []
      (Stage.sample.repertoire.draft "page") = some (.ok "<dptext>") := rfl
  exact ⟨Stage.orderly_sample, houtcome, hrender houtcome (by decide)⟩

end Renders

end TemplateEngine
