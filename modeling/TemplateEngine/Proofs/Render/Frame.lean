import TemplateEngine.Proofs.Render.Cover
import TemplateEngine.Proofs.Section.InStep

/-!
# A render leaves everything around it as it was

While a body runs, the capture is the one at its start, written to, with the region of an open
section on top. So what a failed render discards is exactly what was opened in its course, and a
render that succeeds has closed the one region that it opened. Renders nest, and the same holds of
the nested ones by induction on the depth.

## Main definitions

* `Template.Fresh`: the templates that renders by name and layouts start with.
* `Scene.Within`: what holds while a body runs.
* `Nested.KeepsCapture`: nested renders leave the capture as it was.
* `completeBody`: what a render does when its body has ended.

## Main results

* `perform_within`: every orderly operation of a body keeps what holds while it runs.
* `renderWith_frame`, `keepsCapture_nestedAt`: renders leave the capture as it was.
-/

namespace TemplateEngine

/-- A freshly made template: no body has run for it yet. -/
inductive Template.Fresh (engine : Engine) : Template → Prop
  | make (name : String) : Fresh engine (engine.make name)
  | assign {t : Template} (data : Dictionary Value) : Fresh engine t → Fresh engine (t.assign data)
  | takeSections {t : Template} (other : Template) :
    Fresh engine t → Fresh engine (t.takeSections other)

/-- No section of a freshly made template is open. -/
theorem Template.Fresh.openName_eq {engine : Engine} {t : Template} (h : t.Fresh engine) :
    t.store.openName = none := by
  induction h with
  | make name => rfl
  | assign data _ ih => exact ih
  | takeSections other _ ih => exact ih

/-- Writing, and whatever is done to sections, changes nothing that can be looked up. -/
theorem Scene.repertoire_setCanvas (s : Scene) (c : Canvas) :
    (s.setCanvas c).stage.repertoire = s.stage.repertoire :=
  Stage.repertoire_congr s.stage.engine.activeRenders rfl rfl rfl

/-- The journal is nothing that can be looked up. -/
theorem Scene.repertoire_note (s : Scene) (label : String) (outcome : Except FaultKind Value) :
    (s.note label outcome).stage.repertoire = s.stage.repertoire :=
  Stage.repertoire_congr s.stage.engine.activeRenders rfl rfl rfl

/-- Since a body began with the capture `base`, that capture was only written to, with the region
of the open section on top, and what can be looked up is the same. -/
structure Scene.Within (base : Capture) (repertoire : Repertoire) (s : Scene) : Prop where
  inStep : s.canvas.InStep base
  repertoire_eq : s.stage.repertoire = repertoire

/-- A stage has a given capture and repertoire. -/
structure Stage.Keeps (capture : Capture) (repertoire : Repertoire) (s : Stage) : Prop where
  capture_eq : s.capture = capture
  repertoire_eq : s.repertoire = repertoire

/-- Nested renders leave the capture as it was, and nested calls what holds while a body runs. -/
structure Nested.KeepsCapture (repertoire : Repertoire) (nested : Nested) : Prop where
  render : ∀ {s : Scene} (data : Dictionary Value), s.template.store.openName = none →
    s.stage.repertoire = repertoire →
    Leaves (fun s' => s'.stage.Keeps s.stage.capture repertoire) (nested.render data s)
  call : ∀ {p : Program Value} {s : Scene} {base : Capture}, p.Orderly →
    s.Within base repertoire → Leaves (Scene.Within base repertoire) (nested.call p s)

section Operations

variable {nested : Nested} {repertoire : Repertoire} {base : Capture} {s s' : Scene}

/-! ### Operations of a body -/

theorem Scene.Within.of_canvas (h : s.Within base repertoire) (hcanvas : s'.canvas = s.canvas)
    (hrepertoire : s'.stage.repertoire = s.stage.repertoire) : s'.Within base repertoire :=
  ⟨hcanvas ▸ h.inStep, hrepertoire.trans h.repertoire_eq⟩

/-- A render of a freshly made template leaves the capture as it was. -/
theorem Nested.KeepsCapture.fetch (hn : nested.KeepsCapture repertoire)
    (hs : s.stage.repertoire = repertoire) {name : String} {data : Dictionary Value}
    {outcome : Except Fault String} {left : Scene}
    (hleft : nested.render data ⟨s.stage.engine.make name, s.stage⟩ = some (outcome, left)) :
    left.stage.Keeps s.stage.capture repertoire :=
  hn.render data (s := ⟨s.stage.engine.make name, s.stage⟩) rfl hs _ _ hleft

/-- Rendering another template changes neither the template at hand nor the capture. -/
theorem fetchTemplate_frame (hn : nested.KeepsCapture repertoire)
    (hs : s.stage.repertoire = repertoire) (name : String) (data : Dictionary Value) :
    Leaves (fun s' => s'.template = s.template ∧ s'.stage.Keeps s.stage.capture repertoire)
      (fetchTemplate nested name data s) := by
  unfold fetchTemplate
  cases hleft : nested.render data ⟨s.stage.engine.make name, s.stage⟩ with
  | none => exact leaves_none
  | some left =>
    have hkeeps := hn.fetch hs hleft
    exact leaves_some ⟨rfl, hkeeps⟩

/-- Looking up the body of the template keeps what holds while a body runs. -/
theorem Scene.Within.lookUp (h : s.Within base repertoire) :
    Scene.Within base repertoire { s with stage := (s.stage.body s.template.name).2 } := by
  refine h.of_canvas ?_ (s.stage.repertoire_body _)
  rw [Scene.canvas, Scene.canvas, s.stage.capture_body]

/-- So does a render of another template. -/
theorem Scene.Within.fetch (h : s.Within base repertoire) (hn : nested.KeepsCapture repertoire)
    {name : String} {data : Dictionary Value} {outcome : Except Fault String} {left : Scene}
    (hleft : nested.render data ⟨s.stage.engine.make name, s.stage⟩ = some (outcome, left)) :
    Scene.Within base repertoire { s with stage := left.stage } := by
  have hkeeps := hn.fetch h.repertoire_eq hleft
  refine h.of_canvas ?_ (hkeeps.repertoire_eq.trans h.repertoire_eq.symm)
  rw [Scene.canvas, Scene.canvas, hkeeps.capture_eq]

/-- The body that is found is orderly. -/
theorem Scene.Within.body_found (h : s.Within base repertoire) (hr : repertoire.Orderly) :
    ∃ found stage, s.stage.body s.template.name = (found, stage) ∧
      Scene.Within base repertoire { s with stage := stage } ∧
      ∀ body, found = .ok body → body.Orderly := by
  refine ⟨(s.stage.body s.template.name).1, (s.stage.body s.template.name).2, rfl, h.lookUp,
    fun body hbody => ?_⟩
  have hfound : s.stage.repertoire.body s.template.name = .ok body := hbody
  rw [h.repertoire_eq] at hfound
  exact hr.body hfound

/-- Whatever orderly operations are made of keeps what holds while a body runs. -/
theorem Nested.KeepsCapture.coveredBy (hn : nested.KeepsCapture repertoire)
    (hr : repertoire.Orderly) (base : Capture) :
    nested.CoveredBy fun s s' => s.Within base repertoire → s'.Within base repertoire where
  refl _ h := h
  trans h h' hs := h' (h hs)
  canvas s _ ho h := ⟨h.inStep.perform ho, (s.repertoire_setCanvas _).trans h.repertoire_eq⟩
  assign _ _ h := h.of_canvas rfl rfl
  declare _ _ _ h := h.of_canvas rfl rfl
  note s label outcome h := h.of_canvas rfl (s.repertoire_note label outcome)
  print _ _ h := h.of_canvas rfl (Stage.repertoire_print _ _)
  lookUp _ h := h.lookUp
  fetch hleft h := h.fetch hn hleft
  call hoffers _ _ hleft h := hn.call (hoffers.orderly (h.repertoire_eq ▸ hr)) h _ _ hleft

/-- Every orderly operation of a body keeps what holds while it runs. -/
theorem perform_within (hn : nested.KeepsCapture repertoire) (hr : repertoire.Orderly)
    {operation : Operation} (ho : operation.isOrderly) (h : s.Within base repertoire) :
    Leaves (Scene.Within base repertoire) (perform nested operation s) :=
  ((hn.coveredBy hr base).perform ho s).imp fun _ hkeeps => hkeeps h

/-- Running an orderly program keeps what holds while a body runs. -/
theorem run_within {α : Type} (hn : nested.KeepsCapture repertoire) (hr : repertoire.Orderly)
    {p : Program α} (hp : p.Orderly) (h : s.Within base repertoire) :
    Leaves (Scene.Within base repertoire) (p.run (perform nested) s) :=
  hp.leaves_run (fun _ _ ho => perform_within hn hr ho) h

end Operations

section Renders

variable {nested : Nested} {repertoire : Repertoire} {s : Scene}

/-! ### Renders -/

theorem display_within {base : Capture} (hn : nested.KeepsCapture repertoire)
    (hr : repertoire.Orderly) (h : s.Within base repertoire) :
    Leaves (Scene.Within base repertoire) (display nested s) := by
  obtain ⟨fault | body, stage, hlooked, hwithin, horderly⟩ := h.body_found hr
  · simp only [display, hlooked]
    exact leaves_some hwithin
  · simp only [display, hlooked]
    exact run_within hn hr (horderly body rfl) hwithin

/-- The scene that a layout is rendered in, once the text of the body is known. -/
def Scene.layoutScene (s : Scene) (name content : String) : Scene :=
  ⟨(s.stage.engine.make name).takeSections (s.template.setContent content),
    s.stage.emit (.delegated s.template.name name s.template.store.sections.keys)⟩

theorem applyLayout_of_none (nested : Nested) (content : String)
    (h : s.template.layoutName = none) : applyLayout nested content s = some (.ok content, s) := by
  simp [applyLayout, h]

theorem applyLayout_of_some (nested : Nested) (content : String) {name : String}
    (h : s.template.layoutName = some name) :
    applyLayout nested content s =
      (nested.render s.template.layoutData (s.layoutScene name content)).map fun left =>
        (left.1, ⟨s.template.setContent content, left.2.stage⟩) := by
  cases hleft : nested.render s.template.layoutData (s.layoutScene name content) with
  | none =>
    rw [Scene.layoutScene] at hleft
    simp [applyLayout, h, hleft]
  | some left =>
    rw [Scene.layoutScene] at hleft
    simp [applyLayout, h, hleft]

/-- A layout leaves the capture and the template that declared it; the latter holds the text of
its body as the content section. -/
theorem applyLayout_frame (hn : nested.KeepsCapture repertoire)
    (hs : s.stage.repertoire = repertoire) (content : String) :
    Leaves (fun s' => s'.stage.Keeps s.stage.capture repertoire ∧
        s'.template = if s.template.layoutName.isSome then s.template.setContent content
          else s.template)
      (applyLayout nested content s) := by
  cases hname : s.template.layoutName with
  | none =>
    rw [applyLayout_of_none nested content hname]
    exact leaves_some ⟨⟨rfl, hs⟩, rfl⟩
  | some name =>
    have hrender := hn.render s.template.layoutData (s := s.layoutScene name content) rfl
      ((s.stage.repertoire_emit _).trans hs)
    rw [applyLayout_of_some nested content hname]
    cases hleft : nested.render s.template.layoutData (s.layoutScene name content) with
    | none => exact leaves_none
    | some left =>
      rw [hleft] at hrender
      exact leaves_some ⟨hrender.of_some, rfl⟩

theorem finishBody_of_open {name : String} (h : s.template.store.openName = some name) :
    finishBody s = (.error (.unclosedSection name), s) := by
  simp [finishBody, h]

theorem finishBody_of_closed {entry : Capture} {content : String}
    (h : s.template.store.openName = none)
    (hcapture : s.stage.capture = entry.openRegion.write content) :
    finishBody s = (.ok content, { s with stage := { s.stage with capture := entry } }) := by
  simp only [finishBody, h, hcapture, Capture.finish, Capture.closeRegion?_write_openRegion]

/-- Ending a body fails and leaves the region to be discarded, or it leaves the capture at entry. -/
theorem finishBody_frame {entry : Capture} (h : s.Within entry.openRegion repertoire) :
    (∃ fault, finishBody s = (.error fault, s)) ∨
      ∃ content, finishBody s =
        (.ok content, { s with stage := { s.stage with capture := entry } }) := by
  cases hopen : s.template.store.openName with
  | some name => exact .inl ⟨_, finishBody_of_open hopen⟩
  | none =>
    obtain ⟨shown, hcapture⟩ := h.inStep.capture_eq (SectionStore.isCaptured_of_closed hopen)
    exact .inr ⟨shown, finishBody_of_closed hopen hcapture⟩

/-- What holds when the region of a body has just been opened. -/
theorem within_openRegion (hcaptured : s.template.store.isCaptured = false)
    (hs : s.stage.repertoire = repertoire) :
    Scene.Within s.stage.capture.openRegion repertoire { s with stage := s.stage.openRegion } :=
  ⟨.initial hcaptured _, (s.stage.repertoire_openRegion).trans hs⟩

/-- What a render does when its body has ended. -/
def completeBody (nested : Nested) : Evaluation Unit → Evaluation String
  | none => none
  | some (.error fault, s) => some (.error fault, s)
  | some (.ok _, s) =>
    match finishBody s with
    | (.error fault, s') => some (.error fault, s')
    | (.ok content, s') => applyLayout nested content s'

theorem renderBody_eq (nested : Nested) (s : Scene) :
    renderBody nested s =
      completeBody nested (display nested { s with stage := s.stage.openRegion }) := rfl

/-- When the body of a render and its layout are over, unwinding gives the capture at entry, and
nothing is there to be discarded if they succeeded. -/
theorem renderBody_frame (hn : nested.KeepsCapture repertoire) (hr : repertoire.Orderly)
    (hcaptured : s.template.store.isCaptured = false) (hs : s.stage.repertoire = repertoire)
    {outcome : Except Fault String} {s' : Scene}
    (hleft : renderBody nested s = some (outcome, s')) :
    s'.stage.repertoire = repertoire ∧
      s'.stage.capture.unwind s.stage.capture.depth = s.stage.capture ∧
      ∀ text, outcome = .ok text → s'.stage.capture = s.stage.capture := by
  have hdisplay := display_within hn hr (within_openRegion hcaptured hs)
  unfold renderBody at hleft
  rcases hran : display nested { s with stage := s.stage.openRegion } with _ | ⟨fault | ended, s₁⟩
  · simp [hran] at hleft
  · obtain ⟨rfl, rfl⟩ : Except.error fault = outcome ∧ s₁ = s' := by simpa [hran] using hleft
    have h₁ := hdisplay _ _ hran
    exact ⟨h₁.repertoire_eq, h₁.inStep.unwind, nofun⟩
  · have h₁ := hdisplay _ _ hran
    simp only [hran] at hleft
    rcases finishBody_frame h₁ with ⟨fault, hfinish⟩ | ⟨content, hfinish⟩
    · obtain ⟨rfl, rfl⟩ : Except.error fault = outcome ∧ s₁ = s' := by simpa [hfinish] using hleft
      exact ⟨h₁.repertoire_eq, h₁.inStep.unwind, nofun⟩
    · rw [hfinish] at hleft
      have hfinished := (s₁.stage.repertoire_withCapture s.stage.capture).trans h₁.repertoire_eq
      obtain ⟨⟨hcapture, hrepertoire⟩, -⟩ := applyLayout_frame hn hfinished content _ _ hleft
      exact ⟨hrepertoire, by rw [hcapture]; exact Capture.unwind_self _, fun _ _ => hcapture⟩

/-- The scene in which the body of a render starts. -/
def Scene.begin (s : Scene) (data : Dictionary Value) : Scene :=
  ⟨s.template.assign data,
    (s.stage.emit (.renderStarted s.template.name s.stage.capture.depth)).enter⟩

theorem Scene.repertoire_begin (s : Scene) (data : Dictionary Value) :
    (s.begin data).stage.repertoire = s.stage.repertoire := by
  simp [Scene.begin]

/-- What a render does, once its body and its layout are over. -/
theorem renderWith_eq (nested : Nested) (data : Dictionary Value) (s : Scene) :
    renderWith nested data s = match renderBody nested (s.begin data) with
      | none => none
      | some (.ok text, s') => some (.ok text, { s' with stage := s'.stage.leave })
      | some (.error fault, s') => some (.error fault,
          { s' with stage := (abandon s.template.name s.stage.capture.depth
            (decide (0 < s.stage.engine.activeRenders)) fault s'.stage).leave }) := rfl

/-- Logging and cleaning up change no outcome. -/
theorem renderWith_outcome (nested : Nested) (data : Dictionary Value) (s : Scene) :
    (renderWith nested data s).map Prod.fst = (renderBody nested (s.begin data)).map Prod.fst := by
  rw [renderWith_eq]
  rcases renderBody nested (s.begin data) with _ | ⟨fault | text, s'⟩ <;> rfl

/-- Cleaning up leaves the capture at entry, if what is above it can be unwound. -/
theorem keeps_abandon {entry : Capture} {stage : Stage} (hs : stage.repertoire = repertoire)
    (hunwind : stage.capture.unwind entry.depth = entry) (name : String) (isNested : Bool)
    (fault : Fault) : (abandon name entry.depth isNested fault stage).Keeps entry repertoire :=
  ⟨hunwind, by simp [abandon, hs]⟩

/-- A render of a template of which no section has a region leaves the capture as it was, whether
it succeeds or fails. -/
theorem renderWith_frame (hn : nested.KeepsCapture repertoire) (hr : repertoire.Orderly)
    (data : Dictionary Value) (hcaptured : s.template.store.isCaptured = false)
    (hs : s.stage.repertoire = repertoire) :
    Leaves (fun s' => s'.stage.Keeps s.stage.capture repertoire) (renderWith nested data s) := by
  have hs' : (s.begin data).stage.repertoire = repertoire := (s.repertoire_begin data).trans hs
  rw [renderWith_eq]
  rcases hleft : renderBody nested (s.begin data) with _ | ⟨fault | text, s'⟩
  · exact leaves_none
  · obtain ⟨hrepertoire, hunwind, -⟩ :=
      renderBody_frame hn hr (s := s.begin data) hcaptured hs' hleft
    have habandon := keeps_abandon hrepertoire hunwind s.template.name
      (decide (0 < s.stage.engine.activeRenders)) fault
    exact leaves_some ⟨habandon.capture_eq,
      (Stage.repertoire_leave _).trans habandon.repertoire_eq⟩
  · obtain ⟨hrepertoire, -, hcapture⟩ :=
      renderBody_frame hn hr (s := s.begin data) hcaptured hs' hleft
    exact leaves_some ⟨hcapture text rfl, (Stage.repertoire_leave _).trans hrepertoire⟩

/-- Nested renders and calls of any depth keep what holds around them. -/
theorem keepsCapture_nestedAt (hr : repertoire.Orderly) (depth : Nat) :
    (nestedAt depth).KeepsCapture repertoire := by
  induction depth with
  | zero => exact ⟨fun _ _ _ => leaves_none, fun _ _ => leaves_none⟩
  | succ depth ih =>
    exact ⟨fun data hclosed hs =>
        renderWith_frame ih hr data (SectionStore.isCaptured_of_closed hclosed) hs,
      fun hp h => run_within ih hr hp h⟩

end Renders

/-- A stage with an open region. The body of the page opens a section, fetches one template in it
and another one that fails, goes on, and declares a layout. -/
def Stage.sample : Stage where
  engine := { bodies := [
    ("part", .forEach .tell [.write (.str "p")]),
    ("broken", .forEach .tell
      [.canvas (.start "a"), .write (.str "q"), .canvas (.start "b")]),
    ("page", .forEach (fun operation => (Program.tell operation).rescue fun _ => .done ())
      [.canvas (.push "notes"), .insert "part" [] false, .insert "broken" [] false,
        .canvas .stop, .write (.str "text"), .layout (some "frame") (.ok [])]),
    ("frame", .forEach .tell
      [.write (.str "<"), .canvas (.startSection "notes" (some "d")),
        .canvas (.startSection "content" none), .write (.str ">")])] }
  capture := ⟨["held"], "shown"⟩

theorem Stage.orderly_sample : Stage.sample.repertoire.Orderly := by
  refine Stage.orderly_of_bodies rfl rfl fun entry hentry => ?_
  have htell (operations : List Operation) (h : ∀ operation ∈ operations, operation.isOrderly) :
      (Program.forEach .tell operations).Orderly :=
    Program.orderly_forEach fun operation ho => Program.orderly_tell (h operation ho)
  simp only [Stage.sample, List.mem_cons, List.not_mem_nil, or_false] at hentry
  rcases hentry with rfl | rfl | rfl | rfl
  · exact htell _ (by decide)
  · exact htell _ (by decide)
  · refine Program.orderly_forEach fun operation ho => ?_
    have hoperation : operation.isOrderly := by revert operation; decide
    exact (Program.orderly_tell hoperation).rescue fun _ => trivial
  · exact htell _ (by decide)

end TemplateEngine
