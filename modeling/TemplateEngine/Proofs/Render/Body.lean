import TemplateEngine.Proofs.Render.Act

/-!
# What a render makes of its body

A render that ends has run the body of its template in a region of its own, or it could not find
one. If it succeeds, the body came to its end with no section open, and what it wrote is the text
of the render or the content of its layout.

## Main definitions

* `Scene.inBody`: the scene in which the body of a render is run.
* `Scene.EndsAt`: how a render comes to its end.

## Main results

* `Scene.within_inBody`: what holds throughout a body holds when it starts.
* `finishBody_ok_inv`: when a body is ended.
* `renderWith_inv`: a render has come to its end in one of these ways.
-/

namespace TemplateEngine

/-- A scene with another capture. -/
def Scene.withCapture (s : Scene) (capture : Capture) : Scene :=
  { s with stage := { s.stage with capture := capture } }

/-- The operation does what stopping a section does. -/
theorem perform_stop (nested : Nested) (s : Scene) {c c' : Canvas} (h : c.stop = (.ok (), c')) :
    perform nested (.canvas .stop) (s.setCanvas c) = some (.ok .null, s.setCanvas c') := by
  change some ((CanvasOperation.stop.perform c).1,
    s.setCanvas (CanvasOperation.stop.perform c).2) = _
  rw [CanvasOperation.perform, h]
  rfl

theorem run_tell_ok {nested : Nested} {s s' : Scene} {operation : Operation} {v : Value}
    (h : perform nested operation s = some (.ok v, s')) :
    (Program.tell operation).run (perform nested) s = some (.ok (), s') := by
  simp only [Program.tell, Program.run, h]

theorem perform_write_str (nested : Nested) (s : Scene) (text : String) :
    perform nested (.write (.str text)) s = some (.ok .null, s.write text) := by
  simp [perform, writeValue, Value.isNull, Value.text]

theorem Scene.write_empty (s : Scene) : s.write "" = s := by
  rw [Scene.write, Capture.write_empty]

theorem Scene.write_write (s : Scene) (a b : String) : (s.write a).write b = s.write (a ++ b) := by
  rw [Scene.write, Scene.write, Scene.write]
  simp only [Capture.write_write]

section Bodies

variable {nested : Nested} {s : Scene} {repertoire : Repertoire}

theorem display_of_body (nested : Nested) {body : Program Unit}
    (h : (s.stage.body s.template.name).1 = .ok body) :
    display nested s =
      body.run (perform nested) { s with stage := (s.stage.body s.template.name).2 } := by
  unfold display
  rcases hlooked : s.stage.body s.template.name with ⟨fault | found, stage⟩
  · rw [hlooked] at h
    cases h
  · rw [hlooked] at h
    cases h
    rfl

theorem display_of_fault (nested : Nested) {fault : Fault}
    (h : (s.stage.body s.template.name).1 = .error fault) :
    display nested s =
      some (.error fault, { s with stage := (s.stage.body s.template.name).2 }) := by
  unfold display
  rcases hlooked : s.stage.body s.template.name with ⟨other | found, stage⟩
  · rw [hlooked] at h
    cases h
    rfl
  · rw [hlooked] at h
    cases h

/-- The scene in which the body of a render is run, once its region is open and it is looked up. -/
def Scene.inBody (s : Scene) (data : Dictionary Value) : Scene :=
  ⟨s.template.assign data, ((s.begin data).stage.openRegion.body s.template.name).2⟩

theorem Scene.capture_inBody (s : Scene) (data : Dictionary Value) :
    (s.inBody data).stage.capture = s.stage.capture.openRegion := Stage.capture_body _ _

theorem Scene.repertoire_inBody (s : Scene) (data : Dictionary Value) :
    (s.inBody data).stage.repertoire = s.stage.repertoire := by
  rw [Scene.inBody, Stage.repertoire_body, Stage.repertoire_openRegion, s.repertoire_begin]

/-- What holds throughout a body holds when it starts. -/
theorem Scene.within_inBody (hcaptured : s.template.store.isCaptured = false)
    (data : Dictionary Value) :
    (s.inBody data).Within s.stage.capture.openRegion s.stage.repertoire :=
  (within_openRegion (s := s.begin data) hcaptured (s.repertoire_begin data)).lookUp

theorem Scene.body_begin (s : Scene) (data : Dictionary Value) :
    ((s.begin data).stage.openRegion.body s.template.name).1 =
      s.stage.repertoire.body s.template.name := by
  have hrepertoire : (s.begin data).stage.openRegion.repertoire = s.stage.repertoire := by
    rw [Stage.repertoire_openRegion, s.repertoire_begin]
  rw [← hrepertoire]
  rfl

theorem renderBody_of_body (nested : Nested) (data : Dictionary Value) {body : Program Unit}
    (hbody : s.stage.repertoire.body s.template.name = .ok body) :
    renderBody nested (s.begin data) =
      completeBody nested (body.run (perform nested) (s.inBody data)) := by
  rw [renderBody_eq, display_of_body nested ((s.body_begin data).trans hbody)]
  rfl

theorem renderBody_of_fault (nested : Nested) (data : Dictionary Value) {fault : Fault}
    (hbody : s.stage.repertoire.body s.template.name = .error fault) :
    renderBody nested (s.begin data) = some (.error fault, s.inBody data) := by
  rw [renderBody_eq, display_of_fault nested ((s.body_begin data).trans hbody)]
  rfl

/-- Running a body that is found, and what comes after it, has the outcome of the render. -/
theorem render_outcome_of_body (nested : Nested) (data : Dictionary Value)
    (hs : s.stage.repertoire = repertoire) {body : Program Unit}
    (hbody : repertoire.body s.template.name = .ok body) :
    (renderWith nested data s).map Prod.fst =
      (completeBody nested (body.run (perform nested) (s.inBody data))).map Prod.fst := by
  rw [renderWith_outcome, renderBody_of_body nested data (hs ▸ hbody)]

/-- A body that is ended has no section open, and its region holds its text. -/
theorem finishBody_ok_inv {entry : Capture} {content : String} {closed : Scene}
    (h : s.Within entry.openRegion repertoire) (hfinish : finishBody s = (.ok content, closed)) :
    s.template.store.openName = none ∧ s.stage.capture = entry.openRegion.write content ∧
      closed = s.withCapture entry := by
  cases hopen : s.template.store.openName with
  | some name => simp [finishBody_of_open hopen] at hfinish
  | none =>
    obtain ⟨shown, hcapture⟩ := h.inStep.capture_eq (SectionStore.isCaptured_of_closed hopen)
    cases (finishBody_of_closed hopen hcapture).symm.trans hfinish
    exact ⟨rfl, hcapture, rfl⟩

/-- How a render comes to its end: no body is found, the body fails, it is not ended properly, or
it is ended and there may be a layout. -/
inductive Scene.EndsAt (nested : Nested) (s : Scene) (data : Dictionary Value) :
    Except Fault String → Scene → Prop
  | notFound {fault : Fault} (hbody : s.stage.repertoire.body s.template.name = .error fault) :
    EndsAt nested s data (.error fault) (s.inBody data)
  | failed {body : Program Unit} {fault : Fault} {left : Scene}
    (hbody : s.stage.repertoire.body s.template.name = .ok body)
    (hrun : body.run (perform nested) (s.inBody data) = some (.error fault, left)) :
    EndsAt nested s data (.error fault) left
  | unclosed {body : Program Unit} {finish : Scene} {fault : Fault} {left : Scene}
    (hbody : s.stage.repertoire.body s.template.name = .ok body)
    (hrun : body.run (perform nested) (s.inBody data) = some (.ok (), finish))
    (hfinish : finishBody finish = (.error fault, left)) : EndsAt nested s data (.error fault) left
  | ended {body : Program Unit} {finish closed : Scene} {content : String}
    {outcome : Except Fault String} {left : Scene}
    (hbody : s.stage.repertoire.body s.template.name = .ok body)
    (hrun : body.run (perform nested) (s.inBody data) = some (.ok (), finish))
    (hfinish : finishBody finish = (.ok content, closed))
    (hlayout : applyLayout nested content closed = some (outcome, left)) :
    EndsAt nested s data outcome left

theorem renderBody_inv {data : Dictionary Value} {outcome : Except Fault String} {left : Scene}
    (h : renderBody nested (s.begin data) = some (outcome, left)) :
    s.EndsAt nested data outcome left := by
  cases hbody : s.stage.repertoire.body s.template.name with
  | error fault =>
    rw [renderBody_of_fault nested data hbody] at h
    cases h
    exact .notFound hbody
  | ok body =>
    rw [renderBody_of_body nested data hbody] at h
    rcases hrun : body.run (perform nested) (s.inBody data) with _ | ⟨fault | _, finish⟩
    · simp [hrun, completeBody] at h
    · obtain ⟨rfl, rfl⟩ : .error fault = outcome ∧ finish = left := by
        simpa [hrun, completeBody] using h
      exact .failed hbody hrun
    · rcases hfinish : finishBody finish with ⟨fault | content, closed⟩
      · obtain ⟨rfl, rfl⟩ : .error fault = outcome ∧ closed = left := by
          simpa [hrun, hfinish, completeBody] using h
        exact .unclosed hbody hrun hfinish
      · have hlayout : applyLayout nested content closed = some (outcome, left) := by
          simpa [hrun, hfinish, completeBody] using h
        exact .ended hbody hrun hfinish hlayout

/-- A render leaves its template, and the engine but for the renders in progress, as they were when
its body or its layout came to an end. -/
theorem renderWith_inv {data : Dictionary Value} {outcome : Except Fault String} {after : Scene}
    (h : renderWith nested data s = some (outcome, after)) :
    ∃ left, s.EndsAt nested data outcome left ∧ after.template = left.template ∧
      after.stage.engine = left.stage.engine.leave := by
  rw [renderWith_eq] at h
  rcases hbody : renderBody nested (s.begin data) with _ | ⟨fault | text, left⟩
  · simp [hbody] at h
  · rw [hbody] at h
    cases h
    exact ⟨left, renderBody_inv hbody, rfl, rfl⟩
  · rw [hbody] at h
    cases h
    exact ⟨left, renderBody_inv hbody, rfl, rfl⟩

end Bodies

end TemplateEngine
