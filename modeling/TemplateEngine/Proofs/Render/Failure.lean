import TemplateEngine.Proofs.Render.Body

/-!
# What a failed render leaves of its template

A failed render leaves the capture as it found it, but its template as it was at the point of
failure. If a section was open there, it is still open, and its region is gone. So the template
agrees with the capture exactly if no section had a region of its own when the render failed.
Otherwise `stop` ends a region that the template did not open.

## Main definitions

* `Template.Agrees`: whatever is done to a template, it leaves the regions of others.

## Main results

* `Template.agrees_iff`: a template agrees exactly if no section of it has a region.
* `perform_stop_of_captured`: what `stop` does if the region of the open section is gone.
-/

namespace TemplateEngine

/-- Whatever is done through a template, the regions that are open around it are only written to,
and its renders leave them as they are. -/
structure Template.Agrees (repertoire : Repertoire) (t : Template) : Prop where
  acts : ∀ {stage : Stage} {s : Scene}, stage.repertoire = repertoire →
    Scene.Acts ⟨t, stage⟩ s → s.canvas.InStep stage.capture
  render : ∀ {stage : Stage} {s : Scene} {depth : Nat} {data : Dictionary Value}
    {outcome : Except Fault String}, stage.repertoire = repertoire →
    (nestedAt depth).render data ⟨t, stage⟩ = some (outcome, s) →
    s.stage.capture = stage.capture

section

variable {s s' : Scene} {data : Dictionary Value} {fault : Fault} {depth : Nat}

/-- A template agrees with every capture if none of its sections has a region. -/
theorem Template.agrees_of_not_captured {repertoire : Repertoire} (hr : repertoire.Orderly)
    {t : Template} (hcaptured : t.store.isCaptured = false) : t.Agrees repertoire where
  acts {stage _} hs hacts := (hacts.within hr ⟨.initial hcaptured stage.capture, hs⟩).inStep
  render {stage _ depth data _} hs hleft := by
    cases depth with
    | zero => cases hleft
    | succ depth =>
      exact (renderWith_frame (s := ⟨t, stage⟩) (keepsCapture_nestedAt hr depth) hr data hcaptured
        hs _ _ hleft).capture_eq

/-- A template agrees exactly if no section of it has a region of its own. -/
theorem Template.agrees_iff (stage : Stage) (hr : stage.repertoire.Orderly) (t : Template) :
    t.Agrees stage.repertoire ↔ t.store.isCaptured = false := by
  refine ⟨fun h => ?_, agrees_of_not_captured hr⟩
  have hdepth : stage.capture.depth =
      stage.capture.depth + if t.store.isCaptured then 1 else 0 := (h.acts rfl .refl).depth
  cases hcaptured : t.store.isCaptured with
  | false => rfl
  | true => simp [hcaptured] at hdepth

/-- If the region of the open section is gone, `stop` ends the innermost one of the others. -/
theorem perform_stop_of_captured (nested : Nested) (hcaptured : s.template.store.isCaptured = true)
    {text : String} {capture : Capture}
    (hregion : s.stage.capture.closeRegion? = some (text, capture)) :
    ∃ s', perform nested (.canvas .stop) s = some (.ok .null, s') ∧ s'.stage.capture = capture := by
  obtain ⟨hopen, hskip⟩ : s.template.store.isOpen = true ∧ s.template.store.isSkipped = false := by
    simpa [SectionStore.isCaptured] using hcaptured
  obtain ⟨name, hname⟩ := Option.isSome_iff_exists.1 hopen
  exact ⟨_, perform_stop nested s (Canvas.stop_of_region s.canvas hname hskip hregion), rfl⟩

/-- A failed render leaves the capture as it was, and its template as it was at the point of
failure. The template agrees with the capture, whatever is done to it from then on, exactly if no
section had a region of its own at that point. If one had, the template holds it open, and `stop`
ends the innermost region that is open then, which the template did not open. -/
theorem failed_render_agrees_iff (hr : s.stage.repertoire.Orderly)
    (hcaptured : s.template.store.isCaptured = false)
    (h : (nestedAt (depth + 1)).render data s = some (.error fault, s')) :
    s'.stage.capture = s.stage.capture ∧
    ∃ failed, s.EndsAt (nestedAt depth) data (.error fault) failed ∧ s'.template = failed.template ∧
      (s'.template.Agrees s.stage.repertoire ↔ failed.template.store.isCaptured = false) ∧
      (failed.template.store.isCaptured = true → ∀ {later : Scene} {text : String}
        {capture : Capture}, later.template = s'.template →
        later.stage.capture.closeRegion? = some (text, capture) → ∀ nested, ∃ stopped,
          perform nested (.canvas .stop) later = some (.ok .null, stopped) ∧
          stopped.stage.capture = capture) := by
  have hkeeps := renderWith_frame (keepsCapture_nestedAt hr depth) hr data hcaptured rfl _ _ h
  obtain ⟨failed, hends, htemplate, -⟩ := renderWith_inv h
  refine ⟨hkeeps.capture_eq, failed, hends, htemplate, ?_, fun hopen later text capture hlater
    hregion nested => ?_⟩
  · rw [Template.agrees_iff s.stage hr, htemplate]
  · exact perform_stop_of_captured nested (by rw [hlater, htemplate, hopen]) hregion

end

/-- A stage with an open region, and a body that fails while a section is open. -/
def Stage.failing : Stage where
  engine := { bodies := [("page", (Program.forEach .tell
    [.write (.str "x"), .canvas (.start "a")]).bind fun _ => .fail (.raised "boom"))] }
  capture := ⟨["held"], ""⟩

theorem Stage.orderly_failing : Stage.failing.repertoire.Orderly := by
  refine Stage.orderly_of_bodies rfl rfl fun entry hentry => ?_
  simp only [Stage.failing, List.mem_cons, List.not_mem_nil, or_false] at hentry
  subst hentry
  exact (Program.orderly_forEach fun operation ho =>
    Program.orderly_tell (by revert operation; decide)).bind fun _ => trivial

/-- The page does not agree with the capture after its render has failed. -/
theorem failed_render_agrees_iff_failing :
    ∃ s', (nestedAt 1).render [] ⟨Stage.failing.engine.make "page", .failing⟩ =
        some (.error (.raised "boom"), s') ∧
      s'.stage.capture = ⟨["held"], ""⟩ ∧ ¬ s'.template.Agrees Stage.failing.repertoire := by
  have hrender : (nestedAt 1).render [] ⟨Stage.failing.engine.make "page", .failing⟩ =
      some (.error (.raised "boom"), _) := rfl
  obtain ⟨hcapture, failed, -, htemplate, hagrees, -⟩ :=
    failed_render_agrees_iff (s := ⟨Stage.failing.engine.make "page", .failing⟩)
      Stage.orderly_failing rfl hrender
  refine ⟨_, hrender, hcapture, fun h => ?_⟩
  have hopen := hagrees.1 h
  rw [← htemplate] at hopen
  cases hopen

/-- Stopping the section of the page after its render has failed ends the region around it, and
stores what that held. -/
theorem stop_after_failed_render :
    ∃ s' s'', (nestedAt 1).render [] ⟨Stage.failing.engine.make "page", .failing⟩ =
        some (.error (.raised "boom"), s') ∧
      s'.stage.capture = ⟨["held"], ""⟩ ∧ s'.template.store.openName = some "a" ∧
      perform (nestedAt 0) (.canvas .stop) s' = some (.ok .null, s'') ∧
      s''.stage.capture = ⟨[], ""⟩ ∧ s''.template.store.sections = [("a", "held")] :=
  ⟨_, _, rfl, rfl, rfl, rfl, rfl, rfl⟩

end TemplateEngine
