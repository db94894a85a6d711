import TemplateEngine.Proofs.Render.Body
import TemplateEngine.Proofs.Render.Chronicle

/-!
# Templates that refer to templates of a lower rank

Templates have ranks, and every template that a body refers to, by rendering it or as its layout,
has a lower rank than the template of the body. While such a body runs, the template keeps its name,
its layout has a lower rank, the number of renders in progress is the same as before, and of the
regions above the capture at the start there is at most that of an open section. Whatever state a
template is in, a render of it leaves no more regions than there were.

## Main definitions

* `Operation.IsBelow`: an operation refers to templates of a lower rank.
* `Repertoire.Ranked`: all bodies and functions refer to templates of a lower rank.
* `Canvas.Bounded`: the regions that there may be.
* `Scene.InCourse`: what holds while a body runs.
* `Stage.Finishes`, `Stage.Returns`: what holds when a render has come to its end, and when it is
  over.

## Main results

* `Stage.ranked_of_bodies`: when registered bodies are ranked.
* `perform_inCourse`, `run_inCourse`: what holds while a body runs is kept.
* `keepsCourse_nestedAt`: what holds when a render is over.
-/

namespace TemplateEngine

namespace Operation

/-- The template that an operation refers to. -/
def refersTo? : Operation → Option String
  | .fetch template _ _ | .insert template _ _ => some template
  | .layout template _ => template
  | _ => none

/-- Whether an operation runs the body of its own template anew. -/
def runsAnew : Operation → Bool
  | .render _ | .display => true
  | _ => false

/-- An orderly operation refers to templates of a rank below a bound, and does not run the body of
its own template anew. -/
structure IsBelow (rank : String → Nat) (bound : Nat) (operation : Operation) : Prop where
  isOrderly : operation.isOrderly = true
  runsAnew_eq : operation.runsAnew = false
  lt : ∀ template, operation.refersTo? = some template → rank template < bound

instance (rank : String → Nat) (bound : Nat) (operation : Operation) :
    Decidable (operation.IsBelow rank bound) :=
  decidable_of_iff (operation.isOrderly = true ∧ operation.runsAnew = false ∧
      ∀ template ∈ operation.refersTo?, rank template < bound)
    ⟨fun ⟨horderly, hanew, hlt⟩ => ⟨horderly, hanew, hlt⟩,
      fun h => ⟨h.isOrderly, h.runsAnew_eq, h.lt⟩⟩

end Operation

/-- All bodies refer to templates of a lower rank than that of their own template, which they do
not run anew, and so do all functions, whatever template they are called for. -/
structure Repertoire.Ranked (rank : String → Nat) (repertoire : Repertoire) : Prop where
  body : ∀ {name body}, repertoire.body name = .ok body →
    body.Asks (Operation.IsBelow rank (rank name))
  function : ∀ {name f}, repertoire.functions.value? name = some f →
    ∀ template arguments named,
      (f.call (some template) arguments named).Asks (Operation.IsBelow rank (rank template))

/-- The templates of a stage are ranked if registered bodies and functions refer to templates of a
lower rank, and no other template has a file. -/
theorem Stage.ranked_of_bodies {rank : String → Nat} {s : Stage}
    (hothers : ∀ name path, s.resolvePath name ≠ .ok (some path))
    (hbodies : ∀ entry ∈ s.engine.bodies, entry.2.Asks (Operation.IsBelow rank (rank entry.1)))
    (hfunctions : ∀ entry ∈ s.engine.functions, ∀ template arguments named,
      (entry.2.callback arguments named).Asks (Operation.IsBelow rank (rank template))) :
    s.repertoire.Ranked rank where
  body {name body} h := by
    have hbody : (s.body name).1 = .ok body := h
    rw [body_fst] at hbody
    cases hregistered : s.engine.bodies.value? name with
    | some registered =>
      rw [hregistered] at hbody
      cases hbody
      exact hbodies _ (Dictionary.mem_of_value? hregistered)
    | none =>
      rw [hregistered] at hbody
      rcases hpath : s.resolvePath name with fault | _ | path
      · simp [hpath] at hbody
      · simp [hpath] at hbody
      · exact absurd hpath (hothers name path)
  function {name f} h template arguments named := by
    unfold TemplateFunction.call
    split
    · trivial
    · exact hfunctions _ (Dictionary.mem_of_value? h) template _ _

/-- Closing a region leaves one less. -/
theorem Capture.depth_of_closeRegion? {c closed : Capture} {text : String}
    (h : c.closeRegion? = some (text, closed)) : c.depth = closed.depth + 1 := by
  obtain ⟨regions, outside⟩ := c
  cases regions with
  | nil => cases h
  | cons held rest =>
    cases h
    rfl

/-- There are no regions above a number of them, but for that of an open section. -/
def Canvas.Bounded (base : Nat) (c : Canvas) : Prop :=
  c.capture.depth ≤ base + if c.store.isCaptured then 1 else 0

namespace Canvas.Bounded

variable {base : Nat} {c c' : Canvas}

theorem of_closed (h : c.Bounded base) (hclosed : c.store.openName = none) :
    c.capture.depth ≤ base := by
  rw [Bounded, SectionStore.isCaptured_of_closed hclosed] at h
  exact h

theorem depth_le (h : c.Bounded base) : c.capture.depth ≤ base + 1 := by
  rw [Bounded] at h
  split at h
  · exact h
  · exact Nat.le_succ_of_le h

theorem of_depth_le (h : c.capture.depth ≤ base) : c.Bounded base :=
  Nat.le_add_right_of_le h

theorem opened (h : c.Bounded base) (hclosed : c.store.openName = none) (name : String)
    (mode : SectionMode) (modes : Dictionary SectionMode) :
    (c.opened name mode modes).Bounded base := by
  have hdepth := h.of_closed hclosed
  rw [Bounded, capture_opened, SectionStore.isCaptured, isOpen_opened, Bool.true_and]
  cases (c.opened name mode modes).store.isSkipped with
  | true => exact hdepth
  | false => exact Nat.succ_le_succ hdepth

theorem move (h : c.Bounded base) (hmove : Move c c') : c'.Bounded base := by
  cases hmove with
  | write text =>
    rw [Bounded, Canvas.write, Capture.depth_write]
    exact h
  | start name mode modes hclosed => exact h.opened hclosed name mode modes
  | stop hstop =>
    obtain ⟨name, hopen, ⟨hskip, rfl⟩ | ⟨hskip, captured, capture, hregion, rfl⟩⟩ := stop_inv hstop
    · refine of_depth_le ?_
      rw [Bounded, SectionStore.isCaptured_of_skipped hskip] at h
      exact h
    · have hbound := h.depth_le
      rw [Capture.depth_of_closeRegion? hregion] at hbound
      exact of_depth_le (Nat.le_of_succ_le_succ hbound)
  | refused hclosed => exact of_depth_le (h.of_closed hclosed)

theorem moves (h : c.Bounded base) (hmoves : Moves c c') : c'.Bounded base := by
  induction hmoves with
  | refl => exact h
  | tail _ hmove ih => exact ih.move hmove

end Canvas.Bounded

/-- Since a body of a template of some rank began, with some number of renders in progress, its
layout has a lower rank, and there are no regions above a number of them, but for that of an open
section. -/
structure Scene.InCourse (rank : String → Nat) (repertoire : Repertoire) (bound active base : Nat)
    (s : Scene) : Prop where
  repertoire_eq : s.stage.repertoire = repertoire
  rank_eq : rank s.template.name = bound
  layout_lt : ∀ name, s.template.layoutName = some name → rank name < bound
  active_eq : s.stage.engine.activeRenders = active
  bounded : s.canvas.Bounded base

/-- Nothing is left of a render but at most fewer regions. -/
structure Stage.Returns (s s' : Stage) : Prop where
  repertoire_eq : s'.repertoire = s.repertoire
  active_eq : s'.engine.activeRenders = s.engine.activeRenders
  depth_le : s'.capture.depth ≤ s.capture.depth

/-- The layout that a template has has a lower rank. -/
def Template.LayoutBelow (rank : String → Nat) (t : Template) : Prop :=
  ∀ name, t.layoutName = some name → rank name < rank t.name

/-- Nested renders return, and nested calls keep what holds while a body runs. -/
structure Nested.KeepsCourse (rank : String → Nat) (repertoire : Repertoire) (nested : Nested) :
    Prop where
  render : ∀ (data : Dictionary Value) {s : Scene}, s.stage.repertoire = repertoire →
    s.template.LayoutBelow rank → Leaves (fun s' => s.stage.Returns s'.stage) (nested.render data s)
  call : ∀ {p : Program Value} {s : Scene} {bound active base : Nat},
    p.Asks (Operation.IsBelow rank bound) → s.InCourse rank repertoire bound active base →
    Leaves (Scene.InCourse rank repertoire bound active base) (nested.call p s)

section Course

variable {rank : String → Nat} {repertoire : Repertoire} {nested : Nested}
  {bound active base : Nat} {s s' : Scene}

/-! ### Operations of a body -/

namespace Scene.InCourse

variable (h : s.InCourse rank repertoire bound active base)
  (hn : nested.KeepsCourse rank repertoire) (hr : repertoire.Ranked rank)

include h

theorem moves {c : Canvas} (hmoves : Canvas.Moves s.canvas c) :
    (s.setCanvas c).InCourse rank repertoire bound active base :=
  ⟨(s.repertoire_setCanvas c).trans h.repertoire_eq, h.rank_eq, h.layout_lt, h.active_eq,
    h.bounded.moves hmoves⟩

theorem write (text : String) : (s.write text).InCourse rank repertoire bound active base :=
  h.moves (Canvas.Moves.write s.canvas text)

theorem print (text : String) : (s.print text).InCourse rank repertoire bound active base :=
  ⟨(s.stage.repertoire_print text).trans h.repertoire_eq, h.rank_eq, h.layout_lt, h.active_eq,
    h.bounded⟩

/-- A stage to which a render has returned may take the place of the one at hand. -/
theorem of_returns {stage : Stage} (hreturns : s.stage.Returns stage) :
    Scene.InCourse rank repertoire bound active base { s with stage := stage } :=
  ⟨hreturns.repertoire_eq.trans h.repertoire_eq, h.rank_eq, h.layout_lt,
    hreturns.active_eq.trans h.active_eq, Nat.le_trans hreturns.depth_le h.bounded⟩

theorem onCanvas {operation : CanvasOperation} (ho : operation.isOrderly) :
    Leaves (Scene.InCourse rank repertoire bound active base) (onCanvas operation s) :=
  leaves_some (h.moves (Canvas.moves_perform s.canvas ho))

theorem writeValue (v : Value) :
    Leaves (Scene.InCourse rank repertoire bound active base) (writeValue v s) := by
  unfold TemplateEngine.writeValue
  split
  · exact leaves_some h
  · split
    · exact leaves_some h
    · exact leaves_some (h.write _)

theorem showSection (name : String) (default : Value) :
    Leaves (Scene.InCourse rank repertoire bound active base) (showSection name default s) := by
  unfold TemplateEngine.showSection
  split
  · exact h.onCanvas rfl
  · exact h.onCanvas rfl
  · split
    · exact leaves_some h
    · exact h.onCanvas rfl

/-- A function that is called for the template asks for such operations only. -/
theorem asks_function (hr : repertoire.Ranked rank) {name : String} {f : TemplateFunction}
    (hf : s.stage.engine.functions.value? name = some f) (arguments : List Value)
    (named : Dictionary Value) :
    (f.call (some s.template.name) arguments named).Asks (Operation.IsBelow rank bound) := by
  have hfound : repertoire.functions.value? name = some f := by
    rw [← h.repertoire_eq]
    exact hf
  rw [← h.rank_eq]
  exact hr.function hfound s.template.name arguments named

include hn

theorem fetchTemplate (name : String) (data : Dictionary Value) :
    Leaves (Scene.InCourse rank repertoire bound active base)
      (fetchTemplate nested name data s) := by
  have hrender := hn.render data (s := ⟨s.stage.engine.make name, s.stage⟩) h.repertoire_eq nofun
  unfold TemplateEngine.fetchTemplate
  cases hleft : nested.render data ⟨s.stage.engine.make name, s.stage⟩ with
  | none => exact leaves_none
  | some left =>
    rw [hleft] at hrender
    exact leaves_some (h.of_returns hrender.of_some)

theorem insert (name : String) (data : Dictionary Value) (own : Bool) :
    Leaves (Scene.InCourse rank repertoire bound active base)
      (perform nested (.insert name data own) s) := by
  have hfetch := h.fetchTemplate hn name (s.template.dataFor data own)
  simp only [TemplateEngine.perform]
  rcases hleft : TemplateEngine.fetchTemplate nested name (s.template.dataFor data own) s with
    _ | ⟨fault | text, s'⟩
  · exact leaves_none
  · exact leaves_some (hfetch _ _ hleft)
  · exact leaves_some ((hfetch _ _ hleft).write text)

include hr

theorem callFunction (name : String) (arguments : List Value) (named : Dictionary Value) :
    Leaves (Scene.InCourse rank repertoire bound active base)
      (callFunction nested name arguments named s) := by
  unfold TemplateEngine.callFunction FunctionTable.fetch
  cases hf : s.stage.engine.functions.value? name with
  | none => exact leaves_some h
  | some f => exact hn.call (h.asks_function hr hf arguments named) h

theorem applyNamed (name : String) (v : Value) :
    Leaves (Scene.InCourse rank repertoire bound active base) (applyNamed nested name v s) := by
  unfold TemplateEngine.applyNamed
  split
  · exact h.callFunction hn hr name [v] []
  · cases s.stage.host.function? name with
    | none => exact leaves_some h
    | some f => exact leaves_some (h.print _)

theorem throughFunctions (names : List String) (v : Value) :
    Leaves (Scene.InCourse rank repertoire bound active base)
      (throughFunctions nested names v s) := by
  induction names generalizing v s with
  | nil => exact leaves_some h
  | cons name rest ih =>
    have hfirst := h.applyNamed hn hr name v
    unfold TemplateEngine.throughFunctions
    rcases hleft : TemplateEngine.applyNamed nested name v s with _ | ⟨fault | v', s'⟩
    · exact leaves_none
    · exact leaves_some (hfirst _ _ hleft)
    · exact ih (hfirst _ _ hleft) v'

theorem batch (v : Value) (functions : String) :
    Leaves (Scene.InCourse rank repertoire bound active base) (batch nested v functions s) := by
  unfold TemplateEngine.batch
  cases s.stage.engine.functionNames functions with
  | error fault => exact leaves_some h
  | ok names => exact h.throughFunctions hn hr names v

theorem escape (v : Value) (functions : String) :
    Leaves (Scene.InCourse rank repertoire bound active base) (escape nested v functions s) := by
  have hbatch := h.batch hn hr v functions
  unfold TemplateEngine.escape
  split
  · exact leaves_some h
  · rcases hleft : TemplateEngine.batch nested v functions s with _ | ⟨fault | v', s'⟩
    · exact leaves_none
    · exact leaves_some (hbatch _ _ hleft)
    · exact leaves_some (hbatch _ _ hleft)

end Scene.InCourse

/-- An operation that refers to templates of a lower rank keeps what holds while a body runs. -/
theorem perform_inCourse (hn : nested.KeepsCourse rank repertoire) (hr : repertoire.Ranked rank)
    {operation : Operation} (ho : operation.IsBelow rank bound)
    (h : s.InCourse rank repertoire bound active base) :
    Leaves (Scene.InCourse rank repertoire bound active base) (perform nested operation s) := by
  cases operation with
  | canvas operation => exact h.onCanvas ho.isOrderly
  | write v => exact h.writeValue v
  | showSection name default => exact h.showSection name default
  | data given =>
    cases given with
    | none => exact leaves_some h
    | some given =>
      exact leaves_some ⟨h.repertoire_eq, h.rank_eq, h.layout_lt, h.active_eq, h.bounded⟩
  -- The layout declared last is the one of the template, and it has a lower rank.
  | layout name data =>
    exact leaves_some ⟨h.repertoire_eq, h.rank_eq, ho.lt, h.active_eq, h.bounded⟩
  | layoutName | name | hasFunction _ | exists? | path | state => exact leaves_some h
  | fetch name data own => exact leaves_answer (h.fetchTemplate hn name _)
  | insert name data own => exact h.insert hn name data own
  | render data => cases ho.isOrderly
  | display => cases ho.runsAnew_eq
  | call name arguments named => exact h.callFunction hn hr name arguments named
  | batch v functions => exact h.batch hn hr v functions
  | escape v functions => exact h.escape hn hr v functions
  | observe label outcome =>
    exact leaves_some ⟨(s.repertoire_note label outcome).trans h.repertoire_eq, h.rank_eq,
      h.layout_lt, h.active_eq, h.bounded⟩

/-- So does a program that asks for such operations only. -/
theorem run_inCourse {α : Type} (hn : nested.KeepsCourse rank repertoire)
    (hr : repertoire.Ranked rank) {p : Program α} (hp : p.Asks (Operation.IsBelow rank bound))
    (h : s.InCourse rank repertoire bound active base) :
    Leaves (Scene.InCourse rank repertoire bound active base) (p.run (perform nested) s) := by
  refine hp.leaves_run (fun operation s' ho hs => ?_) h
  exact perform_inCourse hn hr ho hs

/-! ### Renders -/

/-- Looking up a body counts nothing. -/
theorem Stage.activeRenders_body (s : Stage) (name : String) :
    (s.body name).2.engine.activeRenders = s.engine.activeRenders := by
  rcases s.body_snd name with h | ⟨path, h⟩
  · rw [h]
  · rw [h]
    rcases s.compiledFile_snd path with hfile | ⟨file, -, -, -, hkept⟩
    · rw [hfile]
    · rw [hkept]
      rfl

/-- What holds while a body runs holds when it starts. -/
theorem Scene.inCourse_inBody (hs : s.stage.repertoire = repertoire)
    (hlayout : s.template.LayoutBelow rank) (data : Dictionary Value) :
    (s.inBody data).InCourse rank repertoire (rank s.template.name)
      (s.stage.engine.activeRenders + 1) (s.stage.capture.depth + 1) where
  repertoire_eq := (s.repertoire_inBody data).trans hs
  rank_eq := rfl
  layout_lt := hlayout
  active_eq := Stage.activeRenders_body _ _
  bounded := .of_depth_le (Nat.le_of_eq (congrArg Capture.depth (s.capture_inBody data)))

/-- A body that is ended has no section open, and its region is closed. -/
theorem finishBody_region {content : String} {closed : Scene}
    (h : finishBody s = (.ok content, closed)) :
    s.template.store.openName = none ∧ ∃ capture,
      s.stage.capture.closeRegion? = some (content, capture) ∧ closed = s.withCapture capture := by
  unfold finishBody Capture.finish at h
  cases hopen : s.template.store.openName with
  | some name => simp [hopen] at h
  | none =>
    cases hregion : s.stage.capture.closeRegion? with
    | none => simp [hopen, hregion] at h
    | some closing =>
      obtain ⟨rfl, rfl⟩ : closing.1 = content ∧ s.withCapture closing.2 = closed := by
        simpa [hopen, hregion, Scene.withCapture] using h
      exact ⟨rfl, closing.2, rfl, rfl⟩

/-- When a body is ended there is one region less, and no section is open. -/
theorem Scene.InCourse.finished (h : s.InCourse rank repertoire bound active (base + 1))
    {content : String} {closed : Scene} (hfinish : finishBody s = (.ok content, closed)) :
    closed.InCourse rank repertoire bound active base ∧ closed.stage.capture.depth ≤ base := by
  obtain ⟨hopen, capture, hregion, rfl⟩ := finishBody_region hfinish
  have hdepth := h.bounded.of_closed hopen
  rw [show s.canvas.capture.depth = capture.depth + 1 from
    Capture.depth_of_closeRegion? hregion] at hdepth
  have hclosed : capture.depth ≤ base := Nat.le_of_succ_le_succ hdepth
  exact ⟨⟨(s.stage.repertoire_withCapture capture).trans h.repertoire_eq, h.rank_eq, h.layout_lt,
    h.active_eq, .of_depth_le hclosed⟩, hclosed⟩

/-- The layout of a body that is ended leaves no more regions than there are. -/
theorem applyLayout_returns (hn : nested.KeepsCourse rank repertoire)
    (hs : s.stage.repertoire = repertoire) (content : String) :
    Leaves (fun s' => s.stage.Returns s'.stage) (applyLayout nested content s) := by
  cases hname : s.template.layoutName with
  | none =>
    rw [applyLayout_of_none nested content hname]
    exact leaves_some ⟨rfl, rfl, Nat.le_refl _⟩
  | some name =>
    have hrender := hn.render s.template.layoutData (s := s.layoutScene name content)
      ((s.stage.repertoire_emit _).trans hs) nofun
    rw [applyLayout_of_some nested content hname]
    cases hleft : nested.render s.template.layoutData (s.layoutScene name content) with
    | none => exact leaves_none
    | some left =>
      rw [hleft] at hrender
      have hreturns := hrender.of_some
      exact leaves_some ⟨hreturns.repertoire_eq.trans (s.stage.repertoire_emit _),
        hreturns.active_eq, hreturns.depth_le⟩

/-- When a render has come to its end and is not yet cleaned up, it is still counted. It has left
the regions of its body and of an open section at most, and none if it succeeds. -/
structure Stage.Finishes (s : Stage) (outcome : Except Fault String) (s' : Stage) : Prop where
  repertoire_eq : s'.repertoire = s.repertoire
  active_eq : s'.engine.activeRenders = s.engine.activeRenders + 1
  depth_le : s'.capture.depth ≤ s.capture.depth + 2
  depth_le_of_ok : ∀ text, outcome = .ok text → s'.capture.depth ≤ s.capture.depth

variable {data : Dictionary Value} {outcome : Except Fault String} {left : Scene}

/-- What holds while a body runs holds when it comes to its end. -/
theorem Scene.inCourse_of_run (hn : nested.KeepsCourse rank repertoire)
    (hr : repertoire.Ranked rank) (hs : s.stage.repertoire = repertoire)
    (hlayout : s.template.LayoutBelow rank) {body : Program Unit} {ended : Except Fault Unit}
    (hbody : s.stage.repertoire.body s.template.name = .ok body)
    (hrun : body.run (perform nested) (s.inBody data) = some (ended, left)) :
    left.InCourse rank repertoire (rank s.template.name) (s.stage.engine.activeRenders + 1)
      (s.stage.capture.depth + 1) :=
  run_inCourse hn hr (hr.body (hs ▸ hbody)) (s.inCourse_inBody hs hlayout data) _ _ hrun

/-- When its region is closed, the body has left none. -/
theorem Scene.inCourse_of_closed (hn : nested.KeepsCourse rank repertoire)
    (hr : repertoire.Ranked rank) (hs : s.stage.repertoire = repertoire)
    (hlayout : s.template.LayoutBelow rank) {body : Program Unit} {ended : Except Fault Unit}
    {content : String} {closed : Scene}
    (hbody : s.stage.repertoire.body s.template.name = .ok body)
    (hrun : body.run (perform nested) (s.inBody data) = some (ended, left))
    (hfinish : finishBody left = (.ok content, closed)) :
    closed.InCourse rank repertoire (rank s.template.name) (s.stage.engine.activeRenders + 1)
      s.stage.capture.depth ∧ closed.stage.capture.depth ≤ s.stage.capture.depth :=
  (inCourse_of_run hn hr hs hlayout hbody hrun).finished hfinish

/-- However a render comes to its end, it does so properly. -/
theorem Scene.EndsAt.finishes (h : s.EndsAt nested data outcome left)
    (hn : nested.KeepsCourse rank repertoire) (hr : repertoire.Ranked rank)
    (hs : s.stage.repertoire = repertoire) (hlayout : s.template.LayoutBelow rank) :
    s.stage.Finishes outcome left.stage := by
  have hends {fault : Fault} {s' : Scene} {bound : Nat}
      (h : s'.InCourse rank repertoire bound (s.stage.engine.activeRenders + 1)
        (s.stage.capture.depth + 1)) : s.stage.Finishes (.error fault) s'.stage :=
    ⟨h.repertoire_eq.trans hs.symm, h.active_eq, h.bounded.depth_le, nofun⟩
  cases h with
  | notFound => exact hends (s.inCourse_inBody hs hlayout data)
  | failed hbody hrun => exact hends (inCourse_of_run hn hr hs hlayout hbody hrun)
  | unclosed hbody hrun hfinish =>
    obtain rfl := finishBody_error_inv hfinish
    exact hends (inCourse_of_run hn hr hs hlayout hbody hrun)
  | ended hbody hrun hfinish happlied =>
    obtain ⟨hclosed, hdepth⟩ := inCourse_of_closed hn hr hs hlayout hbody hrun hfinish
    have hreturns := applyLayout_returns hn hclosed.repertoire_eq _ _ _ happlied
    have hle := Nat.le_trans hreturns.depth_le hdepth
    exact ⟨hreturns.repertoire_eq.trans (hclosed.repertoire_eq.trans hs.symm),
      hreturns.active_eq.trans hclosed.active_eq, Nat.le_add_right_of_le hle, fun _ _ => hle⟩

/-- A render that came to its end properly is settled so that nothing is left of it. -/
theorem Stage.Finishes.settle (h : s.stage.Finishes outcome left.stage) :
    s.stage.Returns (s.settle outcome left).stage := by
  cases outcome with
  | ok text =>
    refine ⟨(Stage.repertoire_leave _).trans h.repertoire_eq, ?_, h.depth_le_of_ok text rfl⟩
    exact congrArg (· - 1) h.active_eq
  | error fault =>
    refine ⟨?_, congrArg (· - 1) h.active_eq, ?_⟩
    · simp [Scene.settle, abandon, h.repertoire_eq]
    · exact Nat.le_trans (Nat.le_of_eq (Capture.depth_unwind _ _)) (Nat.min_le_right _ _)

/-- A render has come to its end, and then it is settled. -/
theorem renderWith_settles (h : renderWith nested data s = some (outcome, left)) :
    ∃ ended, s.EndsAt nested data outcome ended ∧ left = s.settle outcome ended := by
  obtain ⟨⟨outcome, ended⟩, hended, hleft⟩ :=
    Option.map_eq_some_iff.mp ((renderWith_eq_settle nested data s).symm.trans h)
  cases hleft
  exact ⟨ended, renderBody_inv hended, rfl⟩

/-- Nothing is left of a render, whether it succeeds or fails. -/
theorem renderWith_returns (hn : nested.KeepsCourse rank repertoire) (hr : repertoire.Ranked rank)
    (data : Dictionary Value) (hs : s.stage.repertoire = repertoire)
    (hlayout : s.template.LayoutBelow rank) :
    Leaves (fun s' => s.stage.Returns s'.stage) (renderWith nested data s) := by
  intro outcome after hafter
  obtain ⟨left, hends, rfl⟩ := renderWith_settles hafter
  exact (hends.finishes hn hr hs hlayout).settle

/-- Nested renders and calls of any depth keep what holds around them. -/
theorem keepsCourse_nestedAt (hr : repertoire.Ranked rank) (depth : Nat) :
    (nestedAt depth).KeepsCourse rank repertoire := by
  induction depth with
  | zero => exact ⟨fun _ _ _ _ => leaves_none, fun _ _ => leaves_none⟩
  | succ depth ih =>
    exact ⟨fun data _ hs hlayout => renderWith_returns ih hr data hs hlayout,
      fun hp h => run_inCourse ih hr hp h⟩

end Course

end TemplateEngine
