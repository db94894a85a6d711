import TemplateEngine.Proofs.Render.Body

/-!
# The chronicle of a render

The chronicle of a render lists what happens in its course: the look-up of its body, what the body
does, and the render of its layout, with whatever happens inside of these. It goes along with the
outcome: where nested renders have none, the chronicle is empty.

## Main definitions

* `Chronicle.ofRender`: what happens in the course of a render.
* `chronicleAt`: what happens in nested renders and calls up to a given depth.
* `Chronicle.Ends`: how a render comes to its end, with its chronicle.
* `Stage.Law`: a relation between stages holds across whatever renders are made of.

## Main results

* `renderWith_ends`: a render has come to its end in one of these ways.
* `Stage.Law.obeys_nestedAt`: such a relation holds across all renders and all calls of programs.
* `repertoire_render`, `repertoire_run`: no program changes what can be looked up.
-/

namespace TemplateEngine

/-- The scene in which the body of a render is found and run, in a region of its own. -/
def Scene.opening (s : Scene) (data : Dictionary Value) : Scene :=
  ⟨s.template.assign data, (s.begin data).stage.openRegion⟩

/-- How the render of a layout ended, for the template that declared it. -/
def Ending.ofLayout : Except Fault String → Ending
  | .ok _ => .returned
  | .error fault => .layoutFailed fault.kind

/-- How a render ends when its body has ended. -/
def Ending.ofBody (nested : Nested) : Evaluation Unit → Ending
  | none => .returned
  | some (.error fault, s) => .bodyFailed fault.kind s.template.store.isCaptured
  | some (.ok _, s) =>
    match finishBody s with
    | (.error fault, s') => .bodyFailed fault.kind s'.template.store.isCaptured
    | (.ok content, s') =>
      match applyLayout nested content s' with
      | none => .returned
      | some (outcome, _) => .ofLayout outcome

namespace Chronicle

variable (chronicle : Chronicle) (nested : Nested)

/-- What happens while the body of a template is found and run. -/
def ofDisplay (s : Scene) : List Occurrence :=
  .lookUp s.stage s.template.name :: match s.stage.body s.template.name with
    | (.error _, _) => []
    | (.ok body, stage) => chronicle.ofProgram nested body { s with stage := stage }

/-- What happens while the layout of a template is rendered, if it declared one. -/
def ofLayout (content : String) (s : Scene) : List Occurrence :=
  match s.template.layoutName with
  | none => []
  | some name => chronicle.render s.template.layoutData (s.layoutScene name content)

/-- What happens in a render when its body has ended. -/
def ofCompletion : Evaluation Unit → List Occurrence
  | some (.ok _, s) =>
    match finishBody s with
    | (.error _, _) => []
    | (.ok content, s') => chronicle.ofLayout content s'
  | _ => []

/-- What happens in the course of a render. -/
def ofRender (data : Dictionary Value) (s : Scene) : List Occurrence :=
  let ended := display nested (s.opening data)
  let inner := chronicle.ofDisplay nested (s.opening data) ++ chronicle.ofCompletion ended
  [.render (s.begin data) inner (.ofBody nested ended)]

/-- How a render comes to its end, and what happened before: the body is not found or fails, it
leaves a section open, it is ended and declared no layout, or it has a layout. -/
inductive Ends (s : Scene) : Except Fault String → Scene → List Occurrence → Ending → Prop
  | failed {fault : Fault} {left : Scene}
    (hdisplay : display nested s = some (.error fault, left)) :
    Ends s (.error fault) left (chronicle.ofDisplay nested s)
      (.bodyFailed fault.kind left.template.store.isCaptured)
  | unclosed {fault : Fault} {left : Scene} (hdisplay : display nested s = some (.ok (), left))
    (hfinish : finishBody left = (.error fault, left)) :
    Ends s (.error fault) left (chronicle.ofDisplay nested s)
      (.bodyFailed fault.kind left.template.store.isCaptured)
  | plain {content : String} {finish left : Scene}
    (hdisplay : display nested s = some (.ok (), finish))
    (hfinish : finishBody finish = (.ok content, left)) (hname : left.template.layoutName = none) :
    Ends s (.ok content) left (chronicle.ofDisplay nested s) .returned
  | layout {content name : String} {finish closed after : Scene} {outcome : Except Fault String}
    (hdisplay : display nested s = some (.ok (), finish))
    (hfinish : finishBody finish = (.ok content, closed))
    (hname : closed.template.layoutName = some name)
    (hrender : nested.render closed.template.layoutData (closed.layoutScene name content) =
      some (outcome, after)) :
    Ends s outcome ⟨closed.template.setContent content, after.stage⟩
      (chronicle.ofDisplay nested s ++
        chronicle.render closed.template.layoutData (closed.layoutScene name content))
      (.ofLayout outcome)

end Chronicle

/-- What happens in the course of nested renders and calls up to a given depth. -/
def chronicleAt : Nat → Chronicle
  | 0 => ⟨fun _ _ => [], fun _ _ => []⟩
  | depth + 1 =>
    { render := (chronicleAt depth).ofRender (nestedAt depth)
      call := (chronicleAt depth).ofProgram (nestedAt depth) }

/-- The stage that a render leaves, given its outcome and what its body or its layout left. -/
def Scene.settle (s : Scene) (outcome : Except Fault String) (left : Scene) : Scene :=
  match outcome with
  | .ok _ => { left with stage := left.stage.leave }
  | .error fault => { left with stage := (abandon s.template.name s.stage.capture.depth
      (decide (0 < s.stage.engine.activeRenders)) fault left.stage).leave }

section Ends

variable {nested : Nested} {chronicle : Chronicle} {s : Scene}

/-- A body that cannot be ended leaves its scene as it was. -/
theorem finishBody_error_inv {fault : Fault} {left : Scene}
    (h : finishBody s = (.error fault, left)) : left = s := by
  unfold finishBody at h
  cases hopen : s.template.store.openName with
  | some name => simp_all
  | none =>
    simp only [hopen, Capture.finish] at h
    cases hregion : s.stage.capture.closeRegion? with
    | some closed => simp [hregion] at h
    | none =>
      simp only [hregion, Prod.mk.injEq] at h
      exact h.2.symm

/-- A render runs its body to the end and then settles its stage. -/
theorem renderWith_eq_settle (nested : Nested) (data : Dictionary Value) (s : Scene) :
    renderWith nested data s =
      (completeBody nested (display nested (s.opening data))).map fun left =>
        (left.1, s.settle left.1 left.2) := by
  have hbody : renderBody nested (s.begin data) =
      completeBody nested (display nested (s.opening data)) := rfl
  rw [renderWith_eq, hbody]
  rcases completeBody nested (display nested (s.opening data)) with _ | ⟨fault | text, left⟩ <;> rfl

/-- A render has come to its end in one of these ways, and then it is settled. -/
theorem renderWith_ends {data : Dictionary Value} {outcome : Except Fault String} {after : Scene}
    (chronicle : Chronicle) (h : renderWith nested data s = some (outcome, after)) :
    ∃ left inner ending, chronicle.Ends nested (s.opening data) outcome left inner ending ∧
      after = s.settle outcome left ∧
      chronicle.ofRender nested data s = [.render (s.begin data) inner ending] := by
  obtain ⟨⟨outcome, left⟩, hleft, hafter⟩ :=
    Option.map_eq_some_iff.mp ((renderWith_eq_settle nested data s).symm.trans h)
  cases hafter
  unfold Chronicle.ofRender
  rcases hdisplay : display nested (s.opening data) with _ | ⟨fault | _, finish⟩
  · simp [hdisplay, completeBody] at hleft
  · obtain ⟨rfl, rfl⟩ : .error fault = outcome ∧ finish = left := by
      simpa [hdisplay, completeBody] using hleft
    exact ⟨finish, _, _, .failed hdisplay, rfl, by
      simp [Chronicle.ofCompletion, Ending.ofBody]⟩
  rcases hfinish : finishBody finish with ⟨fault | content, closed⟩
  · obtain ⟨rfl, rfl⟩ : .error fault = outcome ∧ closed = left := by
      simpa [hdisplay, completeBody, hfinish] using hleft
    obtain rfl := finishBody_error_inv hfinish
    exact ⟨closed, _, _, .unclosed hdisplay hfinish, rfl, by
      simp [Chronicle.ofCompletion, Ending.ofBody, hfinish]⟩
  have hlayout : applyLayout nested content closed = some (outcome, left) := by
    simpa [hdisplay, completeBody, hfinish] using hleft
  cases hname : closed.template.layoutName with
  | none =>
    obtain ⟨rfl, rfl⟩ : .ok content = outcome ∧ closed = left := by
      simpa [applyLayout_of_none nested content hname] using hlayout
    exact ⟨closed, _, _, .plain hdisplay hfinish hname, rfl, by
      simp [Chronicle.ofCompletion, Ending.ofBody, Ending.ofLayout, Chronicle.ofLayout, hfinish,
        hlayout, hname]⟩
  | some name =>
    obtain ⟨after, hrender, hafter⟩ := Option.map_eq_some_iff.mp
      ((applyLayout_of_some nested content hname).symm.trans hlayout)
    cases hafter
    exact ⟨_, _, _, .layout hdisplay hfinish hname hrender, rfl, by
      simp [Chronicle.ofCompletion, Ending.ofBody, Chronicle.ofLayout, hfinish, hlayout, hname]⟩

end Ends

/-! ### Relations between stages -/

/-- Two stages have the same host and files and, but for the renders in progress, the same engine,
and the same was printed. -/
structure Stage.Alike (s s' : Stage) : Prop where
  host_eq : s'.host = s.host
  printed_eq : s'.printed = s.printed
  files_eq : s'.files = s.files
  engine_eq : ∃ active, s'.engine = { s.engine with activeRenders := active }

/-- A relation between two stages and what happens in between holds across whatever programs and
renders are made of. -/
structure Stage.Law (L : Stage → List Occurrence → Stage → Prop) : Prop where
  quiet : ∀ {s s'}, s.Alike s' → L s [] s'
  print : ∀ {s : Stage} {name f}, s.host.function? name = some f → ∀ v, L s [] (s.print (f v).2)
  trans : ∀ {s s' s'' first second}, L s first s' → L s' second s'' → L s (first ++ second) s''
  lookUp : ∀ s name, L s [.lookUp s name] (s.body name).2
  enclose : ∀ {begun : Scene} {s' inner}, L begun.stage inner s' → ∀ ending,
    L begun.stage [.render begun inner ending] s'

/-- The relation holds across nested renders and nested calls. -/
structure Nested.Obeys (nested : Nested) (chronicle : Chronicle)
    (L : Stage → List Occurrence → Stage → Prop) : Prop where
  render : ∀ data s, Leaves (fun s' => L s.stage (chronicle.render data s) s'.stage)
    (nested.render data s)
  call : ∀ p s, Leaves (fun s' => L s.stage (chronicle.call p s) s'.stage) (nested.call p s)

namespace Stage.Law

variable {L : Stage → List Occurrence → Stage → Prop} {nested : Nested} {chronicle : Chronicle}

/-- What comes before may be quiet. -/
theorem after_quiet (h : Stage.Law L) {s s' s'' : Stage} {occurrences : List Occurrence}
    (hquiet : s.Alike s') (hL : L s' occurrences s'') : L s occurrences s'' :=
  h.trans (h.quiet hquiet) hL

/-- What comes behind may be quiet. -/
theorem before_quiet (h : Stage.Law L) {s s' s'' : Stage} {occurrences : List Occurrence}
    (hL : L s occurrences s') (hquiet : s'.Alike s'') : L s occurrences s'' := by
  have htrans := h.trans hL (h.quiet hquiet)
  rwa [List.append_nil] at htrans

/-- The relation holds across operations if it holds across nested renders and calls. -/
theorem follows (h : Stage.Law L) (hn : nested.Obeys chronicle L) :
    nested.Follows chronicle fun s occurrences s' => L s.stage occurrences s'.stage where
  refl _ := h.quiet ⟨rfl, rfl, rfl, _, rfl⟩
  trans := h.trans
  canvas _ _ _ := h.quiet ⟨rfl, rfl, rfl, _, rfl⟩
  assign _ _ := h.quiet ⟨rfl, rfl, rfl, _, rfl⟩
  declare _ _ _ := h.quiet ⟨rfl, rfl, rfl, _, rfl⟩
  note _ _ _ := h.quiet ⟨rfl, rfl, rfl, _, rfl⟩
  print hf v := h.print hf v
  lookUp s := h.lookUp s.stage s.template.name
  fetch hleft := hn.render _ _ _ _ hleft
  call {s p} _ := hn.call p s

/-- So it holds across programs. -/
theorem run (h : Stage.Law L) (hn : nested.Obeys chronicle L) {α : Type} (p : Program α)
    (s : Scene) :
    Leaves (fun s' => L s.stage (chronicle.ofProgram nested p s) s'.stage)
      (p.run (perform nested) s) :=
  (h.follows hn).run_any (fun _ _ => h.quiet ⟨rfl, rfl, rfl, _, rfl⟩)
    (fun s data => hn.render data s) p s

/-- The relation holds across the look-up and the run of a body. -/
theorem display (h : Stage.Law L) (hn : nested.Obeys chronicle L) (s : Scene) :
    Leaves (fun s' => L s.stage (chronicle.ofDisplay nested s) s'.stage) (display nested s) := by
  have hlookUp := h.lookUp s.stage s.template.name
  unfold TemplateEngine.display Chronicle.ofDisplay
  rcases hlooked : s.stage.body s.template.name with ⟨fault | body, stage⟩
  · rw [hlooked] at hlookUp
    exact leaves_some hlookUp
  · rw [hlooked] at hlookUp
    exact (h.run hn body { s with stage := stage }).imp fun _ hbody => h.trans hlookUp hbody

/-- Ending a body is quiet. -/
theorem alike_finishBody {s left : Scene} {outcome : Except Fault String}
    (hfinish : finishBody s = (outcome, left)) : s.stage.Alike left.stage := by
  have hleft : left = (finishBody s).2 := by rw [hfinish]
  rw [hleft]
  unfold finishBody
  cases s.template.store.openName with
  | some name => exact ⟨rfl, rfl, rfl, _, rfl⟩
  | none => exact ⟨rfl, rfl, rfl, _, rfl⟩

/-- Logging, cleaning up and counting are quiet. -/
theorem alike_settle (s : Scene) (outcome : Except Fault String) (left : Scene) :
    left.stage.Alike (s.settle outcome left).stage := by
  cases outcome with
  | ok text => exact ⟨rfl, rfl, rfl, _, rfl⟩
  | error fault => exact ⟨rfl, rfl, rfl, _, rfl⟩

/-- The relation holds from the beginning of a body to the end of the render. -/
theorem ends (h : Stage.Law L) (hn : nested.Obeys chronicle L) {s left : Scene}
    {outcome : Except Fault String} {inner : List Occurrence} {ending : Ending}
    (hends : chronicle.Ends nested s outcome left inner ending) : L s.stage inner left.stage := by
  cases hends with
  | failed hdisplay => exact h.display hn s _ _ hdisplay
  | unclosed hdisplay => exact h.display hn s _ _ hdisplay
  | plain hdisplay hfinish =>
    exact h.before_quiet (h.display hn s _ _ hdisplay) (alike_finishBody hfinish)
  | @layout content name _ closed _ _ hdisplay hfinish _ hlayout =>
    have hclosed := h.before_quiet (h.display hn s _ _ hdisplay) (alike_finishBody hfinish)
    have hemitted : closed.stage.Alike (closed.layoutScene name content).stage :=
      ⟨rfl, rfl, rfl, _, rfl⟩
    have hlaidOut := hn.render _ _ _ _ hlayout
    exact h.trans (h.before_quiet hclosed hemitted) hlaidOut

/-- The relation holds across renders if it holds across nested renders and nested calls. -/
theorem renderWith (h : Stage.Law L) (hn : nested.Obeys chronicle L) (data : Dictionary Value)
    (s : Scene) :
    Leaves (fun s' => L s.stage (chronicle.ofRender nested data s) s'.stage)
      (renderWith nested data s) := by
  intro outcome after hafter
  obtain ⟨left, inner, ending, hends, rfl, hchronicle⟩ := renderWith_ends chronicle hafter
  have hbegun : s.stage.Alike (s.begin data).stage := ⟨rfl, rfl, rfl, _, rfl⟩
  have hopened : (s.begin data).stage.Alike (s.opening data).stage := ⟨rfl, rfl, rfl, _, rfl⟩
  have hinner := h.after_quiet hopened
    (h.before_quiet (h.ends hn hends) (alike_settle s outcome left))
  rw [hchronicle]
  exact h.after_quiet hbegun (h.enclose hinner ending)

/-- A relation that holds across what renders are made of holds across all nested renders and all
nested calls, of any depth. -/
theorem obeys_nestedAt (h : Stage.Law L) (depth : Nat) :
    (nestedAt depth).Obeys (chronicleAt depth) L := by
  -- Renders and calls of one depth are made of look-ups and of what is one level deeper.
  induction depth with
  | zero => exact ⟨fun _ _ => leaves_none, fun _ _ => leaves_none⟩
  | succ depth ih => exact ⟨h.renderWith ih, fun p s => h.run ih p s⟩

end Stage.Law

/-! ### What can be looked up -/

/-- No look-up changes what can be looked up later. -/
theorem Stage.law_repertoire : Stage.Law fun s _ s' => s'.repertoire = s.repertoire where
  quiet := fun ⟨hhost, _, hfiles, active, hengine⟩ =>
    Stage.repertoire_congr active hhost hfiles hengine
  print _ _ := Stage.repertoire_print _ _
  trans h h' := h'.trans h
  lookUp s name := s.repertoire_body name
  enclose h _ := h

/-- No render changes what can be looked up. -/
theorem repertoire_render (depth : Nat) (data : Dictionary Value) (s : Scene) :
    Leaves (fun s' => s'.stage.repertoire = s.stage.repertoire)
      ((nestedAt depth).render data s) :=
  (Stage.law_repertoire.obeys_nestedAt depth).render data s

/-- No program changes what can be looked up. -/
theorem repertoire_run (depth : Nat) {α : Type} (p : Program α) (s : Scene) :
    Leaves (fun s' => s'.stage.repertoire = s.stage.repertoire)
      (p.run (perform (nestedAt depth)) s) :=
  Stage.law_repertoire.run (Stage.law_repertoire.obeys_nestedAt depth) p s

end TemplateEngine
