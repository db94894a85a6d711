import Mathlib.Data.List.Chain
import TemplateEngine.Proofs.Render.Body

/-!
# What a template hands over to its layout

A render that succeeds is a chain of legs. In each leg a body runs to its end in a region of its
own; all but the last one declare the next one as their layout. The layout starts with the
sections and modes that the body has left, and finds the text of the body as the content section,
which nothing that its own body can do changes. The text of the render is that of the last body.

## Main definitions

* `Leg`: where a body starts and ends, its text, and the template that is left.
* `Leg.Ran`, `Leg.HandsOver`: what holds of each leg, and of each leg and the next one.

## Main results

* `Leg.exists_of_render`: a render that succeeds has a first leg, and then applies the layout.
* `Leg.handsOver_of_start`: what the layout starts with, and what stays throughout its body.
-/

namespace TemplateEngine

/-- The part of one template in a render: the scenes in which its body starts and ends, the text
of the body, and the template that is left in the end. -/
structure Leg where
  start : Scene
  finish : Scene
  content : String
  left : Template

namespace Leg

/-- The part of a template in a render that answered `text`, with the capture `entry` around it. -/
structure Ran (repertoire : Repertoire) (entry : Capture) (text : String) (leg : Leg) : Prop where
  /-- The body was found, and it ran from the start to the end in the course of a render, which
  left the template. -/
  render : ∃ depth data before after body,
    (nestedAt (depth + 1)).render data before = some (.ok text, after) ∧
    leg.start = before.inBody data ∧ repertoire.body before.template.name = .ok body ∧
    body.run (perform (nestedAt depth)) leg.start = some (.ok (), leg.finish) ∧
    leg.left = after.template
  closed : leg.finish.template.store.openName = none
  capture_start : leg.start.stage.capture = entry.openRegion
  capture_finish : leg.finish.stage.capture = entry.openRegion.write leg.content
  /-- Whatever an orderly program can come to ask for in the course of the body is an act. -/
  acts : ∀ {s : Scene}, leg.start.Acts s → ∀ {α : Type} {p : Program α}, p.Orderly →
    ∀ depth, Leaves leg.start.Acts (p.run (perform (nestedAt depth)) s)
  /-- Throughout the body the depth is one more than around it, not counting the region of a
  section that is open. -/
  depth_eq : ∀ {s : Scene}, leg.start.Acts s →
    s.stage.capture.depth = entry.depth + 1 + if s.template.store.isCaptured then 1 else 0

/-- A template declares the next one as its layout, and hands over its sections. -/
structure HandsOver (a b : Leg) : Prop where
  declares : a.finish.template.layoutName = some b.start.template.name
  store_eq : b.start.template.store =
    { sections := a.finish.template.store.sections.put contentSection a.content
      modes := a.finish.template.store.modes }
  /-- Throughout the body of the layout the content section holds the text of the body that
  declared it, and has no mode. -/
  content_eq : ∀ {s : Scene}, b.start.Acts s →
    (∀ nested default, perform nested (.canvas (.section contentSection default)) s =
      some (.ok (.str a.content), s)) ∧
    s.template.store.modes.value? contentSection = none
  left_eq : a.left = a.finish.template.setContent a.content

section

variable {s s' : Scene} {data : Dictionary Value} {depth : Nat}
  {text : String}

/-- The first body of a render that succeeds, and what comes after it. -/
theorem exists_of_render (hr : s.stage.repertoire.Orderly)
    (hcaptured : s.template.store.isCaptured = false) (hregular : s.template.store.Regular)
    (h : (nestedAt (depth + 1)).render data s = some (.ok text, s')) :
    ∃ leg : Leg, leg.start = s.inBody data ∧ leg.left = s'.template ∧
      leg.Ran s.stage.repertoire s.stage.capture text ∧
      leg.finish.template.store.Regular ∧ leg.finish.stage.repertoire = s.stage.repertoire ∧
      ∃ left, applyLayout (nestedAt depth) leg.content
          (leg.finish.withCapture s.stage.capture) = some (.ok text, left) ∧
        s'.template = left.template := by
  obtain ⟨left, hends, hafter, -⟩ := renderWith_inv h
  cases hends with
  | @ended body finish closed content _ _ hbody hrun hfinish hlayout =>
    have hstart := Scene.within_inBody hcaptured data
    have hacts := run_acts ((s.repertoire_inBody data).symm ▸ hr) (hr.body hbody) depth _ _ hrun
    have hwithin := hacts.within hr hstart
    obtain ⟨hclosed, hcapture, rfl⟩ := finishBody_ok_inv hwithin hfinish
    refine ⟨⟨s.inBody data, finish, content, s'.template⟩, rfl, rfl, ?_, hacts.regular hregular,
      hwithin.repertoire_eq, left, hlayout, hafter⟩
    exact
      { render := ⟨depth, data, s, s', body, h, rfl, hbody, hrun, rfl⟩
        closed := hclosed
        capture_start := s.capture_inBody data
        capture_finish := hcapture
        acts := fun {s₁} hacts₁ _ p hp depth => by
          have hrepertoire := (hacts₁.within hr hstart).repertoire_eq
          exact (run_acts (hrepertoire ▸ hr) hp depth).imp fun _ hrest => hacts₁.trans hrest
        depth_eq := fun hacts₁ => (hacts₁.within hr hstart).inStep.depth }

/-- A layout starts with what the body before it has left, and its content section stays. -/
theorem handsOver_of_start {a b : Leg} {name : String} {capture : Capture}
    (hname : a.finish.template.layoutName = some name)
    (hregular : a.finish.template.store.Regular)
    (hstart : b.start = ((a.finish.withCapture capture).layoutScene name a.content).inBody data)
    (hleft : a.left = a.finish.template.setContent a.content) : a.HandsOver b where
  declares := by rw [hname, hstart]; rfl
  store_eq := by rw [hstart]; rfl
  content_eq {s} hacts := by
    have hstore : b.start.template.store =
        { sections := a.finish.template.store.sections.put contentSection a.content
          modes := a.finish.template.store.modes } := by rw [hstart]; rfl
    have hb : b.start.template.store.Regular := by
      rw [hstore]
      exact .of_closed _ hregular.content_mode
    have hcontent : s.template.store.sections.value? contentSection = some a.content := by
      rw [hacts.content_eq hb, hstore]
      exact Dictionary.value?_put_self _ _ _
    refine ⟨fun nested default => ?_, (hacts.regular hb).content_mode⟩
    change some (Except.ok
      ((s.template.store.sections.value? contentSection).elim default Value.str), s) = _
    rw [hcontent]
    rfl
  left_eq := hleft

end

/-- Every render that succeeds is a chain of legs, whatever the length. All bodies run on the
capture that the first one found, with a region of their own. A layout starts with the sections
and modes that the body which declared it has left, and with the text of that body as the content
section, which nothing in the course of its own body changes; and each template is left with the
sections of its own body, and its content if it declared a layout. The text of the render is that
of the last body. What is asked of the first template holds of every fresh one, and again when it
was rendered. -/
theorem chain_of_render {depth : Nat} {data : Dictionary Value} {s s' : Scene} {text : String}
    (hr : s.stage.repertoire.Orderly) (hcaptured : s.template.store.isCaptured = false)
    (hregular : s.template.store.Regular)
    (h : (nestedAt depth).render data s = some (.ok text, s')) :
    ∃ (first : Leg) (rest : List Leg), first.start = s.inBody data ∧ first.left = s'.template ∧
      (∀ leg ∈ first :: rest, leg.Ran s.stage.repertoire s.stage.capture text) ∧
      (first :: rest).IsChain HandsOver ∧
      (∃ last, (first :: rest).getLast? = some last ∧
        last.finish.template.layoutName = none ∧ last.content = text ∧
        last.left = last.finish.template) ∧
      s'.template.store.isCaptured = false ∧ s'.template.store.Regular := by
  -- A layout is rendered one level deeper, from a scene of its own and with data of its own.
  induction depth generalizing s s' data with
  | zero => cases h
  | succ depth ih =>
    obtain ⟨first, hstart, hleft, hran, hregular', hrepertoire, left, hlayout, hafter⟩ :=
      exists_of_render hr hcaptured hregular h
    have hlayoutName : (first.finish.withCapture s.stage.capture).template.layoutName =
      first.finish.template.layoutName := rfl
    cases hname : first.finish.template.layoutName with
    | none =>
      rw [applyLayout_of_none _ _ (hlayoutName.trans hname)] at hlayout
      cases hlayout
      refine ⟨first, [], hstart, hleft, by simpa using hran, .singleton _,
        ⟨first, rfl, hname, rfl, hleft.trans hafter⟩, ?_⟩
      rw [hafter]
      exact ⟨SectionStore.isCaptured_of_closed hran.closed, hregular'⟩
    | some name =>
      rw [applyLayout_of_some _ _ (hlayoutName.trans hname)] at hlayout
      obtain ⟨⟨outcome, after⟩, hrender, hmap⟩ := Option.map_eq_some_iff.1 hlayout
      cases hmap
      have hscene : ((first.finish.withCapture s.stage.capture).layoutScene name
          first.content).stage.repertoire = s.stage.repertoire := by
        rw [Scene.layoutScene, Stage.repertoire_emit, Scene.withCapture,
          Stage.repertoire_withCapture, hrepertoire]
      obtain ⟨next, rest, hnext, -, hrest, hchain, hlast, -⟩ :=
        ih (hscene ▸ hr) rfl (.of_closed _ hregular'.content_mode) hrender
      rw [hscene] at hrest
      refine ⟨first, next :: rest, hstart, hleft, List.forall_mem_cons.2 ⟨hran, hrest⟩,
        hchain.cons_cons ?_, by simpa using hlast, ?_⟩
      · exact handsOver_of_start hname hregular' hnext (hleft.trans hafter)
      · rw [hafter]
        exact ⟨SectionStore.isCaptured_of_closed hran.closed, hregular'.setContent _⟩

/-- The page of the sample and its layout. The page is left with its own text as the content
section, and with the section that it pushed. -/
theorem chain_of_render_sample :
    Stage.sample.repertoire.Orderly ∧
      ∃ s', (nestedAt 3).render [] ⟨Stage.sample.engine.make "page", .sample⟩ =
          some (.ok "<dptext>", s') ∧
        ∃ (first : Leg) (rest : List Leg), first.left = s'.template ∧
          first.left.store.sections = [("notes", "p"), ("content", "text")] ∧
          (first :: rest).IsChain HandsOver ∧
          ∃ last, (first :: rest).getLast? = some last ∧ last.content = "<dptext>" := by
  have hrender : (nestedAt 3).render [] ⟨Stage.sample.engine.make "page", .sample⟩ =
      some (.ok "<dptext>", _) := rfl
  obtain ⟨first, rest, -, hleft, -, hchain, ⟨last, hlast, -, hcontent, -⟩, -⟩ :=
    chain_of_render (s := ⟨Stage.sample.engine.make "page", .sample⟩) Stage.orderly_sample rfl
      .initial hrender
  exact ⟨Stage.orderly_sample, _, hrender, first, rest, hleft, by rw [hleft]; rfl, hchain, last,
    hlast, hcontent⟩

end Leg

end TemplateEngine
