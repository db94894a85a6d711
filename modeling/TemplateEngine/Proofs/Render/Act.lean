import TemplateEngine.Proofs.Render.Frame

/-!
# What can happen to a template while its body runs

Whatever an orderly program asks for, its scene changes by a sequence of acts: a move on the canvas,
data assigned or a layout declared, a note, a text that a function of the host prints, the look-up
of a body, or the render of another template. Every scene in the course of a body is reached by
acts, inside of the functions that it calls as well. So what each act keeps holds throughout a body.

## Main definitions

* `Scene.Act`, `Scene.Acts`: the acts, and sequences of them.

## Main results

* `run_acts`: an orderly program leaves a scene that is reached by acts.
* `Scene.Acts.within`, `Scene.Acts.regular`, `Scene.Acts.content_eq`: what acts keep.
-/

namespace TemplateEngine

namespace Scene

/-- One change to a scene in the course of an orderly program. -/
inductive Act : Scene → Scene → Prop
  | move {s : Scene} {c : Canvas} (h : Canvas.Move s.canvas c) : Act s (s.setCanvas c)
  | assign (s : Scene) (data : Dictionary Value) :
    Act s { s with template := s.template.assign data }
  | declare (s : Scene) (name : Option String) (data : Option (Dictionary Value)) :
    Act s { s with template := s.template.declare name data }
  | note (s : Scene) (label : String) (outcome : Except FaultKind Value) :
    Act s (s.note label outcome)
  | print {s : Scene} {name : String} {f : HostFunction}
    (h : s.stage.host.function? name = some f) (v : Value) : Act s (s.print (f v).2)
  | lookUp (s : Scene) : Act s { s with stage := (s.stage.body s.template.name).2 }
  /-- Another template was rendered, and the template at hand is there again. -/
  | fetch {s left : Scene} (depth : Nat) {name : String} {data : Dictionary Value}
    {outcome : Except Fault String}
    (h : (nestedAt depth).render data ⟨s.stage.engine.make name, s.stage⟩ = some (outcome, left)) :
    Act s { s with stage := left.stage }

/-- A sequence of acts. -/
abbrev Acts : Scene → Scene → Prop := Relation.ReflTransGen Act

variable {s s' : Scene} {base : Capture} {repertoire : Repertoire}

/-! ### What acts keep -/

/-- An act keeps what holds while a body runs. -/
theorem Act.within (h : s.Act s') (hr : repertoire.Orderly) (hs : s.Within base repertoire) :
    s'.Within base repertoire := by
  cases h with
  | move hmove =>
    exact ⟨hs.inStep.move hmove, (s.repertoire_setCanvas _).trans hs.repertoire_eq⟩
  | assign | declare => exact hs.of_canvas rfl rfl
  | note label outcome => exact hs.of_canvas rfl (s.repertoire_note label outcome)
  | print => exact hs.of_canvas rfl (Stage.repertoire_print _ _)
  | lookUp => exact hs.lookUp
  | fetch depth hleft => exact hs.fetch (keepsCapture_nestedAt hr depth) hleft

theorem Acts.within (h : s.Acts s') (hr : repertoire.Orderly) (hs : s.Within base repertoire) :
    s'.Within base repertoire := by
  induction h with
  | refl => exact hs
  | tail _ hact ih => exact hact.within hr ih

/-- Acts change nothing that can be looked up. -/
theorem Act.repertoire_eq (h : s.Act s') (hr : s.stage.repertoire.Orderly) :
    s'.stage.repertoire = s.stage.repertoire := by
  cases h with
  | move => exact s.repertoire_setCanvas _
  | assign | declare => rfl
  | note label outcome => exact s.repertoire_note label outcome
  | print => exact Stage.repertoire_print _ _
  | lookUp => exact s.stage.repertoire_body _
  | fetch depth hleft => exact ((keepsCapture_nestedAt hr depth).fetch rfl hleft).repertoire_eq

theorem Acts.repertoire_eq (h : s.Acts s') (hr : s.stage.repertoire.Orderly) :
    s'.stage.repertoire = s.stage.repertoire := by
  induction h with
  | refl => rfl
  | tail _ hact ih => exact (hact.repertoire_eq (ih ▸ hr)).trans ih

/-- An act leaves the store, or it is a move on the canvas. -/
theorem Act.store_cases (h : s.Act s') :
    s'.template.store = s.template.store ∨ Canvas.Move s.canvas s'.canvas := by
  cases h with
  | move hmove => exact .inr hmove
  | assign | declare | note | print | lookUp | fetch => exact .inl rfl

/-- Acts keep a store regular. -/
theorem Acts.regular (h : s.Acts s') (hs : s.template.store.Regular) :
    s'.template.store.Regular := by
  induction h with
  | refl => exact hs
  | tail _ hact ih =>
    rcases hact.store_cases with hstore | hmove
    · rwa [hstore]
    · exact ih.move hmove

/-- No act changes the content section. -/
theorem Acts.content_eq (h : s.Acts s') (hs : s.template.store.Regular) :
    s'.template.store.sections.value? contentSection =
      s.template.store.sections.value? contentSection := by
  induction h with
  | refl => rfl
  | tail hacts hact ih =>
    rcases hact.store_cases with hstore | hmove
    · rwa [hstore]
    · exact ((Acts.regular hacts hs).content_of_move hmove).trans ih

end Scene

/-! ### Orderly programs act -/

theorem Scene.acts_of_moves {s : Scene} {c : Canvas} (h : Canvas.Moves s.canvas c) :
    s.Acts (s.setCanvas c) := by
  induction h with
  | refl => exact .refl
  | tail _ hmove ih => exact ih.tail (.move (s := s.setCanvas _) hmove)

section Runs

variable {nested : Nested} {s : Scene}

/-- An orderly program acts if all that operations are made of does. -/
theorem run_acts_of_coveredBy {α : Type}
    (hn : nested.CoveredBy fun s s' => s.stage.repertoire.Orderly → s.Acts s')
    (hr : s.stage.repertoire.Orderly) {p : Program α} (hp : p.Orderly) :
    Leaves s.Acts (p.run (perform nested) s) :=
  hp.leaves_run (fun _ s' ho hacts => (hn.perform ho s').imp fun _ hact =>
    hacts.trans (hact (hacts.repertoire_eq hr ▸ hr))) .refl

/-- All that operations are made of acts if the programs that are called do. -/
theorem coveredBy_acts_of_call {depth : Nat}
    (hcall : ∀ {s p}, s.Offers p → s.stage.repertoire.Orderly →
      Leaves s.Acts ((nestedAt depth).call p s)) :
    (nestedAt depth).CoveredBy fun s s' => s.stage.repertoire.Orderly → s.Acts s' where
  refl _ _ := .refl
  trans h h' hr := (h hr).trans (h' ((h hr).repertoire_eq hr ▸ hr))
  canvas s _ ho _ := Scene.acts_of_moves (s.canvas.moves_perform ho)
  assign s data _ := .single (.assign s data)
  declare s name data _ := .single (.declare s name data)
  note s label outcome _ := .single (.note s label outcome)
  print hf v _ := .single (.print hf v)
  lookUp s _ := .single (.lookUp s)
  fetch hleft _ := .single (.fetch depth hleft)
  call hoffers outcome s' hleft hr := hcall hoffers hr outcome s' hleft

theorem coveredBy_acts (depth : Nat) :
    (nestedAt depth).CoveredBy fun s s' => s.stage.repertoire.Orderly → s.Acts s' := by
  induction depth with
  | zero => exact coveredBy_acts_of_call fun _ _ => leaves_none
  | succ depth ih =>
    exact coveredBy_acts_of_call fun hoffers hr =>
      run_acts_of_coveredBy ih hr (hoffers.orderly hr)

/-- An orderly program leaves a scene that is reached by acts. -/
theorem run_acts {α : Type} (hr : s.stage.repertoire.Orderly) {p : Program α} (hp : p.Orderly)
    (depth : Nat) :
    Leaves s.Acts (p.run (perform (nestedAt depth)) s) :=
  run_acts_of_coveredBy (coveredBy_acts depth) hr hp

end Runs

end TemplateEngine
