import TemplateEngine.Proofs.Render.Body

/-!
# What becomes of the data of a template

Whatever a program does to a template, also rendering it anew or acting on its sections and the
capture directly, the template evolves by changes of four kinds: data is assigned, the store or
the stage changes, or a layout is declared. The shared data does not change. The layout that is
applied in the end, and the data that it receives, are those of the last declaration.

## Main definitions

* `Scene.Edit`, `Scene.Edits`: changes other than the declaration of a layout.
* `Scene.Change`, `Scene.Evolves`: all changes.

## Main results

* `Scene.Evolves.last_declaration`: the last declaration stands.
* `run_evolves`, `render_evolves`: every program, and every render, makes its template evolve.
-/

namespace TemplateEngine

namespace Scene

/-- Declares a layout. -/
def declare (s : Scene) (name : Option String) (data : Option (Dictionary Value)) : Scene :=
  { s with template := s.template.declare name data }

/-- A change to a scene that declares no layout. -/
inductive Edit : Scene → Scene → Prop
  | assign (s : Scene) (data : Dictionary Value) :
    Edit s { s with template := s.template.assign data }
  | store (s : Scene) (store : SectionStore) :
    Edit s { s with template := { s.template with store := store } }
  | stage (s : Scene) (stage : Stage) (h : stage.engine.sharedData = s.stage.engine.sharedData) :
    Edit s { s with stage := stage }

/-- A sequence of changes that declare no layout. -/
abbrev Edits : Scene → Scene → Prop := Relation.ReflTransGen Edit

/-- A change to a scene. -/
inductive Change : Scene → Scene → Prop
  | edit {s s' : Scene} (h : Edit s s') : Change s s'
  | declare (s : Scene) (name : Option String) (data : Option (Dictionary Value)) :
    Change s (s.declare name data)

/-- A sequence of changes. -/
abbrev Evolves : Scene → Scene → Prop := Relation.ReflTransGen Change

variable {s s' : Scene}

theorem Edits.evolves (h : s.Edits s') : s.Evolves s' :=
  h.lift id fun _ _ => .edit

/-! ### What changes keep -/

theorem Edit.layout_eq (h : s.Edit s') :
    s'.template.layoutName = s.template.layoutName ∧
      s'.template.layoutData = s.template.layoutData := by
  cases h <;> exact ⟨rfl, rfl⟩

/-- Without a declaration the layout and its data stay. -/
theorem Edits.layout_eq (h : s.Edits s') :
    s'.template.layoutName = s.template.layoutName ∧
      s'.template.layoutData = s.template.layoutData := by
  induction h with
  | refl => exact ⟨rfl, rfl⟩
  | tail _ hedit ih => exact ⟨hedit.layout_eq.1.trans ih.1, hedit.layout_eq.2.trans ih.2⟩

/-- The last declaration of a layout stands, if there was any. -/
theorem Evolves.last_declaration (h : s.Evolves s') :
    s.Edits s' ∨ ∃ m name data, s.Evolves m ∧ (m.declare name data).Edits s' := by
  induction h with
  | refl => exact .inl .refl
  | @tail middle _ hbefore hchange ih =>
    cases hchange with
    | declare name data => exact .inr ⟨middle, name, data, hbefore, .refl⟩
    | edit hedit =>
      rcases ih with hedits | ⟨m, name, data, hm, hedits⟩
      · exact .inl (hedits.tail hedit)
      · exact .inr ⟨m, name, data, hm, hedits.tail hedit⟩

theorem Change.sharedData_eq (h : s.Change s') :
    s'.stage.engine.sharedData = s.stage.engine.sharedData := by
  cases h with
  | declare => rfl
  | edit hedit =>
    cases hedit with
    | assign | store => rfl
    | stage _ hshared => exact hshared

/-- The shared data stays. -/
theorem Evolves.sharedData_eq (h : s.Evolves s') :
    s'.stage.engine.sharedData = s.stage.engine.sharedData := by
  induction h with
  | refl => rfl
  | tail _ hchange ih => exact hchange.sharedData_eq.trans ih

theorem Change.nodup_keys (h : s.Change s') (hs : s.template.data.keys.Nodup) :
    s'.template.data.keys.Nodup := by
  cases h with
  | declare => exact hs
  | edit hedit =>
    cases hedit with
    | assign data => exact Dictionary.nodup_keys_overlay hs data
    | store | stage => exact hs

/-- The keys of the data of a template stay distinct. -/
theorem Evolves.nodup_keys (h : s.Evolves s') (hs : s.template.data.keys.Nodup) :
    s'.template.data.keys.Nodup := by
  induction h with
  | refl => exact hs
  | tail _ hchange ih => exact hchange.nodup_keys ih

end Scene

/-! ### What programs and renders change -/

/-- Looking up a body leaves the shared data. -/
theorem Stage.sharedData_body (s : Stage) (name : String) :
    (s.body name).2.engine.sharedData = s.engine.sharedData := by
  rcases body_snd s name with h | ⟨path, h⟩
  · rw [h]
  · rw [h]
    rcases compiledFile_snd s path with hfile | ⟨file, -, -, -, hkept⟩
    · rw [hfile]
    · rw [hkept]
      rfl

section Runs

variable {nested : Nested}

theorem Scene.edits_setCanvas (s : Scene) (c : Canvas) : s.Edits (s.setCanvas c) := by
  have hstage := Edit.stage { s with template := { s.template with store := c.store } }
    { s.stage with capture := c.capture } rfl
  exact .tail (.single (.store s c.store)) hstage

theorem Scene.evolves_of_edit {s s' : Scene} (h : s.Edit s') : s.Evolves s' := .single (.edit h)

/-- All that operations are made of are changes, if renders and calls are. -/
theorem coveredBy_evolves (hrender : ∀ s data, Leaves s.Evolves (nested.render data s))
    (hcall : ∀ s p, Leaves s.Evolves (nested.call p s)) : nested.CoveredBy Scene.Evolves where
  refl _ := .refl
  trans := .trans
  canvas s _ _ := (s.edits_setCanvas _).evolves
  assign s data := Scene.evolves_of_edit (.assign s data)
  declare s name data := .single (.declare s name data)
  note s _ _ := Scene.evolves_of_edit (.stage s _ rfl)
  print _ _ := Scene.evolves_of_edit (.stage _ _ rfl)
  lookUp s := Scene.evolves_of_edit (.stage s _ (s.stage.sharedData_body _))
  fetch hleft := Scene.evolves_of_edit (.stage _ _ (hrender _ _ _ _ hleft).sharedData_eq)
  call {s p} _ := hcall s p

theorem run_evolves_of_nested (hrender : ∀ s data, Leaves s.Evolves (nested.render data s))
    (hcall : ∀ s p, Leaves s.Evolves (nested.call p s)) {α : Type} (p : Program α) (s : Scene) :
    Leaves s.Evolves (p.run (perform nested) s) :=
  p.leaves_run (fun operation s' hs =>
    ((coveredBy_evolves hrender hcall).perform_any (fun s _ => (s.edits_setCanvas _).evolves)
      hrender operation s').imp fun _ hs' => hs.trans hs') .refl

theorem Scene.evolves_inBody (s : Scene) (data : Dictionary Value) : s.Evolves (s.inBody data) := by
  have hassign := evolves_of_edit (.assign s data)
  exact hassign.trans (evolves_of_edit (.stage _ _ (Stage.sharedData_body _ _)))

theorem finishBody_evolves (s : Scene) : s.Evolves (finishBody s).2 := by
  unfold finishBody
  split
  · exact .refl
  · exact Scene.evolves_of_edit (.stage s _ rfl)

/-- A layout changes the content section of the template that declared it, and nothing else. -/
theorem applyLayout_evolves (hrender : ∀ s data, Leaves s.Evolves (nested.render data s))
    (content : String) (s : Scene) : Leaves s.Evolves (applyLayout nested content s) := by
  cases hname : s.template.layoutName with
  | none =>
    rw [applyLayout_of_none nested content hname]
    exact leaves_some .refl
  | some name =>
    rw [applyLayout_of_some nested content hname]
    cases hleft : nested.render s.template.layoutData (s.layoutScene name content) with
    | none => exact leaves_none
    | some left =>
      have hshared := (hrender _ _ _ _ hleft).sharedData_eq
      exact leaves_some (.trans (Scene.evolves_of_edit (.store s _))
        (Scene.evolves_of_edit (.stage _ _ hshared)))

/-- Until a render comes to its end its template evolves. -/
theorem Scene.EndsAt.evolves {s left : Scene} {data : Dictionary Value}
    {outcome : Except Fault String} (h : s.EndsAt nested data outcome left)
    (hrender : ∀ s data, Leaves s.Evolves (nested.render data s))
    (hrun : ∀ s (p : Program Unit), Leaves s.Evolves (p.run (perform nested) s)) :
    s.Evolves left := by
  have hbegin := s.evolves_inBody data
  cases h with
  | notFound => exact hbegin
  | failed _ hleft => exact hbegin.trans (hrun _ _ _ _ hleft)
  | unclosed _ hleft hfinish =>
    have hfinished := (hbegin.trans (hrun _ _ _ _ hleft)).trans (finishBody_evolves _)
    rwa [hfinish] at hfinished
  | ended _ hleft hfinish hlayout =>
    have hfinished := (hbegin.trans (hrun _ _ _ _ hleft)).trans (finishBody_evolves _)
    rw [hfinish] at hfinished
    exact hfinished.trans (applyLayout_evolves hrender _ _ _ _ hlayout)

theorem renderWith_evolves (hrender : ∀ s data, Leaves s.Evolves (nested.render data s))
    (hrun : ∀ s (p : Program Unit), Leaves s.Evolves (p.run (perform nested) s))
    (data : Dictionary Value) (s : Scene) : Leaves s.Evolves (renderWith nested data s) := by
  intro outcome after h
  obtain ⟨left, hends, htemplate, hengine⟩ := renderWith_inv h
  have hstage : left.Evolves { left with stage := after.stage } :=
    Scene.evolves_of_edit (.stage left after.stage (by rw [hengine]; rfl))
  have hafter : { left with stage := after.stage } = after := by rw [← htemplate]
  exact hafter ▸ (hends.evolves hrender hrun).trans hstage

/-- Nested renders and calls of any depth make their template evolve. -/
theorem nestedAt_evolves (depth : Nat) :
    (∀ s data, Leaves s.Evolves ((nestedAt depth).render data s)) ∧
      ∀ s p, Leaves s.Evolves ((nestedAt depth).call p s) := by
  induction depth with
  | zero => exact ⟨fun _ _ => leaves_none, fun _ _ => leaves_none⟩
  | succ depth ih =>
    exact ⟨fun s data => renderWith_evolves ih.1
        (fun s p => run_evolves_of_nested ih.1 ih.2 p s) data s,
      fun s p => run_evolves_of_nested ih.1 ih.2 p s⟩

/-- Every render makes its template evolve, whether it succeeds or fails. -/
theorem render_evolves (depth : Nat) (data : Dictionary Value) (s : Scene) :
    Leaves s.Evolves ((nestedAt depth).render data s) := (nestedAt_evolves depth).1 s data

/-- Every program makes its template evolve. -/
theorem run_evolves {α : Type} (depth : Nat) (p : Program α) (s : Scene) :
    Leaves s.Evolves (p.run (perform (nestedAt depth)) s) :=
  run_evolves_of_nested (nestedAt_evolves depth).1 (nestedAt_evolves depth).2 p s

end Runs

end TemplateEngine
