import TemplateEngine.Proofs.Engine.History
import TemplateEngine.Proofs.Render.Evolve

/-!
# Which data a body sees first

What a body finds under a key when it starts is the value that its render was given, or else the
one that was handed on: by whoever made the template, by the caller that rendered it on top of its
own data, or by the template that declared it as its layout, as the data of that template stood
then. Failing these it is the latest value scoped to the name of the template, or else the latest
one shared with all. This holds in whatever way renders are nested, since no render changes the
data of its caller or the shared data.

## Main definitions

* `Scene.Live`: the scenes of any nesting of renders, after a history of calls that add data.
* `Scene.firstSees`: what a body finds first.
* `AsksFor`: an evaluation asks for one nested render and no other one.

## Main results

* `Scene.Live.firstSees_dataFor`: what a body finds that is rendered from within another one.
* `Scene.Live.firstSees_layoutData`: what the body of a layout finds.
* `asksFor_perform`, `asksFor_applyLayout`: which renders are asked for.
-/

namespace TemplateEngine

/-- What a body finds first under a key, if its template is rendered with data. -/
def Scene.firstSees (s : Scene) (data : Dictionary Value) (key : String) : Option Value :=
  (s.inBody data).template.data.value? key

/-- A fresh template where a scene stands. -/
def Scene.other (s : Scene) (name : String) : Scene := ⟨s.stage.engine.make name, s.stage⟩

/-- The scenes of any nesting of renders: templates are made and evolve, they render other ones,
and they are surrounded by layouts. Data may be added to the history, the latest call of which
stands first. -/
inductive Scene.Live : List DataCall → Scene → Prop
  | make {calls : List DataCall} {stage : Stage} (hshared : stage.engine.sharedData = .after calls)
    (name : String) (made : Dictionary Value) : Live calls ⟨stage.make name made, stage⟩
  | addData {calls : List DataCall} {s : Scene} (h : Live calls s) (call : DataCall) :
    Live (call :: calls) { s with stage := s.stage.addData call.data call.templates }
  | evolves {calls : List DataCall} {s s' : Scene} (h : Live calls s) (hs : s.Evolves s') :
    Live calls s'
  | other {calls : List DataCall} {s : Scene} (h : Live calls s) (name : String) :
    Live calls (s.other name)
  | layout {calls : List DataCall} {s : Scene} (h : Live calls s) (name content : String) :
    Live calls (s.layoutScene name content)

/-- An evaluation asks for one nested render: without its outcome there is none, and it depends on
no other one. -/
structure AsksFor {α : Type} (evaluate : Nested → Evaluation α) (s : Scene)
    (data : Dictionary Value) : Prop where
  asked : ∀ nested, nested.render data s = none → evaluate nested = none
  only : ∀ nested nested', nested.render data s = nested'.render data s →
    evaluate nested = evaluate nested'

section

variable {calls : List DataCall} {s s' : Scene} {name key : String} {given : Dictionary Value}

/-! ### Live scenes -/

/-- The shared data is that of the history. -/
theorem Scene.Live.sharedData_eq (h : s.Live calls) :
    s.stage.engine.sharedData = .after calls := by
  induction h with
  | make hshared => exact hshared
  | addData _ call ih => rw [Stage.sharedData_addData, ih, SharedData.after]
  | evolves _ hs ih => exact hs.sharedData_eq.trans ih
  | other _ _ ih => exact ih
  | layout _ _ _ ih => exact ih

theorem Scene.Live.nodup_keys_make (h : s.Live calls) (name : String) :
    (s.stage.engine.make name).data.keys.Nodup := by
  rw [Engine.make, h.sharedData_eq]
  exact SharedData.nodup_keys_forTemplate_after name calls

/-- The keys of the data of a template are distinct. -/
theorem Scene.Live.nodup_keys (h : s.Live calls) : s.template.data.keys.Nodup := by
  induction h with
  | make hshared name made =>
    have hfresh := (Scene.Live.make hshared name made).nodup_keys_make name
    exact Dictionary.nodup_keys_overlay hfresh made
  | addData _ _ ih => exact ih
  | evolves _ hs ih => exact hs.nodup_keys ih
  | other h name => exact h.nodup_keys_make name
  | layout h name => exact h.nodup_keys_make name

/-- A fresh template finds what the history says. -/
theorem Scene.Live.value?_make (h : s.Live calls) (name key : String) :
    (s.stage.engine.make name).data.value? key = DataCall.initialValue calls name key := by
  rw [Engine.make, h.sharedData_eq]
  exact SharedData.value?_forTemplate_after name key calls

/-! ### What is given and what is handed on -/

theorem Scene.firstSees_eq (s : Scene) (hgiven : given.keys.Nodup) (key : String) :
    s.firstSees given key = (given.value? key).or (s.template.data.value? key) :=
  Dictionary.value?_overlay _ _ hgiven key

/-- What is handed on stands behind what is given, and before what the template has. -/
theorem Scene.firstSees_overlay (s : Scene) {held : Dictionary Value} (hheld : held.keys.Nodup)
    (hgiven : given.keys.Nodup) (key : String) :
    s.firstSees (held.overlay given) key =
      (given.value? key).or ((held.value? key).or (s.template.data.value? key)) := by
  rw [s.firstSees_eq (Dictionary.nodup_keys_overlay hheld given),
    Dictionary.value?_overlay _ _ hgiven, Option.or_assoc]

theorem Scene.Live.firstSees_dataFor (h : s.Live calls) (own : Bool) (hgiven : given.keys.Nodup)
    (name key : String) :
    (s.other name).firstSees (s.template.dataFor given own) key =
      (given.value? key).or ((if own then s.template.data.value? key else none).or
        (DataCall.initialValue calls name key)) := by
  rw [← h.value?_make name key]
  cases own with
  | true => exact (s.other name).firstSees_overlay h.nodup_keys hgiven key
  | false => exact (s.other name).firstSees_eq hgiven key

/-- A layout sees what the template held when it declared the layout last. -/
theorem Scene.Live.firstSees_layoutData (h : s.Live calls) (hgiven : given.keys.Nodup)
    (hedits : (s.declare (some name) (some given)).Edits s') (content key : String) :
    (s'.layoutScene name content).firstSees s'.template.layoutData key =
      (given.value? key).or ((s.template.data.value? key).or
        (DataCall.initialValue calls name key)) := by
  have hlive : s'.Live calls :=
    h.evolves (.head (.declare s (some name) (some given)) hedits.evolves)
  have hdata : s'.template.layoutData = s.template.data.overlay given := hedits.layout_eq.2
  rw [hdata, ← hlive.value?_make name key]
  exact (s'.layoutScene name content).firstSees_overlay h.nodup_keys hgiven key

/-! ### What is asked for -/

/-- What comes after a nested render asks for no other one. -/
theorem AsksFor.andThen {α β : Type} {evaluate : Nested → Evaluation α} {data : Dictionary Value}
    (h : AsksFor evaluate s data) (next : Evaluation α → Evaluation β) (hnext : next none = none) :
    AsksFor (fun nested => next (evaluate nested)) s data where
  asked nested hnone := by rw [h.asked nested hnone, hnext]
  only nested nested' hsame := by rw [h.only nested nested' hsame]

theorem asksFor_fetchTemplate (s : Scene) (name : String) (data : Dictionary Value) :
    AsksFor (fun nested => fetchTemplate nested name data s) (s.other name) data where
  asked nested hnone := by
    unfold Scene.other at hnone
    simp [fetchTemplate, hnone]
  only nested nested' hsame := by
    unfold Scene.other at hsame
    simp [fetchTemplate, hsame]

/-- The text of a render is written. -/
def Evaluation.written : Evaluation String → Evaluation Value
  | none => none
  | some (.error fault, s) => some (.error fault, s)
  | some (.ok text, s) => some (.ok .null, s.write text)

theorem perform_insert (nested : Nested) (s : Scene) (name : String) (data : Dictionary Value)
    (own : Bool) : perform nested (.insert name data own) s =
      (fetchTemplate nested name (s.template.dataFor data own) s).written := by
  simp only [perform]
  rcases fetchTemplate nested name (s.template.dataFor data own) s with _ | ⟨fault | text, s'⟩ <;>
    rfl

/-- Fetching or inserting a template asks for its render. -/
theorem asksFor_perform {operation : Operation} {own : Bool}
    (ho : operation ∈ [Operation.fetch name given own, .insert name given own]) (s : Scene) :
    AsksFor (fun nested => perform nested operation s) (s.other name)
      (s.template.dataFor given own) := by
  have hfetch := asksFor_fetchTemplate s name (s.template.dataFor given own)
  simp only [List.mem_cons, List.not_mem_nil, or_false] at ho
  rcases ho with rfl | rfl
  · exact hfetch.andThen (Evaluation.answer .str) rfl
  · simp only [perform_insert]
    exact hfetch.andThen Evaluation.written rfl

/-- A template that declared a layout asks for the render of it. -/
theorem asksFor_applyLayout (hname : s.template.layoutName = some name) (content : String) :
    AsksFor (fun nested => applyLayout nested content s) (s.layoutScene name content)
      s.template.layoutData where
  asked nested hnone := by rw [applyLayout_of_some nested content hname, hnone]; rfl
  only nested nested' hsame := by
    rw [applyLayout_of_some nested content hname, applyLayout_of_some nested' content hname, hsame]

/-! ### What stays -/

/-- The data of the template at hand and the shared data are as they were. -/
structure Scene.SameData (s s' : Scene) : Prop where
  own : s'.template.data = s.template.data
  shared : s'.stage.engine.sharedData = s.stage.engine.sharedData

theorem fetchTemplate_sameData (depth : Nat) (name : String) (data : Dictionary Value) (s : Scene) :
    Leaves s.SameData (fetchTemplate (nestedAt depth) name data s) := by
  unfold fetchTemplate
  cases hleft : (nestedAt depth).render data ⟨s.stage.engine.make name, s.stage⟩ with
  | none => exact leaves_none
  | some left => exact leaves_some ⟨rfl, (render_evolves depth data _ _ _ hleft).sharedData_eq⟩

/-- Fetching or inserting a template changes neither the data at hand nor the shared data. -/
theorem perform_sameData {operation : Operation} {own : Bool}
    (ho : operation ∈ [Operation.fetch name given own, .insert name given own]) (depth : Nat)
    (s : Scene) : Leaves s.SameData (perform (nestedAt depth) operation s) := by
  have hfetch := fetchTemplate_sameData depth name (s.template.dataFor given own) s
  simp only [List.mem_cons, List.not_mem_nil, or_false] at ho
  rcases ho with rfl | rfl
  · exact leaves_answer hfetch
  · rw [perform_insert]
    rcases hleft : fetchTemplate (nestedAt depth) name (s.template.dataFor given own) s with
      _ | ⟨fault | text, s'⟩
    · exact leaves_none
    · exact leaves_some (hfetch _ _ hleft)
    · exact leaves_some ⟨(hfetch _ _ hleft).own, (hfetch _ _ hleft).shared⟩

theorem applyLayout_sameData (depth : Nat) (content : String) (s : Scene) :
    Leaves s.SameData (applyLayout (nestedAt depth) content s) := by
  cases hname : s.template.layoutName with
  | none =>
    rw [applyLayout_of_none _ content hname]
    exact leaves_some ⟨rfl, rfl⟩
  | some name =>
    rw [applyLayout_of_some _ content hname]
    cases hleft : (nestedAt depth).render s.template.layoutData (s.layoutScene name content) with
    | none => exact leaves_none
    | some left => exact leaves_some ⟨rfl, (render_evolves depth _ _ _ _ hleft).sharedData_eq⟩

end

/-- What a body finds first under a key, in any nesting of renders and after any history of calls
that add data.

A template that is made finds what it is rendered with, then what it was made with, then the
latest value scoped to its name, then the latest one shared with all; and one that is there
already what it is rendered with, then its own data. `fetch` and `insert` ask for one render, in
which the body finds what they were given, then the data of the caller at that point if it is to
be used, then what a fresh template finds. A layout finds what it was declared with, then the data
of the template that declared it at that point, whatever becomes of that data later, then what a
fresh template finds; of several declarations the last one stands. A declaration whose data cannot
be merged is one of the layout only, and leaves the data that the layout receives.

Every program makes its template evolve, and no nested render changes the data of its caller or
the shared data. -/
theorem Scene.Live.data_precedence {calls : List DataCall} {s : Scene} (h : s.Live calls) :
    (∀ data, (∀ depth {body}, s.stage.repertoire.body s.template.name = .ok body →
        ((nestedAt (depth + 1)).render data s).map Prod.fst =
          (completeBody (nestedAt depth)
            (body.run (perform (nestedAt depth)) (s.inBody data))).map Prod.fst) ∧
      ∃ found : Dictionary Value, (∀ nested, perform nested (.data none) (s.inBody data) =
          some (.ok (.dict found), s.inBody data)) ∧
        ∀ key, found.value? key = s.firstSees data key) ∧
    (∀ name {made given : Dictionary Value}, made.keys.Nodup → given.keys.Nodup → ∀ key,
      Scene.firstSees ⟨s.stage.make name made, s.stage⟩ given key =
        (given.value? key).or ((made.value? key).or (DataCall.initialValue calls name key))) ∧
    (∀ {given : Dictionary Value}, given.keys.Nodup → ∀ key,
      s.firstSees given key = (given.value? key).or (s.template.data.value? key)) ∧
    (∀ name {given : Dictionary Value} own, given.keys.Nodup →
      (∀ operation ∈ [Operation.fetch name given own, .insert name given own],
        AsksFor (fun nested => perform nested operation s) (s.other name)
            (s.template.dataFor given own) ∧
          ∀ depth, Leaves s.SameData (perform (nestedAt depth) operation s)) ∧
      ∀ key, (s.other name).firstSees (s.template.dataFor given own) key =
        (given.value? key).or ((if own then s.template.data.value? key else none).or
          (DataCall.initialValue calls name key))) ∧
    (∀ name {given : Dictionary Value}, given.keys.Nodup → ∀ {s' : Scene},
      (s.declare (some name) (some given)).Edits s' → ∀ content,
      AsksFor (fun nested => applyLayout nested content s') (s'.layoutScene name content)
          s'.template.layoutData ∧
        (∀ depth, Leaves s'.SameData (applyLayout (nestedAt depth) content s')) ∧
        ∀ key, (s'.layoutScene name content).firstSees s'.template.layoutData key =
          (given.value? key).or ((s.template.data.value? key).or
            (DataCall.initialValue calls name key))) ∧
    (∀ name {s' : Scene}, (s.declare (some name) none).Edits s' →
      s'.template.layoutName = some name ∧ s'.template.layoutData = s.template.layoutData) ∧
    (∀ {s' : Scene}, s.Evolves s' →
      s.Edits s' ∨ ∃ m name given, s.Evolves m ∧ (m.declare name given).Edits s') ∧
    ∀ depth, (∀ {α : Type} (p : Program α),
        Leaves s.Evolves (p.run (perform (nestedAt depth)) s)) ∧
      ∀ data, Leaves s.Evolves ((nestedAt depth).render data s) := by
  refine ⟨fun data => ⟨fun depth body hbody => ?_, _, fun nested => rfl, fun key => rfl⟩,
    fun name made given hmade hgiven key => ?_, fun hgiven key => s.firstSees_eq hgiven key,
    fun name given own hgiven => ⟨fun operation ho => ⟨asksFor_perform ho s, fun depth =>
      perform_sameData ho depth s⟩, h.firstSees_dataFor own hgiven name⟩,
    fun name given hgiven s' hedits content => ⟨?_, fun depth => applyLayout_sameData depth _ s',
      h.firstSees_layoutData hgiven hedits content⟩,
    fun name s' hedits => hedits.layout_eq, fun hevolves => hevolves.last_declaration,
    fun depth => ⟨fun p => run_evolves depth p s, fun data => render_evolves depth data s⟩⟩
  · exact render_outcome_of_body (nestedAt depth) data rfl hbody
  · rw [Scene.firstSees_eq _ hgiven, ← h.value?_make name key]
    exact congrArg _ (Dictionary.value?_overlay _ _ hmade key)
  · exact asksFor_applyLayout hedits.layout_eq.1 content

/-- Data scoped to the page, and data shared later under the same key. -/
def DataCall.sample : List DataCall :=
  [⟨[("a", .str "shared")], by decide, none⟩,
    ⟨[("a", .str "scoped"), ("b", .str "own")], by decide, some ["page"]⟩]

/-- A stage with this data. -/
def Stage.sharing : Stage where
  engine := { sharedData := .after DataCall.sample }

/-- The page finds the data scoped to it, though data was shared later. Its layout finds that data
as well, whatever the page does to it after the declaration. Another template finds it only if it
is rendered on top of the data of the page. -/
theorem Scene.Live.data_precedence_sharing :
    let page : Scene := ⟨Stage.sharing.make "page" [], .sharing⟩
    let declared : Scene := page.declare (some "frame") (some [("b", .str "given")])
    let changed : Scene := { declared with template := declared.template.assign [("a", .str "x")] }
    page.Live DataCall.sample ∧
      page.firstSees [("c", .str "given")] "a" = some (.str "scoped") ∧
      (page.other "part").firstSees (page.template.dataFor [] true) "a" = some (.str "scoped") ∧
      (page.other "part").firstSees (page.template.dataFor [] false) "a" = some (.str "shared") ∧
      (changed.layoutScene "frame" "").firstSees changed.template.layoutData "a" =
        some (.str "scoped") ∧
      (changed.layoutScene "frame" "").firstSees changed.template.layoutData "b" =
        some (.str "given") := by
  intro page declared changed
  have h : page.Live DataCall.sample := .make rfl "page" []
  obtain ⟨-, hmade, -, hother, hlayout, -⟩ := h.data_precedence
  have hedits : declared.Edits changed := .single (.assign declared _)
  obtain ⟨-, -, hseen⟩ := hlayout "frame" (by decide) hedits ""
  exact ⟨h, hmade "page" (by decide) (by decide) "a", (hother "part" true (by decide)).2 "a",
    (hother "part" false (by decide)).2 "a", hseen "a", hseen "b"⟩

end TemplateEngine
