import TemplateEngine.Proofs.Render.Ranked

/-!
# Ranked templates are rendered in finite time

If all templates refer to templates of a lower rank, and all functions end, every render has an
outcome: within any large enough depth there is one, and it is always the same. Renders of a lower
rank end by induction on the rank, so the operations of a body do, and then the body does by
induction on its program. The layout that is declared in the end has a lower rank again.

## Main definitions

* `HasOutcome`: what an evaluation comes to within any large enough depth.
* `Repertoire.FunctionsEnd`: all functions end if the templates that they may render do.

## Main results

* `Repertoire.functionsEnd_of_immediate`: functions end if they neither render nor call anything.
* `perform_terminates`, `run_terminates`: operations and bodies end if renders of a lower rank do.
* `render_terminates`: all renders end.
-/

namespace TemplateEngine

/-- Within any large enough depth an evaluation comes to the same. -/
def HasOutcome {α : Type} (e : Nat → Option α) (left : α) : Prop :=
  ∃ depth, ∀ deeper, depth ≤ deeper → e deeper = some left

/-- There is something that an evaluation comes to. -/
def Terminates {α : Type} (e : Nat → Option α) : Prop := ∃ left, HasOutcome e left

section Outcomes

variable {α β : Type} {e : Nat → Option α} {e' f : Nat → Option β} {a : α} {b : β}

theorem hasOutcome_of_some (h : ∀ depth, e depth = some a) : HasOutcome e a :=
  ⟨0, fun deeper _ => h deeper⟩

theorem terminates_const {left : Option α} (h : left.isSome) : Terminates fun _ => left := by
  obtain ⟨a, rfl⟩ := Option.isSome_iff_exists.mp h
  exact ⟨a, hasOutcome_of_some fun _ => rfl⟩

/-- What an evaluation comes to, it comes to within some depth. -/
theorem HasOutcome.exists_eq (h : HasOutcome e a) : ∃ depth, e depth = some a := by
  obtain ⟨depth, hdepth⟩ := h
  exact ⟨depth, hdepth depth (Nat.le_refl depth)⟩

/-- An evaluation goes on as another one, once it has the outcome of a third. -/
theorem HasOutcome.andThen (h : HasOutcome e a) (hf : HasOutcome f b)
    (heq : ∀ depth, e depth = some a → e' depth = f depth) : HasOutcome e' b := by
  obtain ⟨depth, hdepth⟩ := h
  obtain ⟨depth', hdepth'⟩ := hf
  refine ⟨max depth depth', fun deeper hle => ?_⟩
  rw [heq deeper (hdepth deeper (Nat.le_trans (Nat.le_max_left _ _) hle))]
  exact hdepth' deeper (Nat.le_trans (Nat.le_max_right _ _) hle)

/-- What follows from the outcome of an evaluation for another one holds for its outcome. -/
theorem HasOutcome.imp (h : HasOutcome e a) (heq : ∀ depth, e depth = some a → e' depth = some b) :
    HasOutcome e' b :=
  h.andThen (hasOutcome_of_some fun _ => rfl) heq

/-- What takes one level more comes to the same. -/
theorem HasOutcome.succ {e' : Nat → Option α} (h : HasOutcome e a)
    (heq : ∀ depth, e' (depth + 1) = e depth) : HasOutcome e' a := by
  obtain ⟨depth, hdepth⟩ := h
  refine ⟨depth + 1, fun deeper hle => ?_⟩
  cases deeper with
  | zero => exact absurd hle (Nat.not_succ_le_zero depth)
  | succ deeper =>
    rw [heq]
    exact hdepth deeper (Nat.le_of_succ_le_succ hle)

end Outcomes

/-- A program ends if all operations that it asks for do, in whatever scenes it gets to. -/
theorem run_terminates_of_asks {α : Type} {P : Operation → Prop} {K : Scene → Prop}
    (hends : ∀ operation s, P operation → K s →
      Terminates fun depth => perform (nestedAt depth) operation s)
    (hkeeps : ∀ depth operation s, P operation → K s →
      Leaves K (perform (nestedAt depth) operation s))
    {p : Program α} (hp : p.Asks P) {s : Scene} (hs : K s) :
    Terminates fun depth => p.run (perform (nestedAt depth)) s := by
  induction p generalizing s with
  | done a => exact terminates_const rfl
  | fail fault => exact terminates_const rfl
  | perform operation next ih =>
    obtain ⟨⟨answer, s'⟩, hfirst⟩ := hends operation s hp.1 hs
    obtain ⟨depth, hdepth⟩ := hfirst.exists_eq
    obtain ⟨left, hrest⟩ := ih answer (hp.2 answer) (hkeeps depth operation s hp.1 hs _ _ hdepth)
    refine ⟨left, hfirst.andThen hrest fun _ hd => ?_⟩
    simp only [Program.run, hd]

/-- Renders of templates of a rank below a bound end. -/
def Repertoire.RendersEnd (rank : String → Nat) (repertoire : Repertoire) (bound : Nat) : Prop :=
  ∀ {s : Scene} (data : Dictionary Value), s.stage.repertoire = repertoire →
    s.template.LayoutBelow rank → rank s.template.name < bound →
    Terminates fun depth => (nestedAt depth).render data s

/-- All functions end, if renders of a lower rank than that of the template at hand do. -/
def Repertoire.FunctionsEnd (rank : String → Nat) (repertoire : Repertoire) : Prop :=
  ∀ {name f}, repertoire.functions.value? name = some f → ∀ arguments named (s : Scene),
    s.stage.repertoire = repertoire → repertoire.RendersEnd rank (rank s.template.name) →
    Terminates fun depth => (nestedAt depth).call (f.call (some s.template.name) arguments named) s

/-! ### What neither renders nor calls anything -/

/-- Whether an operation neither renders nor calls anything. -/
def Operation.isImmediate : Operation → Bool
  | .fetch _ _ _ | .insert _ _ _ | .render _ | .display => false
  | .call _ _ _ | .batch _ _ | .escape _ _ => false
  | _ => true

theorem isSome_writeValue (v : Value) (s : Scene) : (writeValue v s).isSome := by
  unfold writeValue
  split
  · rfl
  · split <;> rfl

theorem isSome_showSection (name : String) (default : Value) (s : Scene) :
    (showSection name default s).isSome := by
  unfold showSection
  split
  · rfl
  · rfl
  · split <;> rfl

/-- An operation that neither renders nor calls anything ends. -/
theorem perform_terminates_of_immediate {operation : Operation} (ho : operation.isImmediate)
    (s : Scene) : Terminates fun depth => perform (nestedAt depth) operation s := by
  cases operation with
  | canvas _ => exact ⟨_, hasOutcome_of_some fun _ => rfl⟩
  | write v => exact terminates_const (isSome_writeValue v s)
  | showSection name default => exact terminates_const (isSome_showSection name default s)
  | data given => cases given <;> exact ⟨_, hasOutcome_of_some fun _ => rfl⟩
  | layout _ _ | layoutName | name | hasFunction _ | exists? | path | state | observe _ _ =>
    exact ⟨_, hasOutcome_of_some fun _ => rfl⟩
  | fetch _ _ _ | insert _ _ _ | render _ | display | call _ _ _ | batch _ _ | escape _ _ =>
    cases ho

/-- Functions end if they neither render nor call anything. -/
theorem Repertoire.functionsEnd_of_immediate {repertoire : Repertoire}
    (h : ∀ {name f}, repertoire.functions.value? name = some f → ∀ arguments named,
      (f.callback arguments named).Asks fun operation => operation.isImmediate = true)
    (rank : String → Nat) : repertoire.FunctionsEnd rank := by
  intro name f hf arguments named s _ _
  have hcall : (f.call (some s.template.name) arguments named).Asks
      fun operation => operation.isImmediate = true := by
    unfold TemplateFunction.call
    split
    · trivial
    · exact h hf _ _
  obtain ⟨left, hleft⟩ := run_terminates_of_asks (K := fun _ => True)
    (fun _ s ho _ => perform_terminates_of_immediate ho s) (fun _ _ _ _ _ _ _ _ => trivial)
    hcall (s := s) trivial
  exact ⟨left, hleft.succ fun _ => rfl⟩

section Ranked

variable {rank : String → Nat} {repertoire : Repertoire} {bound active base : Nat} {s : Scene}

section Bodies

variable (hr : repertoire.Ranked rank) (hf : repertoire.FunctionsEnd rank)
  (hbelow : repertoire.RendersEnd rank bound)

/-! ### Operations of a body -/

include hbelow

/-- Another template is rendered in finite time if it has a lower rank. -/
theorem fetchTemplate_terminates (hs : s.stage.repertoire = repertoire) {name : String}
    (hname : rank name < bound) (data : Dictionary Value) :
    Terminates fun depth => fetchTemplate (nestedAt depth) name data s := by
  obtain ⟨left, hleft⟩ :=
    hbelow (s := ⟨s.stage.engine.make name, s.stage⟩) data hs nofun hname
  refine ⟨(left.1, { s with stage := left.2.stage }), hleft.imp fun _ hd => ?_⟩
  simp only [fetchTemplate, hd]

include hf

theorem callFunction_terminates (h : s.InCourse rank repertoire bound active base) (name : String)
    (arguments : List Value) (named : Dictionary Value) :
    Terminates fun depth => callFunction (nestedAt depth) name arguments named s := by
  unfold callFunction FunctionTable.fetch
  cases hfound : s.stage.engine.functions.value? name with
  | none => exact terminates_const rfl
  | some f =>
    have hheld : repertoire.functions.value? name = some f := by
      rw [← h.repertoire_eq]
      exact hfound
    exact hf hheld arguments named s h.repertoire_eq (h.rank_eq ▸ hbelow)

theorem applyNamed_terminates (h : s.InCourse rank repertoire bound active base) (name : String)
    (v : Value) :
    Terminates fun depth => applyNamed (nestedAt depth) name v s := by
  unfold applyNamed
  split
  · exact callFunction_terminates hf hbelow h name [v] []
  · cases s.stage.host.function? name <;> exact terminates_const rfl

include hr

/-- What a value is sent through ends, one function after the other. -/
theorem throughFunctions_terminates (h : s.InCourse rank repertoire bound active base)
    (names : List String) (v : Value) :
    Terminates fun depth => throughFunctions (nestedAt depth) names v s := by
  induction names generalizing v s with
  | nil => exact terminates_const rfl
  | cons name rest ih =>
    obtain ⟨⟨outcome, s'⟩, hfirst⟩ := applyNamed_terminates hf hbelow h name v
    obtain ⟨depth, hdepth⟩ := hfirst.exists_eq
    have h' := h.applyNamed (keepsCourse_nestedAt hr depth) hr name v _ _ hdepth
    cases outcome with
    | error fault =>
      refine ⟨(.error fault, s'), hfirst.imp fun _ hd => ?_⟩
      simp only [throughFunctions, hd]
    | ok v' =>
      obtain ⟨left, hrest⟩ := ih h' v'
      refine ⟨left, hfirst.andThen hrest fun _ hd => ?_⟩
      simp only [throughFunctions, hd]

theorem batch_terminates (h : s.InCourse rank repertoire bound active base) (v : Value)
    (functions : String) :
    Terminates fun depth => batch (nestedAt depth) v functions s := by
  unfold batch
  cases s.stage.engine.functionNames functions with
  | error fault => exact terminates_const rfl
  | ok names => exact throughFunctions_terminates hr hf hbelow h names v

theorem escape_terminates (h : s.InCourse rank repertoire bound active base) (v : Value)
    (functions : String) :
    Terminates fun depth => escape (nestedAt depth) v functions s := by
  unfold escape
  split
  · exact terminates_const rfl
  · obtain ⟨⟨outcome, s'⟩, hbatch⟩ := batch_terminates hr hf hbelow h v functions
    cases outcome with
    | error fault =>
      refine ⟨(.error fault, s'), hbatch.imp fun _ hd => ?_⟩
      simp only [hd]
    | ok v' =>
      refine ⟨((escapeValue {} v').map .str, s'), hbatch.imp fun _ hd => ?_⟩
      simp only [hd]

/-- An operation ends if renders of templates of a lower rank do. -/
theorem perform_terminates {operation : Operation} (ho : operation.IsBelow rank bound)
    (h : s.InCourse rank repertoire bound active base) :
    Terminates fun depth => perform (nestedAt depth) operation s := by
  cases operation with
  | fetch name data own =>
    obtain ⟨⟨outcome, s'⟩, hfetch⟩ := fetchTemplate_terminates hbelow h.repertoire_eq
      (ho.lt name rfl) (s.template.dataFor data own)
    refine ⟨(outcome.map .str, s'), hfetch.imp fun _ hd => ?_⟩
    simp only [perform, hd, Evaluation.answer]
  | insert name data own =>
    obtain ⟨⟨outcome, s'⟩, hfetch⟩ := fetchTemplate_terminates hbelow h.repertoire_eq
      (ho.lt name rfl) (s.template.dataFor data own)
    cases outcome with
    | error fault =>
      refine ⟨(.error fault, s'), hfetch.imp fun _ hd => ?_⟩
      simp only [perform, hd]
    | ok text =>
      refine ⟨(.ok .null, s'.write text), hfetch.imp fun _ hd => ?_⟩
      simp only [perform, hd]
  | render data => cases ho.isOrderly
  | display => cases ho.runsAnew_eq
  | call name arguments named =>
    exact callFunction_terminates hf hbelow h name arguments named
  | batch v functions => exact batch_terminates hr hf hbelow h v functions
  | escape v functions => exact escape_terminates hr hf hbelow h v functions
  | canvas _ | write _ | showSection _ _ | data _ | layout _ _ | layoutName | name =>
    exact perform_terminates_of_immediate rfl s
  | hasFunction _ | exists? | path | state | observe _ _ =>
    exact perform_terminates_of_immediate rfl s

/-- A program of such operations ends, whatever it does about their faults. -/
theorem run_terminates {α : Type} {p : Program α} (hp : p.Asks (Operation.IsBelow rank bound))
    (h : s.InCourse rank repertoire bound active base) :
    Terminates fun depth => p.run (perform (nestedAt depth)) s :=
  run_terminates_of_asks (fun _ _ ho h => perform_terminates hr hf hbelow ho h)
    (fun depth _ _ ho h => perform_inCourse (keepsCourse_nestedAt hr depth) hr ho h) hp h

/-! ### Renders -/

omit hr hf

/-- The layout that is declared, if any, is rendered in finite time. -/
theorem applyLayout_terminates (h : s.InCourse rank repertoire bound active base)
    (content : String) :
    Terminates fun depth => applyLayout (nestedAt depth) content s := by
  cases hname : s.template.layoutName with
  | none => exact ⟨_, hasOutcome_of_some fun _ => applyLayout_of_none _ content hname⟩
  | some name =>
    obtain ⟨left, hleft⟩ := hbelow (s := s.layoutScene name content) s.template.layoutData
      ((s.stage.repertoire_emit _).trans h.repertoire_eq) nofun (h.layout_lt name hname)
    refine ⟨(left.1, ⟨s.template.setContent content, left.2.stage⟩), hleft.imp fun _ hd => ?_⟩
    rw [applyLayout_of_some _ content hname, hd]
    rfl

/-- What a render does when its body has ended, it does in finite time. -/
theorem completeBody_terminates (h : s.InCourse rank repertoire bound active (base + 1))
    (ended : Except Fault Unit) :
    Terminates fun depth => completeBody (nestedAt depth) (some (ended, s)) := by
  cases ended with
  | error fault => exact terminates_const rfl
  | ok _ =>
    rcases hfinish : finishBody s with ⟨fault | content, closed⟩
    · simp only [completeBody, hfinish]
      exact terminates_const rfl
    · simp only [completeBody, hfinish]
      exact applyLayout_terminates hbelow (h.finished hfinish).1 content

end Bodies

/-- What comes of a body, and of the layout that it declared, does so in finite time. -/
theorem renderBody_terminates (hr : repertoire.Ranked rank) (hf : repertoire.FunctionsEnd rank)
    (hs : s.stage.repertoire = repertoire) (hlayout : s.template.LayoutBelow rank)
    (hbelow : repertoire.RendersEnd rank (rank s.template.name)) (data : Dictionary Value) :
    Terminates fun depth => renderBody (nestedAt depth) (s.begin data) := by
  have hstart := s.inCourse_inBody hs hlayout data
  cases hbody : s.stage.repertoire.body s.template.name with
  | error fault => exact ⟨_, hasOutcome_of_some fun _ => renderBody_of_fault _ data hbody⟩
  | ok body =>
    have hasks := hr.body (hs ▸ hbody)
    obtain ⟨⟨ended, finish⟩, hrun⟩ := run_terminates hr hf hbelow hasks hstart
    obtain ⟨depth, hdepth⟩ := hrun.exists_eq
    have hfinish := run_inCourse (keepsCourse_nestedAt hr depth) hr hasks hstart _ _ hdepth
    obtain ⟨left, hleft⟩ := completeBody_terminates hbelow hfinish ended
    refine ⟨left, hrun.andThen hleft fun _ hd => ?_⟩
    rw [renderBody_of_body _ data hbody, hd]

/-- Every render ends, whether it succeeds or fails. -/
theorem render_terminates (hr : repertoire.Ranked rank) (hf : repertoire.FunctionsEnd rank)
    (data : Dictionary Value) (hs : s.stage.repertoire = repertoire)
    (hlayout : s.template.LayoutBelow rank) :
    Terminates fun depth => (nestedAt depth).render data s := by
  induction hrank : rank s.template.name using Nat.strongRecOn generalizing s data with
  | ind n ih =>
    have hbelow : repertoire.RendersEnd rank (rank s.template.name) := by
      intro s' data' hs' hlayout' hlt
      exact ih _ (hrank ▸ hlt) data' hs' hlayout' rfl
    obtain ⟨left, hleft⟩ := renderBody_terminates hr hf hs hlayout hbelow data
    have hsettled : HasOutcome (fun depth => renderWith (nestedAt depth) data s)
        (left.1, s.settle left.1 left.2) := hleft.imp fun depth hd => by
      have hended : completeBody (nestedAt depth) (display (nestedAt depth) (s.opening data)) =
          some left := hd
      rw [renderWith_eq_settle, hended]
      rfl
    exact ⟨_, hsettled.succ fun _ => rfl⟩

end Ranked

end TemplateEngine
