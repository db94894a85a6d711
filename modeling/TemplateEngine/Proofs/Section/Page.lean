import TemplateEngine.Proofs.Section.InStep

/-!
# Sections without a capture

A page keeps the texts of one template without a capture: the output, the sections and their
modes, and the open section with the text that was written since it was opened. A section that was
skipped has no text of its own, and what is written while it is open goes to the output. Orderly
operations can be performed on a page alone, and then a canvas over any capture does the same.

## Main definitions

* `Page`, `OpenSection`: the texts of one template.
* `Page.perform`: what an orderly operation answers and leaves.
* `Page.canvas`: a page shown over a capture.

## Main results

* `Page.perform_canvas`: an orderly operation on a canvas does what it does on the page.
-/

namespace TemplateEngine

/-- An open section: its name, the mode that it was opened in, and the text that was written
since then, unless it was skipped. -/
structure OpenSection where
  name : String
  mode : SectionMode
  text? : Option String

/-- The output and the sections of one template. -/
structure Page where
  sections : Dictionary String := []
  modes : Dictionary SectionMode := []
  current : Option OpenSection := none
  output : String := ""

namespace Page

/-! ### Operations on a page -/

def modeOf (p : Page) (name : String) : SectionMode := (p.modes.value? name).getD .once

def hasSection (p : Page) (name : String) : Bool := p.sections.holds name

/-- The text of a section, empty if it is not there. -/
def sectionText (p : Page) (name : String) : String := (p.sections.value? name).getD ""

/-- Writes to the open section, and to the output if there is none or it was skipped. -/
def write (p : Page) (text : String) : Page :=
  match p.current with
  | some ⟨name, mode, some held⟩ => { p with current := some ⟨name, mode, some (held ++ text)⟩ }
  | _ => { p with output := p.output ++ text }

/-- What stands against opening a section. -/
def obstacle? (p : Page) (name : String) : Option Fault :=
  if name = contentSection then some (.reservedName name)
  else p.current.map fun o => .nestedSection name o.name

/-- Whether a section is skipped when it is opened in a mode. -/
def skips (p : Page) (name : String) (mode : SectionMode) : Bool :=
  p.hasSection name && mode = .once

/-- Opens a section in a mode. In the plain mode it is skipped if it is there already. -/
def opened (p : Page) (name : String) (mode : SectionMode) (modes : Dictionary SectionMode) :
    Page :=
  { p with
    modes := modes
    current := some ⟨name, mode, if p.skips name mode then none else some ""⟩ }

def start (p : Page) (name : String) : Except Fault Bool × Page :=
  match p.obstacle? name with
  | some fault => (.error fault, p)
  | none => (.ok (!p.hasSection name), p.opened name .once p.modes)

/-- Opens a section in a given mode and records the mode. -/
def startIn (p : Page) (name : String) (mode : SectionMode) : Except Fault Bool × Page :=
  match p.obstacle? name with
  | some fault => (.error fault, p)
  | none => (.ok true, p.opened name mode (p.modes.put name mode))

/-- Closes a section; the text that was written to it joins what is there. -/
def closed (p : Page) (o : OpenSection) : Page :=
  match o.text? with
  | none => { p with current := none }
  | some text =>
    { p with
      sections := p.sections.put o.name
        (SectionStore.joinText o.mode (p.sectionText o.name) text)
      current := none }

def stop (p : Page) : Except Fault Unit × Page :=
  match p.current with
  | none => (.error .notOpen, p)
  | some o => (.ok (), p.closed o)

/-- Closes the open section, if there is one, and shows its text. -/
def stopSection (p : Page) : Page :=
  match p.current with
  | none => p
  | some o => (p.closed o).write ((p.closed o).sectionText o.name)

/-- Shows a section in place. A section that was pushed takes the default in front of its text:
it is opened again, or, if the default is given as a text, changed and shown at once. -/
def startSection (p : Page) (name : String) (default : Option String) :
    Except Fault (Option Bool) × Page :=
  match p.sections.value? name with
  | none => (.ok (if default.isSome then none else some true), p)
  | some stored =>
    match p.modeOf name with
    | .once => (.ok (if default.isSome then none else some false), p.write stored)
    | .prepend =>
      match default with
      | none => (.ok (some true), p.write stored)
      | some text => (.ok none, (p.write stored).write text)
    | .append =>
      match p.obstacle? name with
      | some fault => (.error fault, p)
      | none =>
        match default with
        | none => (.ok (some true), p.opened name .prepend p.modes)
        | some text =>
          (.ok none, { p with sections := p.sections.put name (text ++ stored) }.write
            (text ++ stored))

/-- What an operation answers and what it leaves; an operation that is not orderly has no meaning
on a page. -/
def perform (p : Page) : CanvasOperation → Option (Except Fault Value × Page)
  | .write text => some (.ok .null, p.write text)
  | .start name => some (CanvasOperation.answer .bool (p.start name))
  | .push name => some (CanvasOperation.answer .bool (p.startIn name .append))
  | .unshift name => some (CanvasOperation.answer .bool (p.startIn name .prepend))
  | .stop => some (CanvasOperation.answer CanvasOperation.nothing p.stop)
  | .section name default => some (.ok ((p.sections.value? name).elim default .str), p)
  | .startSection name default =>
    some (CanvasOperation.answer CanvasOperation.shown (p.startSection name default))
  | .stopSection => some (.ok .null, p.stopSection)
  | .hasSection name => some (.ok (.bool (p.hasSection name)), p)
  | .modeOf name => some (.ok (.mode (p.modeOf name)), p)
  | .modeNumber name => some (.ok (.int (p.modeOf name).number), p)
  | .isOpen => some (.ok (.bool p.current.isSome), p)
  | _ => none

/-! ### A page over a capture -/

/-- The sections of a page, as a store keeps them. -/
def store (p : Page) : SectionStore where
  sections := p.sections
  modes := p.modes
  openName := p.current.map OpenSection.name
  workingMode := (p.current.map OpenSection.mode).getD .once

/-- The texts of a page that are not stored yet, over a capture. -/
def capture (p : Page) (base : Capture) : Capture :=
  match p.current with
  | some ⟨_, _, some held⟩ => (base.write p.output).openRegion.write held
  | _ => base.write p.output

/-- A page shown over a capture. -/
def canvas (p : Page) (base : Capture) : Canvas := ⟨p.store, p.capture base⟩

/-- The open section was skipped exactly if it is there already and was opened in the plain mode.
It is not the content section, which is neither pushed nor unshifted. -/
structure WellFormed (p : Page) : Prop where
  skipped : ∀ o, p.current = some o → o.text?.isNone = p.skips o.name o.mode
  name_ne : ∀ o, p.current = some o → o.name ≠ contentSection
  content_mode : p.modes.value? contentSection = none

variable {p : Page} {base : Capture}

theorem obstacle?_store (p : Page) (name : String) : p.store.obstacle? name = p.obstacle? name := by
  unfold SectionStore.obstacle? obstacle? store
  cases p.current <;> rfl

theorem obstacle?_eq_none (p : Page) {name : String} (h : p.obstacle? name = none) :
    name ≠ contentSection ∧ p.current = none := by
  unfold obstacle? at h
  split at h
  · cases h
  · next hname => exact ⟨hname, by simpa using h⟩

/-- The canvas skips a section exactly if the page did when it was opened. -/
theorem WellFormed.isSkipped_store (h : p.WellFormed) {o : OpenSection} (ho : p.current = some o) :
    p.store.isSkipped = o.text?.isNone := by
  rw [h.skipped o ho]
  simp only [SectionStore.isSkipped, store, ho]
  rfl

/-! ### Writing and opening -/

theorem canvas_write (p : Page) (base : Capture) (text : String) :
    (p.canvas base).write text = (p.write text).canvas base := by
  rcases hcurrent : p.current with _ | ⟨name, mode, _ | held⟩ <;>
    simp [Canvas.write, canvas, capture, write, store, hcurrent, Capture.write_write]

@[simp] theorem sections_write (p : Page) (text : String) :
    (p.write text).sections = p.sections := by
  unfold write
  split <;> rfl

@[simp] theorem modes_write (p : Page) (text : String) : (p.write text).modes = p.modes := by
  unfold write
  split <;> rfl

/-- Writing changes the text of the open section at most. -/
theorem current_write (p : Page) (text : String) :
    (p.write text).current = p.current.map fun o => ⟨o.name, o.mode, o.text?.map (· ++ text)⟩ := by
  rcases hcurrent : p.current with _ | ⟨name, mode, _ | held⟩ <;> simp [write, hcurrent]

theorem WellFormed.write (h : p.WellFormed) (text : String) : (p.write text).WellFormed := by
  refine ⟨fun o ho => ?_, fun o ho => ?_, by rw [modes_write]; exact h.content_mode⟩
  · rw [current_write, Option.map_eq_some_iff] at ho
    obtain ⟨o', ho', rfl⟩ := ho
    simpa [skips, hasSection] using h.skipped o' ho'
  · rw [current_write, Option.map_eq_some_iff] at ho
    obtain ⟨o', ho', rfl⟩ := ho
    exact h.name_ne o' ho'

/-- A section that is skipped changes nothing but the sections, and another one opens a region. -/
theorem capture_opened (p : Page) (base : Capture) (name : String) (mode : SectionMode)
    (modes : Dictionary SectionMode) :
    (p.opened name mode modes).capture base =
      if p.skips name mode then base.write p.output else (base.write p.output).openRegion := by
  cases hskip : p.skips name mode <;> simp [capture, opened, hskip]

theorem canvas_opened (hclosed : p.current = none) (name : String) (mode : SectionMode)
    (modes : Dictionary SectionMode) :
    (p.canvas base).opened name mode modes = (p.opened name mode modes).canvas base := by
  have hcapture : base.write p.output = p.capture base := by rw [capture, hclosed]
  have hopened := p.capture_opened base name mode modes
  rw [hcapture] at hopened
  rw [canvas, canvas, hopened]
  rfl

theorem wellFormed_opened (p : Page) {name : String} (hname : name ≠ contentSection)
    (mode : SectionMode) {modes : Dictionary SectionMode}
    (hmodes : modes.value? contentSection = none) : (p.opened name mode modes).WellFormed := by
  refine ⟨?_, ?_, hmodes⟩
  · rintro o ⟨rfl⟩
    change (if p.skips name mode then none else some "").isNone = p.skips name mode
    cases p.skips name mode <;> rfl
  · rintro o ⟨rfl⟩
    exact hname

/-! ### Operations on a canvas and on its page -/

/-- An outcome on a canvas is that on a page. -/
def Mirrors {α : Type} (base : Capture) (onCanvas : Except Fault α × Canvas)
    (onPage : Except Fault α × Page) : Prop :=
  onCanvas = (onPage.1, onPage.2.canvas base) ∧ onPage.2.WellFormed

theorem Mirrors.answer {α : Type} {onCanvas : Except Fault α × Canvas}
    {onPage : Except Fault α × Page} (h : Mirrors base onCanvas onPage) (f : α → Value) :
    Mirrors base (CanvasOperation.answer f onCanvas) (CanvasOperation.answer f onPage) := by
  obtain ⟨rfl, hwell⟩ := h
  exact ⟨rfl, hwell⟩

theorem mirrors_start (h : p.WellFormed) (name : String) :
    Mirrors base ((p.canvas base).start name) (p.start name) := by
  have hobstacle := p.obstacle?_store name
  cases hfree : p.obstacle? name with
  | some fault =>
    rw [hfree] at hobstacle
    rw [Canvas.start_of_obstacle _ name fault hobstacle, start, hfree]
    exact ⟨rfl, h⟩
  | none =>
    obtain ⟨hname, hclosed⟩ := p.obstacle?_eq_none hfree
    have hmode : (p.canvas base).store.workingMode = .once := by simp [canvas, store, hclosed]
    have hskip : ((p.canvas base).opened name .once p.modes).store.isSkipped =
        p.hasSection name := by
      rw [Canvas.isSkipped_opened]
      exact Bool.and_true _
    rw [hfree] at hobstacle
    rw [Canvas.start_of_free _ name hobstacle, hmode, start, hfree]
    exact ⟨by rw [← canvas_opened hclosed, ← hskip]; rfl,
      p.wellFormed_opened hname .once h.content_mode⟩

theorem mirrors_startIn (h : p.WellFormed) (name : String) (mode : SectionMode) :
    Mirrors base ((p.canvas base).startIn name mode) (p.startIn name mode) := by
  have hobstacle := p.obstacle?_store name
  cases hfree : p.obstacle? name with
  | some fault =>
    rw [hfree] at hobstacle
    rw [Canvas.startIn_of_obstacle _ name mode fault hobstacle, startIn, hfree]
    exact ⟨rfl, h⟩
  | none =>
    obtain ⟨hname, hclosed⟩ := p.obstacle?_eq_none hfree
    have hmodes : (p.modes.put name mode).value? contentSection = none := by
      rw [Dictionary.value?_put, if_neg hname, h.content_mode]
    rw [hfree] at hobstacle
    rw [Canvas.startIn_of_free _ name mode hobstacle, startIn, hfree]
    exact ⟨by rw [← canvas_opened hclosed]; rfl, p.wellFormed_opened hname mode hmodes⟩

/-- Stopping a section closes it on the page, whether it was skipped or has a text. -/
theorem stop_canvas (h : p.WellFormed) {o : OpenSection} (ho : p.current = some o) :
    (p.canvas base).stop = (.ok (), (p.closed o).canvas base) := by
  have hskipped := h.isSkipped_store ho
  obtain ⟨name, mode, _ | held⟩ := o
  · have hcapture : (p.canvas base).capture = base.write p.output := by
      simp [canvas, capture, ho]
    rw [Canvas.stop_of_skipped (p.canvas base) hskipped, hcapture]
    rfl
  · have hopen : (p.canvas base).store.openName = some name := by simp [canvas, store, ho]
    have hmode : p.store.workingMode = mode := by simp [store, ho]
    have hcapture : (p.canvas base).capture = (base.write p.output).openRegion.write held := by
      simp only [canvas, capture, ho]
    have hregion : (p.canvas base).capture.closeRegion? = some (held, base.write p.output) := by
      rw [hcapture, Capture.closeRegion?_write_openRegion]
    rw [Canvas.stop_of_region (p.canvas base) hopen hskipped hregion]
    simp only [canvas, SectionStore.merge, hmode]
    rfl

theorem WellFormed.closed (h : p.WellFormed) (o : OpenSection) : (p.closed o).WellFormed := by
  unfold Page.closed
  split
  · exact ⟨nofun, nofun, h.content_mode⟩
  · exact ⟨nofun, nofun, h.content_mode⟩

theorem mirrors_stop (h : p.WellFormed) :
    Mirrors base (p.canvas base).stop p.stop := by
  cases hcurrent : p.current with
  | none =>
    have hclosed : (p.canvas base).store.openName = none := by simp [canvas, store, hcurrent]
    rw [Canvas.stop_of_closed _ hclosed, stop, hcurrent]
    exact ⟨rfl, h⟩
  | some o =>
    rw [stop_canvas h hcurrent, stop, hcurrent]
    exact ⟨rfl, h.closed o⟩

theorem stopSection_canvas (h : p.WellFormed) :
    (p.canvas base).stopSection = (.ok (), p.stopSection.canvas base) := by
  cases hcurrent : p.current with
  | none =>
    have hclosed : (p.canvas base).store.openName = none := by simp [canvas, store, hcurrent]
    rw [Canvas.stopSection_of_closed _ hclosed, stopSection, hcurrent]
  | some o =>
    have hopen : (p.canvas base).store.openName = some o.name := by simp [canvas, store, hcurrent]
    rw [Canvas.stopSection, hopen, stopSection, hcurrent]
    simp only [stop_canvas h hcurrent]
    rw [canvas_write]
    rfl

theorem WellFormed.stopSection (h : p.WellFormed) : p.stopSection.WellFormed := by
  unfold Page.stopSection
  split
  · exact h
  · exact (h.closed _).write _

/-- A section that was pushed is shown with the default in front, which is stored. -/
theorem reopen_canvas_text {name : String} (hname : name ≠ contentSection)
    (hclosed : p.current = none) (text : String) :
    (p.canvas base).reopen name (some text) =
      (.ok none, ({ p with
        sections := p.sections.put name (text ++ p.sectionText name) }.write
          (text ++ p.sectionText name)).canvas base) := by
  have hopen : (p.canvas base).store.openName = none := by simp [canvas, store, hclosed]
  rw [Canvas.reopen_text _ name text hopen hname, ← canvas_write]
  congr 2
  simp [canvas, store, capture, hclosed, Canvas.opened, SectionStore.merge, SectionStore.close,
    SectionStore.joinText, sectionText]

theorem mirrors_startSection (h : p.WellFormed) (name : String) (default : Option String) :
    Mirrors base ((p.canvas base).startSection name default) (p.startSection name default) := by
  cases hstored : p.sections.value? name with
  | none =>
    have hcanvas : (p.canvas base).store.sections.value? name = none := hstored
    rw [Canvas.startSection, startSection, hcanvas, hstored]
    exact ⟨rfl, h⟩
  | some stored =>
    have hcanvas : (p.canvas base).store.sections.value? name = some stored := hstored
    have hmodeOf : (p.canvas base).store.modeOf name = p.modeOf name := rfl
    rw [Canvas.startSection, startSection, hcanvas, hstored]
    simp only [hmodeOf]
    cases hmode : p.modeOf name with
    | once => exact ⟨by simp only [canvas_write], h.write stored⟩
    | prepend =>
      cases default with
      | none => exact ⟨by simp only [canvas_write], h.write stored⟩
      | some text => exact ⟨by simp only [canvas_write], (h.write stored).write text⟩
    | append =>
      have hname : name ≠ contentSection := by
        rintro rfl
        simp [modeOf, h.content_mode] at hmode
      rcases Option.eq_none_or_eq_some p.current with hcurrent | ⟨o, hcurrent⟩
      · have hopen : (p.canvas base).store.openName = none := by simp [canvas, store, hcurrent]
        have hobstacle : p.obstacle? name = none := by simp [obstacle?, hname, hcurrent]
        simp only [hobstacle]
        cases default with
        | none =>
          refine ⟨?_, p.wellFormed_opened hname .prepend h.content_mode⟩
          rw [Canvas.reopen_of_closed _ name hopen hname]
          exact congrArg _ (canvas_opened hcurrent name .prepend p.modes)
        | some text =>
          have htext : p.sectionText name = stored := by simp [sectionText, hstored]
          have hwell : WellFormed { p with sections := p.sections.put name (text ++ stored) } :=
            ⟨by simp [hcurrent], by simp [hcurrent], h.content_mode⟩
          refine ⟨?_, hwell.write _⟩
          rw [reopen_canvas_text hname hcurrent text, htext]
      · have hopen : (p.canvas base).store.openName = some o.name := by
          simp [canvas, store, hcurrent]
        have hobstacle : p.obstacle? name = some (.nestedSection name o.name) := by
          simp [obstacle?, hname, hcurrent]
        simp only [hobstacle]
        exact ⟨Canvas.reopen_of_open _ name o.name default hopen, h⟩

/-- An orderly operation on a canvas does what it does on the page. -/
theorem perform_canvas (h : p.WellFormed) (base : Capture) {operation : CanvasOperation}
    (ho : operation.isOrderly) :
    ∃ left, p.perform operation = some left ∧
      Mirrors base (operation.perform (p.canvas base)) left := by
  cases operation with
  | write text => exact ⟨_, rfl, by rw [CanvasOperation.perform, canvas_write], h.write text⟩
  | start name => exact ⟨_, rfl, (mirrors_start h name).answer _⟩
  | push name => exact ⟨_, rfl, (mirrors_startIn h name .append).answer _⟩
  | unshift name => exact ⟨_, rfl, (mirrors_startIn h name .prepend).answer _⟩
  | stop => exact ⟨_, rfl, (mirrors_stop h).answer _⟩
  | «section» name default => exact ⟨_, rfl, rfl, h⟩
  | startSection name default => exact ⟨_, rfl, (mirrors_startSection h name default).answer _⟩
  | stopSection =>
    exact ⟨_, rfl, by rw [CanvasOperation.perform, stopSection_canvas h]; rfl, h.stopSection⟩
  | hasSection name => exact ⟨_, rfl, rfl, h⟩
  | modeOf name => exact ⟨_, rfl, rfl, h⟩
  | modeNumber name => exact ⟨_, rfl, rfl, h⟩
  | isOpen =>
    refine ⟨_, rfl, ?_, h⟩
    cases hcurrent : p.current <;>
      simp [CanvasOperation.perform, canvas, store, SectionStore.isOpen, hcurrent]
  | openRegion | closeRegion | discard | unwind _ | peek | depth => cases ho
  | setContent _ | adopt _ _ => cases ho

end Page

end TemplateEngine
