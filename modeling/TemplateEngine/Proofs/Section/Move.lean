import Mathlib.Logic.Relation
import TemplateEngine.Section.Operation

/-!
# What an operation can do to a canvas

An operation is *orderly* if it acts neither on the capture behind the back of the store nor on
the store behind the back of its open section. Every orderly operation is a sequence of four
moves: a text is written, a section is opened, a section is stopped, or the working mode is left
behind by an attempt to reopen the content section.

## Main definitions

* `CanvasOperation.isOrderly`, `CanvasOperation.isInner`: the orderly operations, and those that are
  not there to stop a section.
* `Canvas.opened`: a canvas with a section opened.
* `Canvas.Move`: the four moves.

## Main results

* `Canvas.start_of_free`, `Canvas.startIn_of_free`, `Canvas.reopen_of_closed`: opening a section.
* `Canvas.moves_perform`: every orderly operation is a sequence of moves.
* `Canvas.perform_of_inner`: while a section is open, an operation that is not there to stop it only
  writes.
-/

namespace TemplateEngine

/-- Whether an operation acts neither on the capture behind the back of the store nor on the store
behind the back of its open section. -/
def CanvasOperation.isOrderly : CanvasOperation → Bool
  | .openRegion | .closeRegion | .discard | .unwind _ | .peek | .depth => false
  | .setContent _ | .adopt _ _ => false
  | .write _ | .start _ | .push _ | .unshift _ | .stop | .section _ _ | .startSection _ _ => true
  | .stopSection | .hasSection _ | .modeOf _ | .modeNumber _ | .isOpen => true

/-- Whether an operation is orderly and not there to stop a section. -/
def CanvasOperation.isInner : CanvasOperation → Bool
  | .stop | .stopSection => false
  | operation => operation.isOrderly

namespace Canvas

/-! ### Opening a section -/

/-- A canvas with a section opened in a mode. A skipped section opens no region. -/
def opened (c : Canvas) (name : String) (mode : SectionMode) (modes : Dictionary SectionMode) :
    Canvas :=
  let store := { c.store with openName := some name, workingMode := mode, modes := modes }
  ⟨store, if store.isSkipped then c.capture else c.capture.openRegion⟩

@[simp] theorem isOpen_opened (c : Canvas) (name : String) (mode : SectionMode)
    (modes : Dictionary SectionMode) : (c.opened name mode modes).store.isOpen = true := rfl

/-- A section that is skipped opens no region, and any other one opens one. -/
theorem capture_opened (c : Canvas) (name : String) (mode : SectionMode)
    (modes : Dictionary SectionMode) :
    (c.opened name mode modes).capture =
      if (c.opened name mode modes).store.isSkipped then c.capture else c.capture.openRegion := rfl

/-- Only a stored section is skipped, and only in the plain mode. -/
theorem isSkipped_opened (c : Canvas) (name : String) (mode : SectionMode)
    (modes : Dictionary SectionMode) :
    (c.opened name mode modes).store.isSkipped = (c.store.hasSection name && mode = .once) := rfl

/-- A free section is opened in the working mode. -/
theorem start_of_free (c : Canvas) (name : String) (h : c.store.obstacle? name = none) :
    c.start name = (.ok (!(c.opened name c.store.workingMode c.store.modes).store.isSkipped),
      c.opened name c.store.workingMode c.store.modes) := by
  simp only [start, h, opened]
  split <;> simp_all

/-- A free section is opened in the mode that is asked for, and the mode is recorded. -/
theorem startIn_of_free (c : Canvas) (name : String) (mode : SectionMode)
    (h : c.store.obstacle? name = none) :
    c.startIn name mode = (.ok true, c.opened name mode (c.store.modes.put name mode)) := by
  have hstart := start_of_free
    ⟨{ c.store with workingMode := mode, modes := c.store.modes.put name mode }, c.capture⟩ name h
  simp only [startIn, h]
  rw [hstart]
  rfl

/-- What stands against opening a section in a mode leaves everything as it is. -/
theorem startIn_of_obstacle (c : Canvas) (name : String) (mode : SectionMode) (fault : Fault)
    (h : c.store.obstacle? name = some fault) : c.startIn name mode = (.error fault, c) := by
  simp [startIn, h]

/-- A section that is not the content section is reopened so that its text goes in front. -/
theorem reopen_of_closed (c : Canvas) (name : String) (h : c.store.openName = none)
    (hname : name ≠ contentSection) :
    c.reopen name none = (.ok (some true), c.opened name .prepend c.store.modes) := by
  have hstart := start_of_free ⟨{ c.store with workingMode := .prepend }, c.capture⟩ name
    ((SectionStore.obstacle?_eq_none_iff _ _).2 ⟨hname, h⟩)
  simp only [h] at hstart
  simp only [reopen, h, hstart, opened]

/-- A text given as the default is written to the reopened section, which is then stopped. -/
theorem reopen_of_closed_text (c : Canvas) (name text : String) (h : c.store.openName = none)
    (hname : name ≠ contentSection) :
    c.reopen name (some text) =
      match ((c.opened name .prepend c.store.modes).write text).stopSection with
      | (.error fault, canvas) => (.error fault, canvas)
      | (.ok (), canvas) => (.ok none, canvas) := by
  have hstart := start_of_free ⟨{ c.store with workingMode := .prepend }, c.capture⟩ name
    ((SectionStore.obstacle?_eq_none_iff _ _).2 ⟨hname, h⟩)
  simp only [h] at hstart
  rcases hstop : ((c.opened name .prepend c.store.modes).write text).stopSection with
    ⟨fault | ended, canvas⟩
  · simp only [opened] at hstop
    simp only [reopen, h, hstart, opened, hstop]
  · simp only [opened] at hstop
    simp only [reopen, h, hstart, opened, hstop]

/-- The content section is not reopened, but the working mode is left behind. -/
theorem reopen_content (c : Canvas) (default : Option String) (h : c.store.openName = none) :
    c.reopen contentSection default = (.error (.reservedName contentSection),
      ⟨{ c.store with workingMode := .prepend }, c.capture⟩) := by
  have hstart := start_of_obstacle ⟨{ c.store with workingMode := .prepend }, c.capture⟩
    contentSection (.reservedName contentSection) (by simp [SectionStore.obstacle?])
  simp only [h] at hstart
  simp only [reopen, h, hstart]

/-- With a section open nothing is reopened. -/
theorem reopen_of_open (c : Canvas) (name openName : String) (default : Option String)
    (h : c.store.openName = some openName) :
    c.reopen name default = (.error (.nestedSection name openName), c) := by
  simp [reopen, h]

/-! ### Stopping a section -/

/-- A skipped section is closed, and nothing is stored. -/
theorem stop_of_skipped (c : Canvas) (h : c.store.isSkipped) :
    c.stop = (.ok (), ⟨c.store.close, c.capture⟩) := by
  cases hopen : c.store.openName with
  | none => simp [SectionStore.isSkipped, hopen] at h
  | some name => simp [stop, hopen, h]

/-- A section that was not skipped is closed together with the innermost region, whose text is
merged. -/
theorem stop_of_region (c : Canvas) {name captured : String} {capture : Capture}
    (hopen : c.store.openName = some name) (hskip : c.store.isSkipped = false)
    (hregion : c.capture.closeRegion? = some (captured, capture)) :
    c.stop = (.ok (), ⟨(c.store.merge name captured).close, capture⟩) := by
  simp [stop, hopen, hskip, hregion]

/-- A section that was stopped was skipped and is closed, or its text was merged. -/
theorem stop_inv {c c' : Canvas} (h : c.stop = (.ok (), c')) :
    ∃ name, c.store.openName = some name ∧
      (c.store.isSkipped = true ∧ c' = ⟨c.store.close, c.capture⟩ ∨
        c.store.isSkipped = false ∧ ∃ captured capture,
          c.capture.closeRegion? = some (captured, capture) ∧
          c' = ⟨(c.store.merge name captured).close, capture⟩) := by
  cases hopen : c.store.openName with
  | none => simp [stop_of_closed c hopen] at h
  | some name =>
    refine ⟨name, rfl, ?_⟩
    cases hskip : c.store.isSkipped with
    | true =>
      cases (stop_of_skipped c hskip).symm.trans h
      exact .inl ⟨rfl, rfl⟩
    | false =>
      cases hregion : c.capture.closeRegion? with
      | none => simp [stop, hopen, hskip, hregion] at h
      | some closed =>
        cases (stop_of_region c hopen hskip hregion).symm.trans h
        exact .inr ⟨rfl, closed.1, closed.2, rfl, rfl⟩

/-- A region is ended by the stop of the section that opened it, and its text is merged. -/
theorem stop_write_of_region (c : Canvas) {name : String} {before : Capture}
    (hopen : c.store.openName = some name) (hskip : c.store.isSkipped = false)
    (hregion : c.capture = before.openRegion) (text : String) :
    (c.write text).stop = (.ok (), ⟨(c.store.merge name text).close, before⟩) := by
  refine stop_of_region (c.write text) hopen hskip ?_
  rw [write, hregion, Capture.closeRegion?_write_openRegion]

/-- A section that is opened so as to join what is there is never skipped. -/
theorem isSkipped_opened_of_ne (c : Canvas) (name : String) {mode : SectionMode}
    (hmode : mode ≠ .once) (modes : Dictionary SectionMode) :
    (c.opened name mode modes).store.isSkipped = false := by
  simp [isSkipped_opened, hmode]

/-- A reopened section that is stopped takes the text in front, shows both and is closed. -/
theorem reopen_text (c : Canvas) (name text : String) (h : c.store.openName = none)
    (hname : name ≠ contentSection) :
    c.reopen name (some text) =
      (.ok none, (⟨((c.opened name .prepend c.store.modes).store.merge name text).close,
        c.capture⟩ : Canvas).write (text ++ c.sectionText name)) := by
  have hskip := isSkipped_opened_of_ne c name (by simp : SectionMode.prepend ≠ .once)
    c.store.modes
  have hstop := stop_write_of_region (c.opened name .prepend c.store.modes) rfl hskip
    (by rw [capture_opened, hskip]; rfl) text
  have hopen : ((c.opened name .prepend c.store.modes).write text).store.openName = some name := rfl
  rw [reopen_of_closed_text c name text h hname, stopSection, hopen, hstop]
  simp [sectionText, SectionStore.close, SectionStore.value?_merge, opened, SectionStore.joinText]

/-- Stopping fails and changes nothing, or leaves no section open. -/
theorem stop_cases (c : Canvas) :
    (∃ fault, c.stop = (.error fault, c)) ∨
      ∃ c', c.stop = (.ok (), c') ∧ c'.store.isOpen = false := by
  cases hopen : c.store.openName with
  | none => exact .inl ⟨_, stop_of_closed c hopen⟩
  | some name =>
    cases hskip : c.store.isSkipped with
    | true => exact .inr ⟨_, stop_of_skipped c hskip, rfl⟩
    | false =>
      cases hregion : c.capture.closeRegion? with
      | none => exact .inl ⟨.noRegionToEnd, by simp [stop, hopen, hskip, hregion]⟩
      | some closed => exact .inr ⟨_, stop_of_region c hopen hskip hregion, rfl⟩

/-- Stopping a section and showing it fails and changes nothing, or leaves no section open. -/
theorem stopSection_of_open (c : Canvas) {name : String} (hopen : c.store.openName = some name) :
    (∃ fault, c.stop = (.error fault, c) ∧ c.stopSection = (.error fault, c)) ∨
      ∃ c', c.stop = (.ok (), c') ∧ c'.store.isOpen = false ∧
        c.stopSection = (.ok (), c'.write (c'.sectionText name)) := by
  rcases stop_cases c with ⟨fault, h⟩ | ⟨c', h, hclosed⟩
  · exact .inl ⟨fault, h, by simp [stopSection, hopen, h]⟩
  · exact .inr ⟨c', h, hclosed, by simp [stopSection, hopen, h]⟩

/-! ### Moves -/

/-- The moves that orderly operations are made of. -/
inductive Move : Canvas → Canvas → Prop
  | write (c : Canvas) (text : String) : Move c (c.write text)
  | start (c : Canvas) (name : String) (mode : SectionMode) (modes : Dictionary SectionMode)
      (hclosed : c.store.openName = none) (hname : name ≠ contentSection)
      (hmodes : modes = c.store.modes ∨ modes = c.store.modes.put name mode) :
      Move c (c.opened name mode modes)
  | stop {c c' : Canvas} (h : c.stop = (.ok (), c')) : Move c c'
  /-- The content section was to be reopened, which is refused after the mode was set. -/
  | refused (c : Canvas) (hclosed : c.store.openName = none)
      (hmode : c.store.modeOf contentSection = .append) :
      Move c ⟨{ c.store with workingMode := .prepend }, c.capture⟩

/-- A sequence of moves. -/
abbrev Moves : Canvas → Canvas → Prop := Relation.ReflTransGen Move

theorem Moves.write (c : Canvas) (text : String) : Moves c (c.write text) :=
  .single (.write c text)

theorem moves_start (c : Canvas) (name : String) : Moves c (c.start name).2 := by
  cases h : c.store.obstacle? name with
  | some fault => rw [start_of_obstacle c name fault h]
  | none =>
    obtain ⟨hname, hclosed⟩ := (SectionStore.obstacle?_eq_none_iff _ _).1 h
    rw [start_of_free c name h]
    exact .single (.start c name _ _ hclosed hname (.inl rfl))

theorem moves_startIn (c : Canvas) (name : String) (mode : SectionMode) :
    Moves c (c.startIn name mode).2 := by
  cases h : c.store.obstacle? name with
  | some fault => rw [startIn_of_obstacle c name mode fault h]
  | none =>
    obtain ⟨hname, hclosed⟩ := (SectionStore.obstacle?_eq_none_iff _ _).1 h
    rw [startIn_of_free c name mode h]
    exact .single (.start c name _ _ hclosed hname (.inr rfl))

theorem moves_stop (c : Canvas) : Moves c c.stop.2 := by
  rcases stop_cases c with ⟨fault, h⟩ | ⟨c', h, -⟩
  · rw [h]
  · rw [h]
    exact .single (.stop h)

theorem moves_stopSection (c : Canvas) : Moves c c.stopSection.2 := by
  cases hopen : c.store.openName with
  | none => rw [stopSection_of_closed c hopen]
  | some name =>
    rcases stopSection_of_open c hopen with ⟨fault, -, h⟩ | ⟨c', hstop, -, h⟩
    · rw [h]
    · rw [h]
      exact (Relation.ReflTransGen.single (.stop hstop)).trans (Moves.write _ _)

theorem moves_reopen (c : Canvas) (name : String) (default : Option String)
    (hmode : c.store.modeOf name = .append) : Moves c (c.reopen name default).2 := by
  cases hopen : c.store.openName with
  | some openName => rw [reopen_of_open c name openName default hopen]
  | none =>
    by_cases hname : name = contentSection
    · subst hname
      rw [reopen_content c default hopen]
      exact .single (.refused c hopen hmode)
    · have hstart : Moves c (c.opened name .prepend c.store.modes) :=
        .single (.start c name _ _ hopen hname (.inl rfl))
      cases default with
      | none => rw [reopen_of_closed c name hopen hname]; exact hstart
      | some text =>
        have hmoves := (hstart.trans (Moves.write _ text)).trans (moves_stopSection _)
        rw [reopen_of_closed_text c name text hopen hname]
        split
        · next hstop => rw [hstop] at hmoves; exact hmoves
        · next hstop => rw [hstop] at hmoves; exact hmoves

theorem moves_startSection (c : Canvas) (name : String) (default : Option String) :
    Moves c (c.startSection name default).2 := by
  cases hstored : c.store.sections.value? name with
  | none => simp only [startSection, hstored]; exact .refl
  | some stored =>
    cases hmode : c.store.modeOf name with
    | once => simp only [startSection, hstored, hmode]; exact Moves.write c stored
    | prepend =>
      cases default with
      | none => simp only [startSection, hstored, hmode]; exact Moves.write c stored
      | some text =>
        simp only [startSection, hstored, hmode]
        exact (Moves.write c stored).trans (Moves.write _ text)
    | append => simp only [startSection, hstored, hmode]; exact moves_reopen c name default hmode

/-- Every orderly operation is a sequence of moves. -/
theorem moves_perform (c : Canvas) {operation : CanvasOperation} (ho : operation.isOrderly) :
    Moves c (operation.perform c).2 := by
  cases operation with
  | write text => exact Moves.write c text
  | start name => exact moves_start c name
  | push name => exact moves_startIn c name .append
  | unshift name => exact moves_startIn c name .prepend
  | stop => exact moves_stop c
  | stopSection => exact moves_stopSection c
  | startSection name default => exact moves_startSection c name default
  | «section» _ _ | hasSection _ | modeOf _ | modeNumber _ | isOpen => exact .refl
  | openRegion | closeRegion | discard | unwind _ | peek | depth => cases ho
  | setContent _ | adopt _ _ => cases ho

/-! ### Operations on an open section -/

theorem write_write (c : Canvas) (s t : String) : (c.write s).write t = c.write (s ++ t) := by
  simp [write, Capture.write_write]

@[simp] theorem write_empty (c : Canvas) : c.write "" = c := by simp [write]

/-- Showing a section while one is open at most writes. -/
theorem startSection_of_open (c : Canvas) {openName : String}
    (hopen : c.store.openName = some openName) (name : String) (default : Option String) :
    ∃ text, (c.startSection name default).2 = c.write text := by
  cases hstored : c.store.sections.value? name with
  | none => exact ⟨"", by simp [startSection, hstored]⟩
  | some stored =>
    cases hmode : c.store.modeOf name with
    | once => exact ⟨stored, by simp [startSection, hstored, hmode]⟩
    | prepend =>
      cases default with
      | none => exact ⟨stored, by simp [startSection, hstored, hmode]⟩
      | some text => exact ⟨stored ++ text, by simp [startSection, hstored, hmode, write_write]⟩
    | append =>
      have hreopen := reopen_of_open c name openName default hopen
      exact ⟨"", by simp [startSection, hstored, hmode, hreopen]⟩

/-- While a section is open, an operation that is not there to stop it leaves the store as it is and
at most writes. -/
theorem perform_of_inner (c : Canvas) {operation : CanvasOperation} (ho : operation.isInner)
    (hopen : c.store.isOpen) : ∃ text, (operation.perform c).2 = c.write text := by
  obtain ⟨openName, hname⟩ := Option.isSome_iff_exists.1 hopen
  have hobstacle (other : String) : ∃ fault, c.store.obstacle? other = some fault := by
    simp only [SectionStore.obstacle?, hname]
    split <;> exact ⟨_, rfl⟩
  have hstay : ∃ text, c = c.write text := ⟨"", c.write_empty.symm⟩
  cases operation with
  | write text => exact ⟨text, rfl⟩
  | start other =>
    obtain ⟨fault, h⟩ := hobstacle other
    change ∃ text, (c.start other).2 = _
    rwa [start_of_obstacle c other fault h]
  | push other =>
    obtain ⟨fault, h⟩ := hobstacle other
    change ∃ text, (c.startIn other .append).2 = _
    rwa [startIn_of_obstacle c other _ fault h]
  | unshift other =>
    obtain ⟨fault, h⟩ := hobstacle other
    change ∃ text, (c.startIn other .prepend).2 = _
    rwa [startIn_of_obstacle c other _ fault h]
  | startSection other default => exact startSection_of_open c hname other default
  | «section» _ _ | hasSection _ | modeOf _ | modeNumber _ | isOpen => exact hstay
  | stop | stopSection => cases ho
  | openRegion | closeRegion | discard | unwind _ | peek | depth => cases ho
  | setContent _ | adopt _ _ => cases ho

/-- While a section is open, an orderly operation that does not stop it leaves the store as it is
and at most writes. -/
theorem perform_of_open (c : Canvas) {operation : CanvasOperation} (ho : operation.isOrderly)
    (hopen : c.store.isOpen) (hopen' : (operation.perform c).2.store.isOpen) :
    ∃ text, (operation.perform c).2 = c.write text := by
  obtain ⟨openName, hname⟩ := Option.isSome_iff_exists.1 hopen
  have hstay : ∃ text, c = c.write text := ⟨"", c.write_empty.symm⟩
  cases operation with
  | stop =>
    change c.stop.2.store.isOpen at hopen'
    change ∃ text, c.stop.2 = _
    rcases stop_cases c with ⟨fault, h⟩ | ⟨c', h, hclosed⟩
    · rwa [h]
    · rw [h, hclosed] at hopen'
      cases hopen'
  | stopSection =>
    change c.stopSection.2.store.isOpen at hopen'
    change ∃ text, c.stopSection.2 = _
    rcases stopSection_of_open c hname with ⟨fault, -, h⟩ | ⟨c', -, hclosed, h⟩
    · rwa [h]
    · rw [h, store_write, hclosed] at hopen'
      cases hopen'
  | _ => exact perform_of_inner c ho hopen

/-! ### Operations that open a section -/

/-- A start that leaves a section open has opened it. -/
theorem opened_of_start (c : Canvas) (hclosed : c.store.openName = none) (name : String)
    (hopen' : (c.start name).2.store.isOpen) :
    ∃ mode modes, (c.start name).2 = c.opened name mode modes := by
  cases h : c.store.obstacle? name with
  | some fault =>
    rw [start_of_obstacle c name fault h, SectionStore.isOpen, hclosed] at hopen'
    cases hopen'
  | none => exact ⟨_, _, by rw [start_of_free c name h]⟩

/-- A start in a mode that leaves a section open has opened it. -/
theorem opened_of_startIn (c : Canvas) (hclosed : c.store.openName = none) (name : String)
    (mode : SectionMode) (hopen' : (c.startIn name mode).2.store.isOpen) :
    ∃ modes, (c.startIn name mode).2 = c.opened name mode modes := by
  cases h : c.store.obstacle? name with
  | some fault =>
    rw [startIn_of_obstacle c name mode fault h, SectionStore.isOpen, hclosed] at hopen'
    cases hopen'
  | none => exact ⟨_, by rw [startIn_of_free c name mode h]⟩

/-- Showing a section that leaves one open has reopened it. -/
theorem opened_of_startSection (c : Canvas) (hclosed : c.store.openName = none) (name : String)
    (default : Option String) (hopen' : (c.startSection name default).2.store.isOpen) :
    (c.startSection name default).2 = c.opened name .prepend c.store.modes := by
  have hisOpen : c.store.isOpen = false := by simp [SectionStore.isOpen, hclosed]
  cases hstored : c.store.sections.value? name with
  | none => simp [startSection, hstored, hisOpen] at hopen'
  | some stored =>
    cases hmode : c.store.modeOf name with
    | once => simp [startSection, hstored, hmode, hisOpen] at hopen'
    | prepend => cases default <;> simp [startSection, hstored, hmode, hisOpen] at hopen'
    | append =>
      simp only [startSection, hstored, hmode] at hopen' ⊢
      by_cases hname : name = contentSection
      · subst hname
        rw [reopen_content c default hclosed] at hopen'
        simp [SectionStore.isOpen, hclosed] at hopen'
      · cases default with
        | none => rw [reopen_of_closed c name hclosed hname]
        | some text =>
          rw [reopen_text c name text hclosed hname] at hopen'
          simp at hopen'

/-- An orderly operation that leaves a section open where there was none has opened it. -/
theorem perform_of_closed (c : Canvas) {operation : CanvasOperation} (ho : operation.isOrderly)
    (hclosed : c.store.openName = none) (hopen' : (operation.perform c).2.store.isOpen) :
    ∃ name mode modes, (operation.perform c).2 = c.opened name mode modes := by
  have hisOpen : c.store.isOpen = false := by simp [SectionStore.isOpen, hclosed]
  cases operation with
  | start name => exact ⟨name, c.opened_of_start hclosed name hopen'⟩
  | push name => exact ⟨name, .append, c.opened_of_startIn hclosed name .append hopen'⟩
  | unshift name => exact ⟨name, .prepend, c.opened_of_startIn hclosed name .prepend hopen'⟩
  | startSection name default =>
    exact ⟨name, .prepend, _, c.opened_of_startSection hclosed name default hopen'⟩
  | stop =>
    change c.stop.2.store.isOpen at hopen'
    rw [stop_of_closed c hclosed, hisOpen] at hopen'
    cases hopen'
  | stopSection =>
    change c.stopSection.2.store.isOpen at hopen'
    rw [stopSection_of_closed c hclosed, hisOpen] at hopen'
    cases hopen'
  | write _ | «section» _ _ | hasSection _ | modeOf _ | modeNumber _ | isOpen =>
    change c.store.isOpen = true at hopen'
    rw [hisOpen] at hopen'
    cases hopen'
  | openRegion | closeRegion | discard | unwind _ | peek | depth => cases ho
  | setContent _ | adopt _ _ => cases ho

end Canvas

end TemplateEngine
