import TemplateEngine.Capture

/-!
# Sections of one template

A section store keeps the text of each named section, the mode in which a section was last
pushed or unshifted, and the section that is open. At most one section is open at a time.
A canvas is a store together with the capture that its sections are written to: opening a
section opens a capture region, and stopping it merges the captured text into the store.

## Main definitions

* `SectionStore`: sections, modes, the open section and the working mode.
* `SectionStore.isSkipped`: the open section holds text already and is not to be written again.
* `Canvas`: a store with a capture.
* `Canvas.start`, `Canvas.push`, `Canvas.unshift`, `Canvas.stop`: sections as blocks.
* `Canvas.startSection`, `Canvas.stopSection`: a section shown in place, with a default.
-/

namespace TemplateEngine

/-- The section that holds the body of the template that a layout surrounds. -/
def contentSection : String := "content"

/-- Named sections of one template, and the section that is open. -/
structure SectionStore where
  sections : Dictionary String := []
  modes : Dictionary SectionMode := []
  openName : Option String := none
  workingMode : SectionMode := .once
  deriving DecidableEq, Repr, Inhabited

namespace SectionStore

/-- The mode of a section; one that was neither pushed nor unshifted is written once. -/
def modeOf (s : SectionStore) (name : String) : SectionMode := (s.modes.value? name).getD .once

/-- Whether the text of a section is there. -/
def hasSection (s : SectionStore) (name : String) : Bool := s.sections.holds name

/-- Whether a section is open. -/
def isOpen (s : SectionStore) : Bool := s.openName.isSome

/-- Whether a section of this name is skipped when it is opened in the working mode. -/
def skips (s : SectionStore) (name : String) : Bool :=
  s.sections.holds name && s.workingMode = .once

/-- Whether the open section was skipped: it holds text already and is not written again. -/
def isSkipped (s : SectionStore) : Bool :=
  match s.openName with
  | none => false
  | some name => s.skips name

/-- Takes over the sections and modes of another store. -/
def adopt (s : SectionStore) (sections : Dictionary String) (modes : Dictionary SectionMode) :
    SectionStore :=
  { s with sections := sections, modes := modes }

/-- Stores the body of a template as the content section. -/
def setContent (s : SectionStore) (content : String) : SectionStore :=
  { s with sections := s.sections.put contentSection content }

/-- How a captured text joins the text that a section holds. -/
def joinText (mode : SectionMode) (existing captured : String) : String :=
  match mode with
  | .append => existing ++ captured
  | .prepend => captured ++ existing
  | .once => captured

/-- Merges a captured text into a section in the working mode. -/
def merge (s : SectionStore) (name captured : String) : SectionStore :=
  { s with
    sections := s.sections.put name
      (joinText s.workingMode ((s.sections.value? name).getD "") captured) }

/-- No section is open, and the working mode is the plain one again. -/
def close (s : SectionStore) : SectionStore := { s with openName := none, workingMode := .once }

/-- What stands against opening a section: the reserved name, or a section that is open. -/
def obstacle? (s : SectionStore) (name : String) : Option Fault :=
  if name = contentSection then some (.reservedName name)
  else s.openName.map (.nestedSection name)

@[simp] theorem isOpen_close (s : SectionStore) : s.close.isOpen = false := rfl

/-- Only the merged section changes. -/
theorem value?_merge (s : SectionStore) (name captured key : String) :
    (s.merge name captured).sections.value? key =
      if name = key then
        some (joinText s.workingMode ((s.sections.value? name).getD "") captured)
      else s.sections.value? key :=
  Dictionary.value?_put _ _ _ _

/-- Nothing stands against opening a section exactly if its name is free and none is open. -/
theorem obstacle?_eq_none_iff (s : SectionStore) (name : String) :
    s.obstacle? name = none ↔ name ≠ contentSection ∧ s.openName = none := by
  unfold obstacle?
  split <;> simp_all

end SectionStore

/-- A section store together with the capture that its sections are written to. -/
structure Canvas where
  store : SectionStore
  capture : Capture
  deriving DecidableEq, Repr, Inhabited

namespace Canvas

/-- Opens a section in the working mode. The answer is whether its body is to be written; a
section that holds text already is skipped in the plain mode, and then no region is opened. -/
def start (c : Canvas) (name : String) : Except Fault Bool × Canvas :=
  match c.store.obstacle? name with
  | some fault => (.error fault, c)
  | none =>
    let store := { c.store with openName := some name }
    if store.isSkipped then (.ok false, { c with store := store })
    else (.ok true, ⟨store, c.capture.openRegion⟩)

/-- Opens a section in a given mode and records the mode. -/
def startIn (c : Canvas) (name : String) (mode : SectionMode) : Except Fault Bool × Canvas :=
  match c.store.obstacle? name with
  | some fault => (.error fault, c)
  | none =>
    let store := { c.store with workingMode := mode, modes := c.store.modes.put name mode }
    match start { c with store := store } name with
    | (.ok _, canvas) => (.ok true, canvas)
    | (.error fault, canvas) => (.error fault, canvas)

/-- Opens a section whose text goes behind the text that is there. -/
def push (c : Canvas) (name : String) : Except Fault Bool × Canvas := c.startIn name .append

/-- Opens a section whose text goes before the text that is there. -/
def unshift (c : Canvas) (name : String) : Except Fault Bool × Canvas := c.startIn name .prepend

/-- Closes the open section and merges the captured text, unless the section was skipped. -/
def stop (c : Canvas) : Except Fault Unit × Canvas :=
  match c.store.openName with
  | none => (.error .notOpen, c)
  | some name =>
    if c.store.isSkipped then (.ok (), { c with store := c.store.close })
    else match c.capture.closeRegion? with
      | none => (.error .noRegionToEnd, c)
      | some (captured, capture) => (.ok (), ⟨(c.store.merge name captured).close, capture⟩)

/-- Writes a text where the canvas stands. -/
def write (c : Canvas) (text : String) : Canvas := { c with capture := c.capture.write text }

/-- The text of a section, empty if it is not there. -/
def sectionText (c : Canvas) (name : String) : String := (c.store.sections.value? name).getD ""

/-- Closes the open section, if there is one, and shows its merged text. -/
def stopSection (c : Canvas) : Except Fault Unit × Canvas :=
  match c.store.openName with
  | none => (.ok (), c)
  | some name =>
    match c.stop with
    | (.error fault, canvas) => (.error fault, canvas)
    | (.ok (), canvas) => (.ok (), canvas.write (canvas.sectionText name))

/-- Reopens a section that was pushed, so that what comes next goes ahead of its text. A default
given as a text is that, and the section is shown at once. -/
def reopen (c : Canvas) (name : String) (default : Option String) :
    Except Fault (Option Bool) × Canvas :=
  match c.store.openName with
  | some openName => (.error (.nestedSection name openName), c)
  | none =>
    match start { c with store := { c.store with workingMode := .prepend } } name with
    | (.error fault, canvas) => (.error fault, canvas)
    | (.ok _, canvas) =>
      match default with
      | none => (.ok (some true), canvas)
      | some text =>
        match (canvas.write text).stopSection with
        | (.error fault, canvas) => (.error fault, canvas)
        | (.ok (), canvas) => (.ok none, canvas)

/-- Shows a section in place, with a default. If the default is given as a text there is no
further answer; otherwise the answer is whether the default is to be written now, up to
`stopSection`.

A section that is not there shows nothing. One in the plain mode shows its text and no default.
One that was unshifted shows its text and then the default. One that was pushed takes the
default in front of its text and shows both. -/
def startSection (c : Canvas) (name : String) (default : Option String) :
    Except Fault (Option Bool) × Canvas :=
  match c.store.sections.value? name with
  | none => (.ok (if default.isSome then none else some true), c)
  | some stored =>
    match c.store.modeOf name with
    | .once => (.ok (if default.isSome then none else some false), c.write stored)
    | .prepend =>
      match default with
      | none => (.ok (some true), c.write stored)
      | some text => (.ok none, (c.write stored).write text)
    | .append => c.reopen name default

@[simp] theorem store_write (c : Canvas) (text : String) : (c.write text).store = c.store := rfl

/-- Something stands against opening a section: nothing changes. -/
theorem start_of_obstacle (c : Canvas) (name : String) (fault : Fault)
    (h : c.store.obstacle? name = some fault) : c.start name = (.error fault, c) := by
  simp [start, h]

/-- With no section open there is nothing to stop. -/
theorem stop_of_closed (c : Canvas) (h : c.store.openName = none) :
    c.stop = (.error .notOpen, c) := by
  simp [stop, h]

/-- With no section open `stopSection` does nothing. -/
theorem stopSection_of_closed (c : Canvas) (h : c.store.openName = none) :
    c.stopSection = (.ok (), c) := by
  simp [stopSection, h]

end Canvas

end TemplateEngine
