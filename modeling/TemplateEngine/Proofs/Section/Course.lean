import TemplateEngine.Proofs.Section.InStep

/-!
# Courses of calls on a section store

A course is what is left of a sequence of calls: the canvas now and, while a section is open, the
canvas before and behind the call that opened it. A store may take over the sections and modes of
another one, as layouts do. Whatever the calls were, and whether or not they failed, the capture
has the depth at creation, and one more while a section is open that was not skipped when it was
opened; and stopping ends exactly the region that was opened.

## Main definitions

* `Opening`: how a section was opened.
* `Course`, `Course.call`: a canvas with the opening of its open section, and a call on it.
* `Course.Reached`: the courses that are reached from fresh stores by calls and by taking over.

## Main results

* `Course.Sound.call`: a call keeps the invariant of courses.
* `Course.sound_of_reached`: every course that is reached has the invariant.
* `Course.store_capture_agree`: what the invariant says about the store and the capture.
-/

namespace TemplateEngine

/-- How a section was opened: the canvas before the call that opened it, and the one behind it. -/
structure Opening where
  before : Canvas
  after : Canvas

/-- A canvas in the course of calls, with the opening of its open section. -/
structure Course where
  canvas : Canvas
  opening : Option Opening := none

namespace Course

/-- A call of an operation. A call that leaves a section open where there was none opened it. -/
def call (course : Course) (operation : CanvasOperation) : Course :=
  let canvas := (operation.perform course.canvas).2
  { canvas := canvas
    opening :=
      if canvas.store.isOpen then
        if course.canvas.store.isOpen then course.opening else some ⟨course.canvas, canvas⟩
      else none }

/-- A course with another store on the same capture. -/
def withStore (course : Course) (store : SectionStore) : Course :=
  { course with canvas := ⟨store, course.canvas.capture⟩ }

/-- The courses that are reached on a store that was created at a capture. While no section is
open, the content section may be stored and the sections and modes of another store that was
reached may be taken over. -/
inductive Reached : Capture → Course → Prop
  | fresh (entry : Capture) : Reached entry ⟨⟨{}, entry⟩, none⟩
  | call {entry : Capture} {course : Course} (h : Reached entry course)
      {operation : CanvasOperation} (ho : operation.isOrderly) :
      Reached entry (course.call operation)
  | content {entry : Capture} {course : Course} (h : Reached entry course)
      (hclosed : course.canvas.store.openName = none) (text : String) :
      Reached entry (course.withStore (course.canvas.store.setContent text))
  | adopted {entry entry' : Capture} {course other : Course} (h : Reached entry course)
      (hclosed : course.canvas.store.openName = none) (hother : Reached entry' other) :
      Reached entry (course.withStore (course.canvas.store.adopt other.canvas.store.sections
        other.canvas.store.modes))

/-! ### The invariant -/

/-- What holds after every call. The recorded opening is that of the open section; nothing but
text came to the canvas since, and what was opened is a region, unless the section was skipped. -/
structure Sound (entry : Capture) (course : Course) : Prop where
  inStep : course.canvas.InStep entry
  regular : course.canvas.store.Regular
  opening_isSome : course.opening.isSome = course.canvas.store.isOpen
  written : ∀ o, course.opening = some o → ∃ text, course.canvas = o.after.write text
  region : ∀ o, course.opening = some o → o.after.capture =
    if o.after.store.isSkipped then o.before.capture else o.before.capture.openRegion

variable {entry : Capture} {course : Course}

/-- With no section open there is no opening. -/
theorem opening_of_closed (h : course.opening.isSome = course.canvas.store.isOpen)
    (hclosed : course.canvas.store.openName = none) : course.opening = none := by
  simpa [SectionStore.isOpen, hclosed] using h

theorem Sound.fresh (entry : Capture) : Sound entry ⟨⟨{}, entry⟩, none⟩ where
  inStep := .initial rfl entry
  regular := .initial
  opening_isSome := rfl
  written _ h := by cases h
  region _ h := by cases h

/-- While no section is open, the store may be exchanged for a regular one. -/
theorem Sound.withStore (h : Sound entry course) (hclosed : course.canvas.store.openName = none)
    {store : SectionStore} (hs : store.Regular) (hstore : store.openName = none) :
    Sound entry (course.withStore store) := by
  have hopening : course.opening = none := opening_of_closed h.opening_isSome hclosed
  refine ⟨?_, hs, ?_, ?_, ?_⟩
  · exact h.inStep.withStore (SectionStore.isCaptured_of_closed hclosed)
      (SectionStore.isCaptured_of_closed hstore)
  · simp [Course.withStore, SectionStore.isOpen, hopening, hstore]
  · intro o ho
    simp [Course.withStore, hopening] at ho
  · intro o ho
    simp [Course.withStore, hopening] at ho

/-- A call keeps the invariant, also one that fails. -/
theorem Sound.call (h : Sound entry course) {operation : CanvasOperation}
    (ho : operation.isOrderly) : Sound entry (course.call operation) := by
  have hinStep := h.inStep.perform ho
  have hregular := h.regular.perform ho
  -- Whether a section is open after the call, and before it, tells what became of the opening: it
  -- is gone, it is still the one from before, or it was made by this call.
  cases hopen' : (operation.perform course.canvas).2.store.isOpen with
  | false =>
    have hcall : course.call operation = ⟨(operation.perform course.canvas).2, none⟩ := by
      simp [Course.call, hopen']
    rw [hcall]
    exact ⟨hinStep, hregular, hopen'.symm, by rintro o ⟨⟩, by rintro o ⟨⟩⟩
  | true =>
    cases hopen : course.canvas.store.isOpen with
    | true =>
      have hcall : course.call operation =
          ⟨(operation.perform course.canvas).2, course.opening⟩ := by
        simp [Course.call, hopen', hopen]
      obtain ⟨text, htext⟩ := course.canvas.perform_of_open ho hopen hopen'
      rw [hcall]
      refine ⟨hinStep, hregular, by rw [h.opening_isSome, hopen, hopen'], ?_, h.region⟩
      intro o ho
      obtain ⟨held, hheld⟩ := h.written o ho
      exact ⟨held ++ text, by rw [htext, hheld, Canvas.write_write]⟩
    | false =>
      have hclosed : course.canvas.store.openName = none := by
        simpa [SectionStore.isOpen] using hopen
      have hcall : course.call operation = ⟨(operation.perform course.canvas).2,
          some ⟨course.canvas, (operation.perform course.canvas).2⟩⟩ := by
        simp [Course.call, hopen', hopen]
      obtain ⟨name, mode, modes, hopened⟩ := course.canvas.perform_of_closed ho hclosed hopen'
      rw [hcall]
      refine ⟨hinStep, hregular, hopen'.symm, ?_, ?_⟩
      · rintro o ⟨rfl⟩
        exact ⟨"", (Canvas.write_empty _).symm⟩
      · rintro o ⟨rfl⟩
        simp only [hopened]
        exact Canvas.capture_opened _ _ _ _

/-- Every course that is reached has the invariant. -/
theorem sound_of_reached (h : Reached entry course) : Sound entry course := by
  induction h with
  | fresh entry => exact Sound.fresh entry
  | call _ ho ih => exact ih.call ho
  | content _ hclosed text ih =>
    exact ih.withStore hclosed (ih.regular.setContent text) hclosed
  | adopted _ hclosed _ ih ihother =>
    refine ih.withStore hclosed ?_ hclosed
    exact ⟨ih.regular.mode_of_closed, ih.regular.openName_ne, ihother.regular.content_mode⟩

/-- The stop of the open section leaves what was there before it was opened: of a skipped section
nothing is stored, and otherwise its own region is ended and the text that was written since it
was opened is merged. -/
theorem Sound.stop (h : Sound entry course) {o : Opening} (ho : course.opening = some o) :
    ∃ name text, course.canvas.store.openName = some name ∧
      course.canvas.capture = o.after.capture.write text ∧
      course.canvas.stop = (.ok (), if o.after.store.isSkipped
        then ⟨course.canvas.store.close, course.canvas.capture⟩
        else ⟨(course.canvas.store.merge name text).close, o.before.capture⟩) := by
  obtain ⟨text, hcanvas⟩ := h.written o ho
  have hopen : course.canvas.store.isOpen = true := by rw [← h.opening_isSome, ho]; rfl
  obtain ⟨name, hname⟩ := Option.isSome_iff_exists.1 hopen
  refine ⟨name, text, hname, by rw [hcanvas]; rfl, ?_⟩
  have hregion := h.region o ho
  rw [hcanvas] at hname ⊢
  cases hskip : o.after.store.isSkipped with
  | true => exact Canvas.stop_of_skipped _ hskip
  | false =>
    rw [hskip] at hregion
    exact Canvas.stop_write_of_region o.after hname hskip hregion text

/-- The store and the capture agree after every call. The depth is that at creation, and one more
while a section is open that was not skipped when it was opened. With no section open the working
mode is the plain one. The content section is never open and never has a mode. While a section is
open the store is as it was when the section was opened, so that stopping it decides as opening
it did and ends exactly the region that opening it began. -/
theorem store_capture_agree {entry : Capture} {course : Course} (h : Reached entry course) :
    course.canvas.capture.depth = entry.depth +
        (match course.opening with
          | some o => if o.after.store.isSkipped then 0 else 1
          | none => 0) ∧
      course.opening.isSome = course.canvas.store.isOpen ∧
      (course.canvas.store.openName = none → course.canvas.store.workingMode = .once) ∧
      course.canvas.store.openName ≠ some contentSection ∧
      course.canvas.store.modes.value? contentSection = none ∧
      ∀ o, course.opening = some o →
        course.canvas.store = o.after.store ∧
        o.after.capture =
          (if o.after.store.isSkipped then o.before.capture else o.before.capture.openRegion) ∧
        ∃ name text, course.canvas.store.openName = some name ∧
          course.canvas.capture = o.after.capture.write text ∧
          course.canvas.stop = (.ok (), if o.after.store.isSkipped
            then ⟨course.canvas.store.close, course.canvas.capture⟩
            else ⟨(course.canvas.store.merge name text).close, o.before.capture⟩) := by
  have hsound := sound_of_reached h
  have hstore (o : Opening) (ho : course.opening = some o) :
      course.canvas.store = o.after.store := by
    obtain ⟨text, hcanvas⟩ := hsound.written o ho
    rw [hcanvas, Canvas.store_write]
  refine ⟨?_, hsound.opening_isSome, hsound.regular.mode_of_closed, hsound.regular.openName_ne,
    hsound.regular.content_mode, fun o ho => ⟨hstore o ho, hsound.region o ho, hsound.stop ho⟩⟩
  rw [hsound.inStep.depth]
  have hisOpen := hsound.opening_isSome
  cases hopening : course.opening with
  | none =>
    rw [hopening] at hisOpen
    simp [SectionStore.isCaptured, ← hisOpen]
  | some o =>
    rw [hopening] at hisOpen
    rw [SectionStore.isCaptured, ← hisOpen, hstore o hopening]
    cases hskip : o.after.store.isSkipped <;> simp [hskip]

/-- A section that was pushed, taken over by another store, and reopened there to be written to. -/
def reopened : Course :=
  let fresh : Course := ⟨⟨{}, ⟨["body"], ""⟩⟩, none⟩
  let pushed := ((fresh.call (.push "a")).call (.write "x")).call .stop
  let taken := Course.withStore ⟨⟨{}, {}⟩, none⟩
    (({} : SectionStore).adopt pushed.canvas.store.sections pushed.canvas.store.modes)
  (taken.call (.startSection "a" none)).call (.write "d")

/-- The reopened section holds one region above the capture at creation, and stopping it leaves
the capture that there was before. -/
theorem store_capture_agree_reopened :
    Reached {} reopened ∧ reopened.canvas.capture.depth = ({} : Capture).depth + 1 ∧
      ∃ o, reopened.opening = some o ∧ reopened.canvas.store = o.after.store ∧
        reopened.canvas.stop.2.capture = o.before.capture := by
  have h : Reached {} reopened :=
    .call (.call (.adopted (.fresh {}) rfl
      (.call (.call (.call (.fresh ⟨["body"], ""⟩) rfl) rfl) rfl)) rfl) rfl
  obtain ⟨hdepth, -, -, -, -, hopening⟩ := store_capture_agree h
  obtain ⟨hstore, -, name, text, -, -, hstop⟩ := hopening _ rfl
  exact ⟨h, hdepth, _, rfl, hstore, by rw [hstop]; rfl⟩

end Course

end TemplateEngine
