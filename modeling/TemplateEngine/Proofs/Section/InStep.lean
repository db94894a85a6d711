import TemplateEngine.Proofs.Section.Move

/-!
# The store and the capture stay in step

Text goes to a region of its own exactly while a section is open that was not skipped. Two
invariants say so. A canvas is *in step* with the capture at its creation if the regions above
that capture are none, or the one region of the open section. A store is *regular* if the working
mode is the plain one while no section is open, and the content section is neither open nor
pushed nor unshifted. Every move keeps the first invariant and the second one.

## Main definitions

* `SectionStore.isCaptured`: whether text goes to the region of the open section.
* `Canvas.InStep`: the capture holds the region of the open section and no other one.
* `SectionStore.Regular`: what holds of the modes and of the content section.

## Main results

* `Canvas.InStep.perform`, `SectionStore.Regular.perform`: orderly operations keep the invariants.
* `Canvas.InStep.unwind`: unwinding discards the region of the open section and what is in it.
-/

namespace TemplateEngine

namespace SectionStore

/-- Whether text goes to a region of the open section: one is open, and it was not skipped. -/
def isCaptured (s : SectionStore) : Bool := s.isOpen && !s.isSkipped

theorem isCaptured_of_closed {s : SectionStore} (h : s.openName = none) : s.isCaptured = false := by
  simp [isCaptured, isOpen, h]

theorem isCaptured_of_skipped {s : SectionStore} (h : s.isSkipped = true) :
    s.isCaptured = false := by
  simp [isCaptured, h]

@[simp] theorem isCaptured_close (s : SectionStore) : s.close.isCaptured = false := rfl

end SectionStore

namespace Canvas

/-! ### The capture holds the region of the open section and no other one -/

/-- Above the capture `base` there is the region of the open section, if it has one, and nothing
else; `base` itself was only written to. -/
inductive InStep (base : Capture) (c : Canvas) : Prop
  | beside (h : c.store.isCaptured = false) (shown : String)
      (hcapture : c.capture = base.write shown)
  | inside (h : c.store.isCaptured = true) (shown held : String)
      (hcapture : c.capture = (base.write shown).openRegion.write held)

variable {base : Capture} {c c' : Canvas}

/-- A canvas on which nothing was done yet is in step. -/
theorem InStep.initial {store : SectionStore} (h : store.isCaptured = false) (base : Capture) :
    InStep base ⟨store, base⟩ :=
  .beside h "" base.write_empty.symm

/-- While no section has a region, text was only written to the capture at creation. -/
theorem InStep.capture_eq (h : InStep base c) (hc : c.store.isCaptured = false) :
    ∃ shown, c.capture = base.write shown := by
  cases h with
  | beside _ shown hcapture => exact ⟨shown, hcapture⟩
  | inside hin => simp [hc] at hin

/-- While no section has a region, the store may be exchanged. -/
theorem InStep.withStore (h : InStep base c) (hc : c.store.isCaptured = false)
    {store : SectionStore} (hs : store.isCaptured = false) : InStep base ⟨store, c.capture⟩ := by
  obtain ⟨shown, hcapture⟩ := h.capture_eq hc
  exact .beside hs shown hcapture

theorem InStep.write (h : InStep base c) (text : String) : InStep base (c.write text) := by
  cases h with
  | beside hc shown hcapture =>
    exact .beside hc (shown ++ text) (by simp [Canvas.write, hcapture, Capture.write_write])
  | inside hc shown held hcapture =>
    refine .inside hc shown (held ++ text) ?_
    rw [← Capture.write_write, ← hcapture]
    rfl

theorem InStep.opened (h : InStep base c) (hclosed : c.store.openName = none) (name : String)
    (mode : SectionMode) (modes : Dictionary SectionMode) :
    InStep base (c.opened name mode modes) := by
  obtain ⟨shown, hcapture⟩ := h.capture_eq (SectionStore.isCaptured_of_closed hclosed)
  cases hskip : (c.opened name mode modes).store.isSkipped with
  | true =>
    refine .beside (SectionStore.isCaptured_of_skipped hskip) shown ?_
    rw [capture_opened, if_pos hskip, hcapture]
  | false =>
    refine .inside (by simp [SectionStore.isCaptured, hskip]) shown "" ?_
    rw [capture_opened, hskip, hcapture, Capture.write_empty]
    rfl

theorem InStep.stop (h : InStep base c) (hstop : c.stop = (.ok (), c')) : InStep base c' := by
  obtain ⟨name, hopen, ⟨hskip, rfl⟩ | ⟨hskip, captured, capture, hregion, rfl⟩⟩ := stop_inv hstop
  · exact h.withStore (SectionStore.isCaptured_of_skipped hskip) (SectionStore.isCaptured_close _)
  · have hcaptured : c.store.isCaptured = true := by
      simp [SectionStore.isCaptured, SectionStore.isOpen, hopen, hskip]
    cases h with
    | beside hc => simp [hcaptured] at hc
    | inside _ shown held hcapture =>
      rw [hcapture, Capture.closeRegion?_write_openRegion] at hregion
      cases hregion
      exact .beside (SectionStore.isCaptured_close _) shown rfl

/-- Every move keeps the canvas in step. -/
theorem InStep.move (h : InStep base c) (hmove : Move c c') : InStep base c' := by
  cases hmove with
  | write text => exact h.write text
  | start name mode modes hclosed => exact h.opened hclosed name mode modes
  | stop hstop => exact h.stop hstop
  | refused hclosed =>
    exact h.withStore (SectionStore.isCaptured_of_closed hclosed)
      (SectionStore.isCaptured_of_closed hclosed)

theorem InStep.moves (h : InStep base c) (hmoves : Moves c c') : InStep base c' := by
  induction hmoves with
  | refl => exact h
  | tail _ hmove ih => exact ih.move hmove

/-- Every orderly operation keeps the canvas in step, also one that fails. -/
theorem InStep.perform (h : InStep base c) {operation : CanvasOperation}
    (ho : operation.isOrderly) : InStep base (operation.perform c).2 :=
  h.moves (moves_perform c ho)

/-- The depth is that at creation, and one more while a section has a region. -/
theorem InStep.depth (h : InStep base c) :
    c.capture.depth = base.depth + if c.store.isCaptured then 1 else 0 := by
  cases h with
  | beside hc shown hcapture =>
    rw [hcapture, hc, Capture.depth_write]
    rfl
  | inside hc shown held hcapture =>
    rw [hcapture, hc, Capture.depth_write, Capture.depth_openRegion, Capture.depth_write]
    rfl

/-- A region that was opened before, and what is above it, is discarded by unwinding. -/
theorem InStep.unwind {entry : Capture} (h : InStep entry.openRegion c) :
    c.capture.unwind entry.depth = entry := by
  cases h with
  | beside hc shown hcapture =>
    rw [hcapture, Capture.write_openRegion]
    exact Capture.unwind_regions [shown] entry.regions entry.outside
  | inside hc shown held hcapture =>
    rw [hcapture, Capture.write_openRegion, Capture.write_openRegion]
    exact Capture.unwind_regions [held, shown] entry.regions entry.outside

end Canvas

/-! ### The working mode and the content section -/

/-- While no section is open the working mode is the plain one, and the content section is neither
open nor pushed nor unshifted. -/
structure SectionStore.Regular (s : SectionStore) : Prop where
  mode_of_closed : s.openName = none → s.workingMode = .once
  openName_ne : s.openName ≠ some contentSection
  content_mode : s.modes.value? contentSection = none

namespace SectionStore.Regular

variable {s : SectionStore} {c c' : Canvas}

/-- A store with nothing open in the plain mode is regular if its content section has no mode. -/
theorem of_closed (sections : Dictionary String) {modes : Dictionary SectionMode}
    (h : modes.value? contentSection = none) : SectionStore.Regular { sections, modes } :=
  ⟨fun _ => rfl, by simp, h⟩

theorem initial : SectionStore.Regular {} := of_closed [] rfl

theorem setContent (h : s.Regular) (text : String) : (s.setContent text).Regular :=
  ⟨h.mode_of_closed, h.openName_ne, h.content_mode⟩

/-- A successful stop keeps the modes and goes back to the plain working mode. -/
theorem stop (h : c.store.Regular) (hstop : c.stop = (.ok (), c')) : c'.store.Regular := by
  obtain ⟨name, -, ⟨-, rfl⟩ | ⟨-, captured, capture, -, rfl⟩⟩ := Canvas.stop_inv hstop
  · exact of_closed _ h.content_mode
  · exact of_closed _ h.content_mode

/-- Every move keeps a store regular. -/
theorem move (h : c.store.Regular) (hmove : Canvas.Move c c') : c'.store.Regular := by
  cases hmove with
  | write text => exact h
  | start name mode modes hclosed hname hmodes =>
    have hcontent : modes.value? contentSection = none := by
      rcases hmodes with rfl | rfl
      · exact h.content_mode
      · rw [Dictionary.value?_put, if_neg hname, h.content_mode]
    exact ⟨fun hnone => by simp [Canvas.opened] at hnone, by simpa [Canvas.opened] using hname,
      hcontent⟩
  | stop hstop => exact h.stop hstop
  | refused hclosed hmode => simp [SectionStore.modeOf, h.content_mode] at hmode

theorem moves (h : c.store.Regular) (hmoves : Canvas.Moves c c') : c'.store.Regular := by
  induction hmoves with
  | refl => exact h
  | tail _ hmove ih => exact ih.move hmove

/-- No move changes the content section. -/
theorem content_of_move (h : c.store.Regular) (hmove : Canvas.Move c c') :
    c'.store.sections.value? contentSection = c.store.sections.value? contentSection := by
  cases hmove with
  | write | start | refused => rfl
  | stop hstop =>
    obtain ⟨name, hopen, ⟨-, rfl⟩ | ⟨-, captured, capture, -, rfl⟩⟩ := Canvas.stop_inv hstop
    · rfl
    · have hname : name ≠ contentSection := fun hname => h.openName_ne (hname ▸ hopen)
      exact (c.store.value?_merge name captured contentSection).trans (if_neg hname)

/-- Every orderly operation keeps a store regular, also one that fails. -/
theorem perform (h : c.store.Regular) {operation : CanvasOperation} (ho : operation.isOrderly) :
    (operation.perform c).2.store.Regular :=
  h.moves (Canvas.moves_perform c ho)

end SectionStore.Regular

end TemplateEngine
