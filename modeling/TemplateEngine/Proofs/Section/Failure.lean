import TemplateEngine.Method
import TemplateEngine.Proofs.Section.InStep

/-!
# Calls on a section store that fail

A call on a section store fails for one of four reasons: the name is reserved, a section is open
already, no section is open, or the region of the open section was closed behind the back of the
store. Each call has its own reasons, and whichever call fails, it fails before it changes
anything. This holds in every state that can be reached, also by calls on the capture that the
store does not know of.

## Main definitions

* `Canvas.Reachable`: the canvases that are reached by calls on the store and on its capture.

## Main results

* `Canvas.start_error_iff`, `Canvas.stop_error_iff`, `Canvas.startSection_error_iff`: the faults
  of each call.
* `Canvas.Reachable.unchanged_of_error`: a call that fails leaves the canvas as it is.
-/

namespace TemplateEngine

namespace Canvas

/-! ### Reachable canvases -/

/-- The canvases that are reached from fresh stores by any interleaving of calls on the store and
calls on its capture. At any time the content section may be stored, and the sections and modes of
another store that was reached may be taken over. -/
inductive Reachable : Canvas → Prop
  | fresh (capture : Capture) : Reachable ⟨{}, capture⟩
  | call {c : Canvas} (h : Reachable c) {operation : CanvasOperation}
    (ho : operation.isOrderly ∨ operation.isRaw) : Reachable (operation.perform c).2
  | content {c : Canvas} (h : Reachable c) (text : String) :
    Reachable ⟨c.store.setContent text, c.capture⟩
  | adopted {c other : Canvas} (h : Reachable c) (hother : Reachable other) :
    Reachable ⟨c.store.adopt other.store.sections other.store.modes, c.capture⟩

variable {c : Canvas} {operation : CanvasOperation} {name : String} {fault : Fault}

/-- A call on the capture leaves the store as it is. -/
theorem store_perform_of_raw (c : Canvas) (ho : operation.isRaw) :
    (operation.perform c).2.store = c.store := by
  cases operation with
  | openRegion | closeRegion | discard | unwind _ => rfl
  | _ => cases ho

/-- In every store that is reached the content section is neither open nor has a mode. -/
theorem Reachable.regular (h : Reachable c) : c.store.Regular := by
  induction h with
  | fresh capture => exact .initial
  | call _ ho ih =>
    rcases ho with ho | ho
    · exact ih.perform ho
    · rw [store_perform_of_raw _ ho]
      exact ih
  | content _ text ih => exact ih.setContent text
  | adopted _ _ ih ihother => exact ⟨ih.mode_of_closed, ih.openName_ne, ihother.content_mode⟩

/-! ### The faults of each call -/

/-- An answer in another form fails as the outcome does. -/
theorem answer_error_iff {α β : Type} (f : α → Value) (outcome : Except Fault α × β)
    (fault : Fault) :
    (CanvasOperation.answer f outcome).1 = .error fault ↔ outcome.1 = .error fault := by
  obtain ⟨other | a, b⟩ := outcome <;> simp [CanvasOperation.answer, Except.map]

/-- Opening a section fails if the name is reserved, and otherwise if a section is open. -/
theorem obstacle?_eq_some_iff (s : SectionStore) (name : String) (fault : Fault) :
    s.obstacle? name = some fault ↔
      name = contentSection ∧ fault = .reservedName name ∨
        name ≠ contentSection ∧ ∃ openName, s.openName = some openName ∧
          fault = .nestedSection name openName := by
  unfold SectionStore.obstacle?
  by_cases hname : name = contentSection
  · simp [hname, eq_comm]
  · cases s.openName <;> simp [hname, eq_comm]

theorem start_error_iff (c : Canvas) (name : String) (fault : Fault) :
    (c.start name).1 = .error fault ↔ c.store.obstacle? name = some fault := by
  cases h : c.store.obstacle? name with
  | some other => simp [start_of_obstacle c name other h]
  | none => simp [start_of_free c name h]

theorem startIn_error_iff (c : Canvas) (name : String) (mode : SectionMode) (fault : Fault) :
    (c.startIn name mode).1 = .error fault ↔ c.store.obstacle? name = some fault := by
  cases h : c.store.obstacle? name with
  | some other => simp [startIn_of_obstacle c name mode other h]
  | none => simp [startIn_of_free c name mode h]

/-- A section that is open and was not skipped cannot be stopped if no region is left. -/
theorem stop_of_no_region (c : Canvas) (hcaptured : c.store.isCaptured = true)
    (hdepth : c.capture.depth = 0) : c.stop = (.error .noRegionToEnd, c) := by
  obtain ⟨hopen, hskip⟩ : c.store.isOpen = true ∧ c.store.isSkipped = false := by
    simpa [SectionStore.isCaptured] using hcaptured
  obtain ⟨name, hname⟩ := Option.isSome_iff_exists.1 hopen
  have hregion := (Capture.closeRegion?_isNone_iff c.capture).2 hdepth
  simp [stop, hname, hskip, hregion]

/-- A section that is open is stopped, unless it was not skipped and no region is left. -/
theorem stop_of_open (c : Canvas) (hopen : c.store.openName = some name)
    (h : c.store.isCaptured = true → c.capture.depth ≠ 0) : ∃ c', c.stop = (.ok (), c') := by
  cases hskip : c.store.isSkipped with
  | true => exact ⟨_, stop_of_skipped c hskip⟩
  | false =>
    have hcaptured : c.store.isCaptured = true := by
      simp [SectionStore.isCaptured, SectionStore.isOpen, hopen, hskip]
    cases hregion : c.capture.closeRegion? with
    | none => exact absurd ((Capture.closeRegion?_isNone_iff _).1 hregion) (h hcaptured)
    | some closed => exact ⟨_, stop_of_region c hopen hskip hregion⟩

/-- Stopping fails if no section is open, or if the region of the open section is gone. -/
theorem stop_error_iff (c : Canvas) (fault : Fault) :
    c.stop.1 = .error fault ↔
      c.store.openName = none ∧ fault = .notOpen ∨
        c.store.isCaptured = true ∧ c.capture.depth = 0 ∧ fault = .noRegionToEnd := by
  cases hopen : c.store.openName with
  | none =>
    simp [stop_of_closed c hopen, SectionStore.isCaptured_of_closed hopen, eq_comm]
  | some name =>
    by_cases hgone : c.store.isCaptured = true ∧ c.capture.depth = 0
    · simp [stop_of_no_region c hgone.1 hgone.2, hgone, eq_comm]
    · obtain ⟨c', hstop⟩ := stop_of_open c hopen fun hcaptured hdepth => hgone ⟨hcaptured, hdepth⟩
      rw [hstop]
      simpa using fun hcaptured hdepth => absurd ⟨hcaptured, hdepth⟩ hgone

/-- Stopping a section and showing it fails only if the region of the open section is gone. -/
theorem stopSection_error_iff (c : Canvas) (fault : Fault) :
    c.stopSection.1 = .error fault ↔
      c.store.isCaptured = true ∧ c.capture.depth = 0 ∧ fault = .noRegionToEnd := by
  cases hopen : c.store.openName with
  | none => simp [stopSection_of_closed c hopen, SectionStore.isCaptured_of_closed hopen]
  | some name =>
    have hiff := stop_error_iff c fault
    rcases stopSection_of_open c hopen with ⟨other, hstop, h⟩ | ⟨c', hstop, -, h⟩
    · rw [h]
      rw [hstop] at hiff
      simpa [hopen] using hiff
    · rw [h]
      rw [hstop] at hiff
      simpa [hopen] using hiff

/-- Showing a section fails only if it was pushed and a section is open. -/
theorem startSection_error_iff (c : Canvas) (hregular : c.store.Regular) (name : String)
    (default : Option String) (fault : Fault) :
    (c.startSection name default).1 = .error fault ↔
      c.store.hasSection name = true ∧ c.store.modeOf name = .append ∧
        ∃ openName, c.store.openName = some openName ∧ fault = .nestedSection name openName := by
  cases hstored : c.store.sections.value? name with
  | none => simp [startSection, hstored, SectionStore.hasSection, Dictionary.holds]
  | some stored =>
    have hhas : c.store.hasSection name = true := by
      simp [SectionStore.hasSection, Dictionary.holds, hstored]
    cases hmode : c.store.modeOf name with
    | once => simp [startSection, hstored, hmode]
    | prepend => cases default <;> simp [startSection, hstored, hmode]
    | append =>
      simp only [startSection, hstored, hmode]
      cases hopen : c.store.openName with
      | some openName => simp [reopen_of_open c name openName default hopen, hhas, eq_comm]
      | none =>
        have hname : name ≠ contentSection := by
          rintro rfl
          simp [SectionStore.modeOf, hregular.content_mode] at hmode
        cases default with
        | none => simp [reopen_of_closed c name hopen hname]
        | some text => simp [reopen_text c name text hopen hname]

/-! ### A call that fails changes nothing -/

theorem stop_of_error (h : c.stop.1 = .error fault) : c.stop.2 = c := by
  rcases stop_cases c with ⟨other, hstop⟩ | ⟨c', hstop, -⟩
  · rw [hstop]
  · simp [hstop] at h

theorem stopSection_of_error (h : c.stopSection.1 = .error fault) : c.stopSection.2 = c := by
  cases hopen : c.store.openName with
  | none => rw [stopSection_of_closed c hopen]
  | some name =>
    rcases stopSection_of_open c hopen with ⟨other, -, hstop⟩ | ⟨c', -, -, hstop⟩
    · rw [hstop]
    · simp [hstop] at h

/-- A section that was pushed cannot be shown while one is open, and then nothing changes. -/
theorem startSection_of_error (hregular : c.store.Regular) {default : Option String}
    (h : (c.startSection name default).1 = .error fault) :
    (c.startSection name default).2 = c := by
  obtain ⟨hhas, hmode, openName, hopen, -⟩ :=
    (startSection_error_iff c hregular name default fault).1 h
  obtain ⟨stored, hstored⟩ := Option.isSome_iff_exists.1 hhas
  simp only [startSection, hstored, hmode, reopen_of_open c name openName default hopen]

/-- A call that fails leaves the canvas as it is. -/
theorem Reachable.unchanged_of_error (hc : Reachable c) (ho : operation.isOrderly)
    (h : (operation.perform c).1 = .error fault) : (operation.perform c).2 = c := by
  cases operation with
  | start name =>
    exact congrArg Prod.snd (start_of_obstacle c name fault
      ((start_error_iff c name fault).1 ((answer_error_iff _ _ _).1 h)))
  | push name =>
    exact congrArg Prod.snd (startIn_of_obstacle c name .append fault
      ((startIn_error_iff c name .append fault).1 ((answer_error_iff _ _ _).1 h)))
  | unshift name =>
    exact congrArg Prod.snd (startIn_of_obstacle c name .prepend fault
      ((startIn_error_iff c name .prepend fault).1 ((answer_error_iff _ _ _).1 h)))
  | stop => exact stop_of_error ((answer_error_iff _ _ _).1 h)
  | stopSection => exact stopSection_of_error ((answer_error_iff _ _ _).1 h)
  | startSection name default =>
    exact startSection_of_error hc.regular ((answer_error_iff _ _ _).1 h)
  | write _ | «section» _ _ | hasSection _ | modeOf _ | modeNumber _ | isOpen => cases h
  | openRegion | closeRegion | discard | unwind _ | peek | depth => cases ho
  | setContent _ | adopt _ _ => cases ho

/-- In every state that is reached, the calls on a store fail exactly for these reasons.
`start`, `push` and `unshift` refuse the reserved name, also while a section is open, and any
other name while a section is open. `stop` and `end` fail if no section is open, and both they and
`stopSection` if the open section was not skipped and no region is left. A section that was
pushed cannot be shown while one is open. A call that fails leaves the sections, the modes, the
open section, the working mode and the capture as they are. -/
theorem Reachable.calls_fail_atomically (hc : Reachable c) :
    (∀ name, ∀ operation ∈ [CanvasOperation.start name, .push name, .unshift name], ∀ fault,
      (operation.perform c).1 = .error fault ↔
        name = contentSection ∧ fault = .reservedName name ∨
          name ≠ contentSection ∧ ∃ openName, c.store.openName = some openName ∧
            fault = .nestedSection name openName) ∧
    (∀ method ∈ ["stop", "end"], ∃ operation,
      Method.operation method [] = .ok (.canvas operation) ∧ ∀ fault,
        (operation.perform c).1 = .error fault ↔
          c.store.openName = none ∧ fault = .notOpen ∨
            c.store.isCaptured = true ∧ c.capture.depth = 0 ∧ fault = .noRegionToEnd) ∧
    (∀ fault, (CanvasOperation.stopSection.perform c).1 = .error fault ↔
      c.store.isCaptured = true ∧ c.capture.depth = 0 ∧ fault = .noRegionToEnd) ∧
    (∀ name default fault,
      ((CanvasOperation.startSection name default).perform c).1 = .error fault ↔
        c.store.hasSection name = true ∧ c.store.modeOf name = .append ∧
          ∃ openName, c.store.openName = some openName ∧ fault = .nestedSection name openName) ∧
    ∀ {operation : CanvasOperation} {fault : Fault}, operation.isOrderly →
      (operation.perform c).1 = .error fault → (operation.perform c).2 = c := by
  refine ⟨fun name operation ho fault => ?_, fun method hmethod => ?_, fun fault => ?_,
    fun name default fault => ?_, fun ho h => hc.unchanged_of_error ho h⟩
  · rw [← obstacle?_eq_some_iff]
    simp only [List.mem_cons, List.not_mem_nil, or_false] at ho
    rcases ho with rfl | rfl | rfl
    · exact (answer_error_iff _ _ _).trans (start_error_iff c name fault)
    · exact (answer_error_iff _ _ _).trans (startIn_error_iff c name .append fault)
    · exact (answer_error_iff _ _ _).trans (startIn_error_iff c name .prepend fault)
  · have hstop (fault : Fault) := (answer_error_iff CanvasOperation.nothing c.stop fault).trans
      (stop_error_iff c fault)
    simp only [List.mem_cons, List.not_mem_nil, or_false] at hmethod
    rcases hmethod with rfl | rfl
    · exact ⟨.stop, rfl, hstop⟩
    · exact ⟨.stop, rfl, hstop⟩
  · exact (answer_error_iff _ _ _).trans (stopSection_error_iff c fault)
  · exact (answer_error_iff _ _ _).trans (startSection_error_iff c hc.regular name default fault)

/-- A section is open whose region was closed behind the back of the store, on a store that took
over a pushed section. -/
def robbed : Canvas :=
  let pushed := (CanvasOperation.stop.perform ((CanvasOperation.push "a").perform ⟨{}, {}⟩).2).2
  let taken : Canvas := ⟨({} : SectionStore).adopt pushed.store.sections pushed.store.modes, {}⟩
  (CanvasOperation.closeRegion.perform ((CanvasOperation.start "b").perform taken).2).2

/-- Neither can that section be stopped, nor can another one be opened, the reserved one included,
or the pushed one be shown, and none of these calls changes anything. -/
theorem Reachable.calls_fail_atomically_robbed :
    Reachable robbed ∧
      (CanvasOperation.stop.perform robbed) = (.error .noRegionToEnd, robbed) ∧
      ((CanvasOperation.push "content").perform robbed) =
        (.error (.reservedName "content"), robbed) ∧
      ((CanvasOperation.startSection "a" none).perform robbed) =
        (.error (.nestedSection "a" "b"), robbed) := by
  have h : Reachable robbed :=
    .call (.call (.adopted (.fresh {}) (.call (.call (.fresh {}) (.inl rfl)) (.inl rfl)))
      (.inl rfl)) (.inr rfl)
  obtain ⟨hopening, hstop, -, hshow, hsame⟩ := h.calls_fail_atomically
  obtain ⟨operation, hoperation, hstop⟩ := hstop "stop" (by decide)
  cases (show Except.ok (Operation.canvas .stop) = .ok (.canvas operation) from hoperation)
  have hstopped := (hstop .noRegionToEnd).2 (.inr ⟨rfl, rfl, rfl⟩)
  have hpushed := (hopening "content" (.push "content") (by simp) _).2 (.inl ⟨rfl, rfl⟩)
  have hshown := (hshow "a" none _).2 ⟨rfl, rfl, "b", rfl, rfl⟩
  exact ⟨h, Prod.ext hstopped (hsame rfl hstopped), Prod.ext hpushed (hsame rfl hpushed),
    Prod.ext hshown (hsame rfl hshown)⟩

end Canvas

end TemplateEngine
