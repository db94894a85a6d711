import TemplateEngine.Proofs.Section.Block
import TemplateEngine.Proofs.Section.Failure

/-!
# Sections echoed in place

A section is shown in place in two forms: with its default given as a text, or as a block that
writes the default, if that is asked for, and then stops the section. With no section open the two
forms have the same effect. With a section open they do not: nothing was opened for the block to
stop, so what it stops is the section around it. Only a section that was pushed is refused there,
before anything changes.

## Main definitions

* `SectionStore.echoed`: what a section shown in place adds to the output.
* `Canvas.showBlock`: a section shown in the form of a block.
* `Canvas.EchoesInPlace`: a block is refused, or only adds its text to the innermost region.

## Main results

* `Canvas.Reachable.inline_agrees_block`: the two forms agree while no section is open.
* `Canvas.Reachable.echoesInPlace_unless_inside`: what a block does to a section around it.
-/

namespace TemplateEngine

namespace SectionStore

/-- What a section shown in place adds to the output: the default alone if there is no section of
that name, and otherwise its text, joined with the default as its mode asks for. -/
def echoed (s : SectionStore) (name default : String) : String :=
  match s.sections.value? name with
  | none => default
  | some stored =>
    match s.modeOf name with
    | .once => stored
    | .prepend => stored ++ default
    | .append => default ++ stored

/-- Whether there is a section of that name that was pushed. -/
def isPushed (s : SectionStore) (name : String) : Bool :=
  s.hasSection name && s.modeOf name = .append

end SectionStore

namespace Canvas

/-- What a section shown in place leaves while no section is open: what is echoed is written, and a
section that was pushed takes the default in front of its text. -/
def echo (c : Canvas) (name default : String) : Canvas where
  store :=
    { c.store with
      sections := if c.store.isPushed name then
          c.store.sections.put name (default ++ c.sectionText name)
        else c.store.sections }
  capture := c.capture.write (c.store.echoed name default)

/-- A section shown in place in the form of a block: the default is written if the answer is that it
is to be written, and then the section is stopped. -/
def showBlock (c : Canvas) (name default : String) : Except Fault Value × Canvas :=
  match (CanvasOperation.startSection name none).perform c with
  | (.error fault, c') => (.error fault, c')
  | (.ok (.bool true), c') => CanvasOperation.stopSection.perform (c'.write default)
  | (.ok _, c') => CanvasOperation.stopSection.perform c'

variable {c c' : Canvas} {name default : String}

/-- What an answer of the first call makes of the rest of the block. -/
theorem showBlock_of_answer {writes : Bool}
    (h : c.startSection name none = (.ok (some writes), c')) :
    c.showBlock name default =
      CanvasOperation.stopSection.perform (c'.write (if writes then default else "")) := by
  have hperform : (CanvasOperation.startSection name none).perform c =
      (.ok (.bool writes), c') := by
    simp only [CanvasOperation.perform, h]
    rfl
  cases writes <;> simp [showBlock, hperform]

/-! ### With no section open -/

/-- A section block with a default that is written only on demand leaves what is echoed. -/
theorem canvas_shown (c : Canvas) (name default : String) :
    (Block.shown name fun writes => if writes then [default] else []).canvas c =
      c.echo name default := by
  cases hstored : c.store.sections.value? name with
  | none =>
    simp [Block.canvas, Block.store, Block.shownText, Block.name, echo, SectionStore.echoed,
      SectionStore.isPushed, SectionStore.hasSection, Dictionary.holds, hstored]
  | some stored =>
    cases hmode : c.store.modeOf name <;>
      simp [Block.canvas, Block.store, Block.shownText, Block.name, Block.text, echo,
        SectionStore.echoed, SectionStore.isPushed, SectionStore.hasSection, Dictionary.holds,
        sectionText, hstored, hmode]

/-- With the default given as a text it leaves the same, but nothing of a section that is not
there. -/
theorem canvas_shownInline (c : Canvas) (name default : String) :
    (Block.shownInline name default).canvas c =
      if c.store.hasSection name then c.echo name default else c := by
  cases hstored : c.store.sections.value? name with
  | none =>
    simp [Block.canvas, Block.store, Block.shownText, Block.name, SectionStore.hasSection,
      Dictionary.holds, hstored]
  | some stored =>
    cases hmode : c.store.modeOf name <;>
      simp [Block.canvas, Block.store, Block.shownText, Block.name, Block.text, echo,
        SectionStore.echoed, SectionStore.isPushed, SectionStore.hasSection, Dictionary.holds,
        sectionText, hstored, hmode]

/-- With no section open, the block form only echoes. -/
theorem showBlock_of_closed (hclosed : c.store.openName = none) (hregular : c.store.Regular)
    (name default : String) :
    c.showBlock name default =
      (.ok .null, c.echo name default) := by
  obtain ⟨writes, hanswer, hstop⟩ := stopSection_shown hclosed hregular name
    fun writes => if writes then [default] else []
  have htext : String.join (if writes then [default] else []) = if writes then default else "" := by
    cases writes <;> simp
  rw [htext, canvas_shown] at hstop
  rw [showBlock_of_answer (Prod.ext hanswer rfl), CanvasOperation.perform, hstop]
  rfl

/-- With no section open, the inline form only echoes, and only a section that is there. -/
theorem startSection_of_closed (hclosed : c.store.openName = none) (hregular : c.store.Regular)
    (name default : String) :
    (CanvasOperation.startSection name (some default)).perform c =
      (.ok (.str ""), if c.store.hasSection name then c.echo name default else c) := by
  rw [CanvasOperation.perform, startSection_shownInline hclosed hregular, canvas_shownInline]
  rfl

/-- While no section is open, the two forms of showing a section agree, in every state that is
reached. The block form adds to the output what is echoed: the default if there is no section of
that name, the text of one in the plain mode, the text and then the default of one that was
unshifted, the default and then the text of one that was pushed. It leaves no section open and the
plain working mode, and changes no mode and no section but one that was pushed, which gets the
default in front of its text. The inline form answers with the empty text. It has the same effect
if there is a section of that name, and no effect if there is none. -/
theorem Reachable.inline_agrees_block (hc : Reachable c) (hclosed : c.store.openName = none)
    (name default : String) :
    c.showBlock name default =
        (.ok .null,
          { store :=
              { sections :=
                  if c.store.isPushed name then
                    c.store.sections.put name (default ++ c.sectionText name)
                  else c.store.sections
                modes := c.store.modes
                openName := none
                workingMode := .once }
            capture := c.capture.write (c.store.echoed name default) }) ∧
      (∀ other, (c.showBlock name default).2.store.sections.value? other =
        if other = name ∧ c.store.isPushed name then some (default ++ c.sectionText name)
        else c.store.sections.value? other) ∧
      (CanvasOperation.startSection name (some default)).perform c =
        (.ok (.str ""),
          if c.store.hasSection name then (c.showBlock name default).2 else c) := by
  have hplain := hc.regular.mode_of_closed hclosed
  have hblock := showBlock_of_closed hclosed hc.regular name default
  refine ⟨?_, fun other => ?_, ?_⟩
  · simp [hblock, echo, hclosed, hplain]
  · rw [hblock, echo]
    cases hpushed : c.store.isPushed name with
    | true => simp [Dictionary.value?_put, eq_comm]
    | false => simp
  · rw [startSection_of_closed hclosed hc.regular, hblock]

/-- A section that was pushed, and none is open. -/
def pushed : Canvas :=
  let opened := ((CanvasOperation.push "a").perform ⟨{}, {}⟩).2
  (CanvasOperation.stop.perform ((CanvasOperation.write "x").perform opened).2).2

theorem reachable_pushed : Reachable pushed :=
  .call (.call (.call (.fresh {}) (.inl rfl)) (.inl rfl)) (.inl rfl)

/-- The pushed section takes the default in front and is shown, in both forms alike. -/
theorem Reachable.inline_agrees_block_pushed :
    Reachable pushed ∧ pushed.store.openName = none ∧
      pushed.showBlock "a" "d" =
        (.ok .null, ⟨⟨[("a", "dx")], [("a", .append)], none, .once⟩, ⟨[], "dx"⟩⟩) ∧
      (CanvasOperation.startSection "a" (some "d")).perform pushed =
        (.ok (.str ""), (pushed.showBlock "a" "d").2) := by
  obtain ⟨hblock, -, hinline⟩ := reachable_pushed.inline_agrees_block rfl "a" "d"
  exact ⟨reachable_pushed, rfl, hblock, hinline⟩

/-! ### Inside another section -/

/-- A block that shows a section is refused because another one is open, before anything changes, or
it leaves the open section, the working mode and the depth as they are and adds what is echoed to
the innermost region. -/
def EchoesInPlace (c : Canvas) (name default : String) : Prop :=
  (∃ openName, c.store.openName = some openName ∧
      c.showBlock name default = (.error (.nestedSection name openName), c)) ∨
    (c.showBlock name default).1 = .ok .null ∧
      (c.showBlock name default).2.store.openName = c.store.openName ∧
      (c.showBlock name default).2.store.workingMode = c.store.workingMode ∧
      (c.showBlock name default).2.capture.depth = c.capture.depth ∧
      (c.showBlock name default).2.capture = c.capture.write (c.store.echoed name default)

/-- A section that was not pushed is shown without being opened, whatever is open. -/
theorem startSection_of_not_pushed (hpushed : c.store.isPushed name = false) (default : String) :
    ∃ writes shown, c.startSection name none = (.ok (some writes), c.write shown) ∧
      shown ++ (if writes then default else "") = c.store.echoed name default := by
  cases hstored : c.store.sections.value? name with
  | none =>
    exact ⟨true, "", by simp [startSection, hstored], by simp [SectionStore.echoed, hstored]⟩
  | some stored =>
    cases hmode : c.store.modeOf name with
    | once =>
      exact ⟨false, stored, by simp [startSection, hstored, hmode],
        by simp [SectionStore.echoed, hstored, hmode]⟩
    | prepend =>
      exact ⟨true, stored, by simp [startSection, hstored, hmode],
        by simp [SectionStore.echoed, hstored, hmode]⟩
    | append =>
      simp [SectionStore.isPushed, SectionStore.hasSection, Dictionary.holds, hstored, hmode]
        at hpushed

/-- So the block comes down to writing what is echoed and stopping whatever is open. -/
theorem showBlock_of_not_pushed (hpushed : c.store.isPushed name = false) (default : String) :
    c.showBlock name default =
      CanvasOperation.stopSection.perform (c.write (c.store.echoed name default)) := by
  obtain ⟨writes, shown, hstart, hechoed⟩ := startSection_of_not_pushed hpushed default
  rw [showBlock_of_answer hstart, write_write, hechoed]

/-- A section that was pushed is refused while one is open. -/
theorem showBlock_of_pushed {openName : String} (hopen : c.store.openName = some openName)
    (hpushed : c.store.isPushed name = true) (default : String) :
    c.showBlock name default = (.error (.nestedSection name openName), c) := by
  obtain ⟨hhas, hmode⟩ : c.store.hasSection name = true ∧ c.store.modeOf name = .append := by
    simpa [SectionStore.isPushed] using hpushed
  obtain ⟨stored, hstored⟩ := Option.isSome_iff_exists.1 hhas
  have hstart : c.startSection name none = (.error (.nestedSection name openName), c) := by
    simp only [startSection, hstored, hmode, reopen_of_open c name openName none hopen]
  simp only [showBlock, CanvasOperation.perform, hstart]
  rfl

/-- With no section open the block echoes in place. -/
theorem echoesInPlace_of_closed (hclosed : c.store.openName = none) (hregular : c.store.Regular)
    (name default : String) : c.EchoesInPlace name default := by
  have hblock := showBlock_of_closed hclosed hregular name default
  refine .inr ?_
  rw [hblock]
  exact ⟨rfl, rfl, rfl, Capture.depth_write _ _, rfl⟩

/-- Stopping an open section and showing it fails only if its region is gone. -/
theorem perform_stopSection_of_open {openName : String} (hopen : c.store.openName = some openName) :
    (c.store.isCaptured = true ∧ c.capture.depth = 0 ∧
        CanvasOperation.stopSection.perform c = (.error .noRegionToEnd, c)) ∨
      (c.store.isCaptured = true → c.capture.depth ≠ 0) ∧
        ∃ stopped, c.stop = (.ok (), stopped) ∧ stopped.store.openName = none ∧
          stopped.store.workingMode = .once ∧
          CanvasOperation.stopSection.perform c =
            (.ok .null, stopped.write (stopped.sectionText openName)) := by
  by_cases hgone : c.store.isCaptured = true ∧ c.capture.depth = 0
  · refine .inl ⟨hgone.1, hgone.2, ?_⟩
    rw [CanvasOperation.perform, stopSection, hopen, stop_of_no_region c hgone.1 hgone.2]
    rfl
  · have hregion (hcaptured : c.store.isCaptured = true) : c.capture.depth ≠ 0 :=
      fun hdepth => hgone ⟨hcaptured, hdepth⟩
    obtain ⟨stopped, hstop⟩ := stop_of_open c hopen hregion
    have hclosed : stopped.store.openName = none ∧ stopped.store.workingMode = .once := by
      obtain ⟨name, -, ⟨-, rfl⟩ | ⟨-, captured, capture, -, rfl⟩⟩ := stop_inv hstop <;>
        exact ⟨rfl, rfl⟩
    refine .inr ⟨hregion, stopped, hstop, hclosed.1, hclosed.2, ?_⟩
    rw [CanvasOperation.perform, stopSection, hopen, hstop]
    rfl

/-- A block that shows a section is refused, before anything changes, exactly if the section was
pushed and one is open. If it was pushed or none is open, the block keeps what is open as it is and
echoes in place. Otherwise it opens nothing: its first call and its default leave what is open, the
working mode and the depth as they are and add what is echoed to the innermost region, and what its
second call stops is the section that was open before. That one is closed as `stop` closes it, and
its text is shown, unless its region is gone. -/
theorem Reachable.echoesInPlace_unless_inside (hc : Reachable c) (name default : String) :
    (∀ openName, c.showBlock name default = (.error (.nestedSection name openName), c) ↔
      c.store.openName = some openName ∧ c.store.isPushed name = true) ∧
    (c.store.openName = none ∨ c.store.isPushed name = true → c.EchoesInPlace name default) ∧
    ∀ openName, c.store.openName = some openName → c.store.isPushed name = false →
      ∃ written, written = c.write (c.store.echoed name default) ∧
        (∃ writes shown,
          (CanvasOperation.startSection name none).perform c =
              (.ok (.bool writes), c.write shown) ∧
            (c.write shown).write (if writes then default else "") = written) ∧
        (c.store.isCaptured = true ∧ c.capture.depth = 0 ∧
            c.showBlock name default = (.error .noRegionToEnd, written) ∨
          (c.store.isCaptured = true → c.capture.depth ≠ 0) ∧
            ∃ stopped, written.stop = (.ok (), stopped) ∧ stopped.store.openName = none ∧
              stopped.store.workingMode = .once ∧
              c.showBlock name default =
                (.ok .null, stopped.write (stopped.sectionText openName))) := by
  refine ⟨fun openName => ⟨fun h => ?_, fun h => showBlock_of_pushed h.1 h.2 default⟩, ?_, ?_⟩
  · cases hopen : c.store.openName with
    | none =>
      rw [showBlock_of_closed hopen hc.regular] at h
      cases h
    | some other =>
      cases hpushed : c.store.isPushed name with
      | true =>
        rw [showBlock_of_pushed hopen hpushed] at h
        cases h
        exact ⟨rfl, rfl⟩
      | false =>
        -- What was not pushed is refused only for want of a region, and that is another fault.
        have hfault := congrArg Prod.fst h
        rw [showBlock_of_not_pushed hpushed] at hfault
        obtain ⟨-, -, hfault⟩ :=
          (stopSection_error_iff _ _).1 ((answer_error_iff _ _ _).1 hfault)
        cases hfault
  · rintro (hclosed | hpushed)
    · exact echoesInPlace_of_closed hclosed hc.regular name default
    · cases hopen : c.store.openName with
      | none => exact echoesInPlace_of_closed hopen hc.regular name default
      | some openName => exact .inl ⟨openName, hopen, showBlock_of_pushed hopen hpushed default⟩
  · intro openName hopen hpushed
    obtain ⟨writes, shown, hstart, hechoed⟩ := startSection_of_not_pushed hpushed default
    have hstop := perform_stopSection_of_open
      (c := c.write (c.store.echoed name default)) hopen
    rw [← showBlock_of_not_pushed hpushed, store_write] at hstop
    rw [show (c.write (c.store.echoed name default)).capture.depth = c.capture.depth from
      Capture.depth_write _ _] at hstop
    refine ⟨_, rfl, ⟨writes, shown, ?_, ?_⟩, hstop⟩
    · rw [CanvasOperation.perform, hstart]
      rfl
    · rw [write_write, hechoed]

/-- A section is open on a canvas that holds a pushed one. -/
def inside : Canvas := ((CanvasOperation.start "b").perform pushed).2

theorem reachable_inside : Reachable inside := .call reachable_pushed (.inl rfl)

/-- Inside that section the pushed one is refused, and the block of one that is not there closes the
section around it, whose text is the default. -/
theorem Reachable.echoesInPlace_unless_inside_pushed :
    Reachable inside ∧
      inside.showBlock "a" "d" = (.error (.nestedSection "a" "b"), inside) ∧
      inside.store.openName = some "b" ∧ inside.store.isPushed "c" = false ∧
      ∃ stopped, (inside.write "d").stop = (.ok (), stopped) ∧ stopped.store.openName = none ∧
        inside.showBlock "c" "d" = (.ok .null, stopped.write "d") := by
  obtain ⟨hrefused, -, -⟩ := reachable_inside.echoesInPlace_unless_inside "a" "d"
  obtain ⟨-, -, hinside⟩ := reachable_inside.echoesInPlace_unless_inside "c" "d"
  obtain ⟨written, rfl, -, ⟨-, hgone, -⟩ | ⟨-, stopped, hstop, hclosed, -, hshow⟩⟩ :=
    hinside "b" rfl rfl
  · cases hgone
  · cases hstop
    exact ⟨reachable_inside, (hrefused "b").2 ⟨rfl, rfl⟩, rfl, rfl, _, rfl, rfl, hshow⟩

/-- So a section that is shown in the form of a block can end the section around it. -/
theorem not_echoesInPlace_inside : Reachable inside ∧ ¬inside.EchoesInPlace "c" "d" := by
  refine ⟨reachable_inside, ?_⟩
  rintro (⟨openName, -, h⟩ | ⟨-, hopen, -⟩)
  · cases congrArg Prod.fst h
  · cases hopen

end Canvas

end TemplateEngine
