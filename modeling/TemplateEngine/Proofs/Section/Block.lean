import TemplateEngine.Proofs.Section.InStep

/-!
# Section blocks and what they store

A block opens a section, writes, and closes the section again, or it shows a section in place with
a default. What a name holds after a sequence of blocks depends on the blocks on that name alone,
and there is a closed form for it: the texts that were put in front, latest first, then the text
that was there first, then the texts that were put behind.

## Main definitions

* `Block`: the blocks.
* `Block.store`, `Block.shownText`: what a block leaves in a store, and what it writes around.
* `Block.closedForm`: the text of a name after the blocks on it.
* `SectionStore.Describes`: a store holds what a sequence of blocks stores.

## Main results

* `SectionStore.Describes.block`: one more block keeps the store described.
* `Canvas.perform_opening`, `Canvas.stop_written`: how the blocks are executed.
-/

namespace TemplateEngine

/-- A section block. What it writes may depend on what opening the section answers. -/
inductive Block where
  /-- `start`, `push` or `unshift`, depending on the mode, then output, then `stop`. -/
  | written (mode : SectionMode) (name : String) (own : name ≠ contentSection)
    (output : Bool → List String)
  /-- A section shown in place, with the default written up to `stopSection`. -/
  | shown (name : String) (output : Bool → List String)
  /-- A section shown in place, with the default given as a text. -/
  | shownInline (name : String) (default : String)

namespace Block

/-- The name of the section. -/
def name : Block → String
  | .written _ name _ _ => name
  | .shown name _ => name
  | .shownInline name _ => name

/-- What is written if the section is to be written. -/
def text : Block → String
  | .written _ _ _ output => String.join (output true)
  | .shown _ output => String.join (output true)
  | .shownInline _ default => default

/-- Whether a block stores a text whatever is there: `start`, `push` and `unshift`. -/
def isWritten : Block → Bool
  | .written .. => true
  | _ => false

/-! ### The closed form -/

/-- The mode after the blocks on a name, latest first. -/
def lastMode : List Block → SectionMode
  | [] => .once
  | .written .append _ _ _ :: _ => .append
  | .written .prepend _ _ _ :: _ => .prepend
  | _ :: earlier => lastMode earlier

/-- Whether the text of a block goes in front, in a given mode: that of `unshift`, and while the
mode is that of `push`, a default. -/
def goesInFront (mode : SectionMode) : Block → Bool
  | .written .prepend _ _ _ => true
  | .written _ _ _ _ => false
  | .shown _ _ => mode = .append
  | .shownInline _ _ => mode = .append

/-- Whether a block is one of `push`. -/
def isPush : Block → Bool
  | .written .append _ _ _ => true
  | _ => false

/-- Whether a block is one of `start`. -/
def isStart : Block → Bool
  | .written .once _ _ _ => true
  | _ => false

/-- Whether one of the blocks stored a text. -/
def isStored (blocks : List Block) : Bool := blocks.any isWritten

/-- The texts in front, latest first. -/
def front : List Block → String
  | [] => ""
  | b :: earlier => (if b.goesInFront (lastMode earlier) then b.text else "") ++ front earlier

/-- The text of the first block that stored one, if that is one of `start`. -/
def base : List Block → String
  | [] => ""
  | b :: earlier => if isStored earlier then base earlier else if b.isStart then b.text else ""

/-- The texts of `push`, in order. -/
def back : List Block → String
  | [] => ""
  | b :: earlier => back earlier ++ (if b.isPush then b.text else "")

/-- What a name holds after the blocks on it, latest first. -/
def closedForm (blocks : List Block) : Option String :=
  if isStored blocks then some (front blocks ++ base blocks ++ back blocks) else none

variable {blocks : List Block}

/-- A name that is not stored has no mode and no text. -/
theorem eq_of_not_stored (h : isStored blocks = false) :
    lastMode blocks = .once ∧ front blocks = "" ∧ back blocks = "" := by
  induction blocks with
  | nil => exact ⟨rfl, rfl, rfl⟩
  | cons b earlier ih =>
    obtain ⟨hb, hearlier⟩ : b.isWritten = false ∧ isStored earlier = false := by
      simpa [isStored] using h
    obtain ⟨hmode, hfront, hback⟩ := ih hearlier
    cases b with
    | written => cases hb
    | shown name output =>
      simp [lastMode, front, back, goesInFront, isPush, hmode, hfront, hback]
    | shownInline name default =>
      simp [lastMode, front, back, goesInFront, isPush, hmode, hfront, hback]

theorem isSome_closedForm (blocks : List Block) : (closedForm blocks).isSome = isStored blocks := by
  unfold closedForm
  split <;> simp_all

/-- A block of `start` on a name that is stored changes nothing; any other one joins its text with
the text that is there, as its mode says. -/
theorem closedForm_written (mode : SectionMode) (name : String) (own : name ≠ contentSection)
    (output : Bool → List String) (blocks : List Block) :
    closedForm (.written mode name own output :: blocks) =
      if isStored blocks && mode = .once then closedForm blocks
      else some (SectionStore.joinText mode ((closedForm blocks).getD "")
        (String.join (output true))) := by
  have hwritten : isStored (.written mode name own output :: blocks) = true := rfl
  cases hstored : isStored blocks with
  | false =>
    obtain ⟨-, hfront, hback⟩ := eq_of_not_stored hstored
    cases mode <;>
      simp [closedForm, hwritten, hstored, front, base, back, goesInFront, isPush, isStart,
        text, hfront, hback, SectionStore.joinText]
  | true =>
    cases mode <;>
      simp [closedForm, hwritten, hstored, front, base, back, goesInFront, isPush, text,
        SectionStore.joinText, String.append_assoc]

/-- A block of `start` has no mode of its own, and any other one is remembered. -/
theorem lastMode_written (mode : SectionMode) (name : String) (own : name ≠ contentSection)
    (output : Bool → List String) (blocks : List Block) :
    lastMode (.written mode name own output :: blocks) =
      if mode = .once then lastMode blocks else mode := by
  cases mode <;> rfl

/-- A default that is shown in place changes a name only while its mode is that of `push`. -/
theorem closedForm_of_not_written {b : Block} (hb : b.isWritten = false) (blocks : List Block) :
    closedForm (b :: blocks) =
      if lastMode blocks = .append then some (b.text ++ (closedForm blocks).getD "")
      else closedForm blocks := by
  have hstored : isStored (b :: blocks) = isStored blocks := by simp [isStored, hb]
  have hfront : b.goesInFront (lastMode blocks) = decide (lastMode blocks = .append) := by
    cases b with
    | written => cases hb
    | shown | shownInline => rfl
  have hstart : b.isStart = false ∧ b.isPush = false := by
    cases b with
    | written => cases hb
    | shown | shownInline => exact ⟨rfl, rfl⟩
  rw [closedForm, closedForm, hstored, front, base, back, hfront, hstart.1, hstart.2]
  cases hearlier : isStored blocks with
  | false => simp [(eq_of_not_stored hearlier).1]
  | true =>
    by_cases hmode : lastMode blocks = .append
    · simp [hmode, String.append_assoc]
    · simp [hmode]

theorem lastMode_of_not_written {b : Block} (hb : b.isWritten = false) (blocks : List Block) :
    lastMode (b :: blocks) = lastMode blocks := by
  cases b with
  | written => cases hb
  | shown | shownInline => rfl

/-! ### What a block leaves in a store -/

/-- What a block leaves in a store with no section open. -/
def store (s : SectionStore) : Block → SectionStore
  | .written mode name _ output =>
    if s.hasSection name && mode = .once then s
    else
      { s with
        sections := s.sections.put name
          (SectionStore.joinText mode ((s.sections.value? name).getD "")
            (String.join (output true)))
        modes := if mode = .once then s.modes else s.modes.put name mode }
  | b =>
    if s.hasSection b.name && s.modeOf b.name = .append then
      { s with sections := s.sections.put b.name (b.text ++ (s.sections.value? b.name).getD "") }
    else s

/-- What a block writes around its section: the output of a section that is skipped, or what is
shown in place. -/
def shownText (s : SectionStore) : Block → String
  | .written mode name _ output =>
    if s.hasSection name && mode = .once then String.join (output false) else ""
  | .shown name output =>
    match s.sections.value? name with
    | none => String.join (output true)
    | some stored =>
      match s.modeOf name with
      | .once => stored ++ String.join (output false)
      | .prepend => stored ++ String.join (output true)
      | .append => String.join (output true) ++ stored
  | .shownInline name default =>
    match s.sections.value? name with
    | none => ""
    | some stored =>
      match s.modeOf name with
      | .once => stored
      | .prepend => stored ++ default
      | .append => default ++ stored

/-- What a block leaves on a canvas with no section open. -/
def canvas (b : Block) (c : Canvas) : Canvas :=
  ⟨b.store c.store, c.capture.write (b.shownText c.store)⟩

/-- The blocks on a name. -/
def on (name : String) (blocks : List Block) : List Block := blocks.filter (·.name = name)

theorem on_cons_self (b : Block) (blocks : List Block) :
    on b.name (b :: blocks) = b :: on b.name blocks := by
  simp [on]

theorem on_cons_of_ne {b : Block} {name : String} (h : b.name ≠ name) (blocks : List Block) :
    on name (b :: blocks) = on name blocks := by
  simp [on, h]

/-- A block leaves the other names as they are. -/
theorem store_of_ne (s : SectionStore) {b : Block} {name : String} (h : b.name ≠ name) :
    (b.store s).sections.value? name = s.sections.value? name ∧
      (b.store s).modeOf name = s.modeOf name := by
  cases b with
  | written mode key own output =>
    have hkey : key ≠ name := h
    simp only [store]
    split
    · exact ⟨rfl, rfl⟩
    · refine ⟨by rw [Dictionary.value?_put, if_neg hkey], ?_⟩
      simp only [SectionStore.modeOf]
      split
      · rfl
      · rw [Dictionary.value?_put, if_neg hkey]
  | shown key output | shownInline key default =>
    have hkey : key ≠ name := h
    simp only [store]
    split
    · exact ⟨by rw [Dictionary.value?_put]; exact if_neg hkey, rfl⟩
    · exact ⟨rfl, rfl⟩

/-- A block leaves nothing open and no other working mode, and the content section gets no mode. -/
theorem store_frame (s : SectionStore) (b : Block) :
    (b.store s).openName = s.openName ∧ (b.store s).workingMode = s.workingMode ∧
      (b.store s).modes.value? contentSection = s.modes.value? contentSection := by
  cases b with
  | written mode name own output =>
    simp only [store]
    split
    · exact ⟨rfl, rfl, rfl⟩
    · refine ⟨rfl, rfl, ?_⟩
      split
      · rfl
      · rw [Dictionary.value?_put, if_neg own]
  | shown | shownInline =>
    simp only [store]
    split <;> exact ⟨rfl, rfl, rfl⟩

/-- What a block of `start`, `push` or `unshift` leaves under its name. -/
theorem store_written (s : SectionStore) (mode : SectionMode) (name : String)
    (own : name ≠ contentSection) (output : Bool → List String) :
    ((written mode name own output).store s).sections.value? name =
        (if s.hasSection name && mode = .once then s.sections.value? name
        else some (SectionStore.joinText mode ((s.sections.value? name).getD "")
          (String.join (output true)))) ∧
      ((written mode name own output).store s).modeOf name =
        if mode = .once then s.modeOf name else mode := by
  simp only [store]
  cases hskip : s.hasSection name && decide (mode = .once) with
  | true =>
    obtain ⟨-, rfl⟩ : s.hasSection name = true ∧ mode = .once := by simpa using hskip
    exact ⟨rfl, rfl⟩
  | false =>
    refine ⟨Dictionary.value?_put_self _ _ _, ?_⟩
    by_cases hmode : mode = .once
    · simp [SectionStore.modeOf, hmode]
    · simp [SectionStore.modeOf, hmode]

/-- What a section shown in place leaves under its name. -/
theorem store_of_not_written (s : SectionStore) {b : Block} (hb : b.isWritten = false) :
    (b.store s).sections.value? b.name =
        (if s.hasSection b.name && s.modeOf b.name = .append then
          some (b.text ++ (s.sections.value? b.name).getD "")
        else s.sections.value? b.name) ∧
      (b.store s).modeOf b.name = s.modeOf b.name := by
  cases b with
  | written => cases hb
  | shown name output | shownInline name default =>
    simp only [store]
    split
    · exact ⟨Dictionary.value?_put_self _ _ _, rfl⟩
    · exact ⟨rfl, rfl⟩

end Block

namespace SectionStore

/-- A store holds what blocks stored, latest first: each name but that of the content section has
the text and the mode that the blocks on it give. -/
def Describes (s : SectionStore) (blocks : List Block) : Prop :=
  ∀ name, name ≠ contentSection →
    s.sections.value? name = Block.closedForm (Block.on name blocks) ∧
      s.modeOf name = Block.lastMode (Block.on name blocks)

variable {s : SectionStore} {blocks : List Block}

theorem describes_initial : SectionStore.Describes {} [] := fun _ _ => ⟨rfl, rfl⟩

/-- One more block keeps the store described. -/
theorem Describes.block (h : s.Describes blocks) (b : Block) :
    (b.store s).Describes (b :: blocks) := by
  intro name hname
  obtain ⟨htext, hmode⟩ := h name hname
  have hhas : s.hasSection name = Block.isStored (Block.on name blocks) := by
    rw [hasSection, Dictionary.holds, htext, Block.isSome_closedForm]
  -- A block leaves every section alone but the one that it is about.
  by_cases hb : b.name = name
  · subst hb
    rw [Block.on_cons_self]
    cases hwritten : b.isWritten with
    | true =>
      cases b with
      | written mode key own output =>
        obtain ⟨htext', hmode'⟩ := Block.store_written s mode key own output
        rw [Block.closedForm_written, Block.lastMode_written]
        simp only [Block.name] at hhas htext hmode ⊢
        rw [htext', hmode', hhas, htext, hmode]
        exact ⟨rfl, rfl⟩
      | shown | shownInline => cases hwritten
    | false =>
      obtain ⟨htext', hmode'⟩ := Block.store_of_not_written s hwritten
      rw [Block.closedForm_of_not_written hwritten, Block.lastMode_of_not_written hwritten]
      refine ⟨htext'.trans ?_, hmode'.trans hmode⟩
      rw [hhas, hmode, htext]
      by_cases hpushed : Block.lastMode (Block.on b.name blocks) = .append
      · have hstored : Block.isStored (Block.on b.name blocks) = true := by
          refine Bool.of_not_eq_false fun hnot => ?_
          have hplain := (Block.eq_of_not_stored hnot).1
          rw [hpushed] at hplain
          cases hplain
        simp [hpushed, hstored]
      · simp [hpushed]
  · obtain ⟨htext', hmode'⟩ := Block.store_of_ne s hb
    rw [Block.on_cons_of_ne hb, htext', hmode']
    exact ⟨htext, hmode⟩

/-- The store of a layout takes over what blocks stored, and the content section besides. -/
theorem Describes.adopt (h : s.Describes blocks) (content : String) (store : SectionStore) :
    (store.adopt (s.setContent content).sections s.modes).Describes blocks := by
  intro name hname
  obtain ⟨htext, hmode⟩ := h name hname
  refine ⟨?_, hmode⟩
  rw [← htext]
  exact (Dictionary.value?_put _ _ _ _).trans (if_neg (Ne.symm hname))

/-- A block keeps a store regular in which no section is open. -/
theorem Regular.block (h : s.Regular) (hclosed : s.openName = none) (b : Block) :
    (b.store s).Regular := by
  obtain ⟨hopenName, hworkingMode, hcontent⟩ := Block.store_frame s b
  refine ⟨fun _ => hworkingMode.trans (h.mode_of_closed hclosed), ?_,
    hcontent.trans h.content_mode⟩
  simp [hopenName, hclosed]

/-- A store with no section open in the plain mode is what closing it leaves. -/
theorem close_of_closed (hclosed : s.openName = none) (hmode : s.workingMode = .once) :
    s.close = s := by
  obtain ⟨sections, modes, openName, workingMode⟩ := s
  subst hclosed hmode
  rfl

end SectionStore

/-! ### How a block is executed -/

/-- The operation that opens the section of a block. -/
def Block.opening : SectionMode → String → CanvasOperation
  | .once => .start
  | .append => .push
  | .prepend => .unshift

namespace Canvas

variable {c : Canvas} {name : String}

/-- What a block that shows a section leaves, unless the section was pushed. -/
theorem canvas_of_not_pushed {b : Block} (hb : b.isWritten = false)
    (hmode : (c.store.hasSection b.name && decide (c.store.modeOf b.name = .append)) = false) :
    b.canvas c = c.write (b.shownText c.store) := by
  have hstore : b.store c.store = c.store := by
    cases b with
    | written => cases hb
    | shown | shownInline => simp only [Block.store, hmode, Bool.false_eq_true, if_false]
  rw [Block.canvas, hstore]
  rfl

section Execution

variable (hclosed : c.store.openName = none) (hregular : c.store.Regular)

include hclosed hregular

/-- Opening a section answers whether it is to be written, and opens it. -/
theorem perform_opening (own : name ≠ contentSection) (mode : SectionMode) :
    (Block.opening mode name).perform c =
      (.ok (.bool !(c.store.hasSection name && mode = .once)),
        c.opened name mode
          (if mode = .once then c.store.modes else c.store.modes.put name mode)) := by
  have hplain := hregular.mode_of_closed hclosed
  have hfree : c.store.obstacle? name = none :=
    (SectionStore.obstacle?_eq_none_iff _ _).2 ⟨own, hclosed⟩
  cases mode with
  | once =>
    simp only [Block.opening, CanvasOperation.perform, start_of_free c name hfree, hplain,
      isSkipped_opened, CanvasOperation.answer]
    rfl
  | append =>
    simp only [Block.opening, CanvasOperation.perform, push, startIn_of_free c name .append hfree,
      CanvasOperation.answer]
    simp
    rfl
  | prepend =>
    simp only [Block.opening, CanvasOperation.perform, unshift,
      startIn_of_free c name .prepend hfree, CanvasOperation.answer]
    simp
    rfl

/-- Stopping a section that was skipped leaves what was written in it where the canvas stands. -/
theorem stop_opened_of_skipped (hstored : c.store.hasSection name = true) (text : String) :
    ((c.opened name .once c.store.modes).write text).stop = (.ok (), c.write text) := by
  have hskip : (c.opened name .once c.store.modes).store.isSkipped = true := by
    rw [isSkipped_opened, hstored]
    rfl
  have hcapture := c.capture_opened name .once c.store.modes
  rw [hskip, if_pos rfl] at hcapture
  have hclose : (c.opened name .once c.store.modes).store.close = c.store :=
    SectionStore.close_of_closed hclosed (hregular.mode_of_closed hclosed)
  rw [stop_of_skipped ((c.opened name .once c.store.modes).write text) hskip, store_write, hclose,
    write, write, hcapture]

/-- Merging a text into the section that was opened, and closing it. -/
theorem close_merge_opened (mode : SectionMode) (modes : Dictionary SectionMode) (text : String) :
    ((c.opened name mode modes).store.merge name text).close =
      { c.store with
        sections := c.store.sections.put name
          (SectionStore.joinText mode (c.sectionText name) text)
        modes := modes } := by
  have hplain := hregular.mode_of_closed hclosed
  simp [SectionStore.merge, SectionStore.close, opened, sectionText, hclosed, hplain]

/-- Stopping a section that was not skipped stores its text. -/
theorem stop_opened_of_written {mode : SectionMode}
    (hskip : (c.store.hasSection name && decide (mode = .once)) = false)
    (modes : Dictionary SectionMode) (text : String) :
    ((c.opened name mode modes).write text).stop =
      (.ok (), ⟨{ c.store with
        sections := c.store.sections.put name
          (SectionStore.joinText mode (c.sectionText name) text)
        modes := modes }, c.capture⟩) := by
  have hskipped : (c.opened name mode modes).store.isSkipped = false := by
    rw [isSkipped_opened, hskip]
  have hregion : (c.opened name mode modes).capture = c.capture.openRegion := by
    rw [capture_opened, hskipped]
    rfl
  rw [stop_write_of_region (c.opened name mode modes) rfl hskipped hregion,
    close_merge_opened hclosed hregular]

/-- What `start`, `push` or `unshift` with its output and its `stop` leaves. -/
theorem stop_written (mode : SectionMode) (own : name ≠ contentSection)
    (output : Bool → List String) :
    ((c.opened name mode
        (if mode = .once then c.store.modes else c.store.modes.put name mode)).write
      (String.join (output !(c.store.hasSection name && mode = .once)))).stop =
      (.ok (), (Block.written mode name own output).canvas c) := by
  cases hskip : c.store.hasSection name && decide (mode = .once) with
  | true =>
    obtain ⟨hstored, rfl⟩ : c.store.hasSection name = true ∧ mode = .once := by simpa using hskip
    rw [if_pos rfl, stop_opened_of_skipped hclosed hregular hstored, Block.canvas, Block.store,
      Block.shownText, hskip]
    rfl
  | false =>
    rw [stop_opened_of_written hclosed hregular hskip, Block.canvas, Block.store, Block.shownText,
      hskip]
    simp [sectionText]

/-- A section that was pushed takes a text in front and shows both. -/
theorem stopSection_reopened (name text : String) :
    ((c.opened name .prepend c.store.modes).write text).stopSection =
      (.ok (), (⟨{ c.store with
        sections := c.store.sections.put name (text ++ c.sectionText name) }, c.capture⟩ :
          Canvas).write (text ++ c.sectionText name)) := by
  have hskip : (c.store.hasSection name && decide (SectionMode.prepend = .once)) = false := by simp
  have hstop := stop_opened_of_written hclosed hregular hskip c.store.modes text
  have hopen : ((c.opened name .prepend c.store.modes).write text).store.openName = some name := rfl
  rw [stopSection, hopen, hstop]
  simp [sectionText, SectionStore.joinText]

/-- Showing a section in place, writing its default and stopping it leaves what the block does.
The answer tells whether the default is to be written. -/
theorem stopSection_shown (name : String) (output : Bool → List String) :
    ∃ answer, (c.startSection name none).1 = .ok (some answer) ∧
      ((c.startSection name none).2.write (String.join (output answer))).stopSection =
        (.ok (), (Block.shown name output).canvas c) := by
  have hclosedWrite (text : String) : (c.write text).stopSection = (.ok (), c.write text) :=
    stopSection_of_closed _ hclosed
  cases hstored : c.store.sections.value? name with
  | none =>
    have hstart : c.startSection name none = (.ok (some true), c) := by
      simp [startSection, hstored]
    have hcanvas := c.canvas_of_not_pushed (b := .shown name output) rfl
      (by simp [SectionStore.hasSection, Dictionary.holds, hstored, Block.name])
    rw [hstart, hcanvas]
    refine ⟨true, rfl, ?_⟩
    simp [Block.shownText, hstored, hclosedWrite]
  | some stored =>
    -- Only a pushed section is opened again. What else is stored is shown at once.
    cases hmode : c.store.modeOf name with
    | once =>
      have hstart : c.startSection name none = (.ok (some false), c.write stored) := by
        simp [startSection, hstored, hmode]
      have hcanvas := c.canvas_of_not_pushed (b := .shown name output) rfl
        (by simp [Block.name, hmode])
      rw [hstart, hcanvas]
      refine ⟨false, rfl, ?_⟩
      simp [Block.shownText, hstored, hmode, write_write, hclosedWrite]
    | prepend =>
      have hstart : c.startSection name none = (.ok (some true), c.write stored) := by
        simp [startSection, hstored, hmode]
      have hcanvas := c.canvas_of_not_pushed (b := .shown name output) rfl
        (by simp [Block.name, hmode])
      rw [hstart, hcanvas]
      refine ⟨true, rfl, ?_⟩
      simp [Block.shownText, hstored, hmode, write_write, hclosedWrite]
    | append =>
      have hname : name ≠ contentSection := by
        rintro rfl
        simp [SectionStore.modeOf, hregular.content_mode] at hmode
      have hstart : c.startSection name none =
          (.ok (some true), c.opened name .prepend c.store.modes) := by
        simp only [startSection, hstored, hmode]
        exact reopen_of_closed c name hclosed hname
      have htext : c.sectionText name = stored := by simp [sectionText, hstored]
      rw [hstart]
      refine ⟨true, rfl, ?_⟩
      rw [stopSection_reopened hclosed hregular, htext]
      simp [Block.canvas, Block.store, Block.shownText, Block.name, Block.text, hstored, hmode,
        SectionStore.hasSection, Dictionary.holds, write]

/-- Showing a section in place with a default given as a text leaves what the block does. -/
theorem startSection_shownInline (name default : String) :
    c.startSection name (some default) = (.ok none, (Block.shownInline name default).canvas c) := by
  cases hstored : c.store.sections.value? name with
  | none =>
    have hcanvas := c.canvas_of_not_pushed (b := .shownInline name default) rfl
      (by simp [SectionStore.hasSection, Dictionary.holds, hstored, Block.name])
    simp [startSection, hstored, hcanvas, Block.shownText]
  | some stored =>
    cases hmode : c.store.modeOf name with
    | once =>
      have hcanvas := c.canvas_of_not_pushed (b := .shownInline name default) rfl
        (by simp [Block.name, hmode])
      simp [startSection, hstored, hmode, hcanvas, Block.shownText]
    | prepend =>
      have hcanvas := c.canvas_of_not_pushed (b := .shownInline name default) rfl
        (by simp [Block.name, hmode])
      simp [startSection, hstored, hmode, hcanvas, Block.shownText, write_write]
    | append =>
      have hname : name ≠ contentSection := by
        rintro rfl
        simp [SectionStore.modeOf, hregular.content_mode] at hmode
      have htext : c.sectionText name = stored := by simp [sectionText, hstored]
      have hreopen := reopen_text c name default hclosed hname
      rw [close_merge_opened hclosed hregular, htext] at hreopen
      simp only [startSection, hstored, hmode]
      rw [hreopen]
      simp [Block.canvas, Block.store, Block.shownText, Block.name, Block.text, hstored, hmode,
        SectionStore.hasSection, Dictionary.holds, write, SectionStore.joinText]

end Execution

end Canvas

end TemplateEngine
