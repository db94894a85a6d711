import TemplateEngine.Section.Store
import TemplateEngine.Value

/-!
# Operations on sections and on captured text

The operations that a canvas offers, as data, and what they answer.

## Main definitions

* `CanvasOperation`: the operations.
* `CanvasOperation.perform`: what an operation answers and what it leaves.
-/

namespace TemplateEngine

/-- The operations on a section store and its capture. -/
inductive CanvasOperation where
  | openRegion
  | closeRegion
  | discard
  | unwind (depth : Int)
  | write (text : String)
  | peek
  | depth
  | start (name : String)
  | push (name : String)
  | unshift (name : String)
  | stop
  | section (name : String) (default : Value)
  | startSection (name : String) (default : Option String)
  | stopSection
  | hasSection (name : String)
  | modeOf (name : String)
  | modeNumber (name : String)
  | isOpen
  | setContent (text : String)
  | adopt (sections : Dictionary String) (modes : Dictionary SectionMode)
  deriving Inhabited

namespace CanvasOperation

/-- An outcome with its value turned into an answer. -/
def answer {α β : Type} (f : α → Value) (outcome : Except Fault α × β) : Except Fault Value × β :=
  (outcome.1.map f, outcome.2)

/-- The answer of an operation that has none. -/
def nothing : Unit → Value := fun _ => .null

/-- The answer of a section shown in place: empty if its default was given as a text. -/
def shown : Option Bool → Value
  | none => .str ""
  | some renders => .bool renders

/-- An outcome of the capture alone. -/
def onCapture {α : Type} (c : Canvas) (outcome : Except Fault α × Capture) :
    Except Fault α × Canvas :=
  (outcome.1, { c with capture := outcome.2 })

/-- What an operation answers and what it leaves. -/
def perform (c : Canvas) : CanvasOperation → Except Fault Value × Canvas
  | .openRegion =>
    (.ok (.int (c.capture.depth + 1)), { c with capture := c.capture.openRegion })
  | .closeRegion => answer .str (onCapture c c.capture.finish)
  | .discard => answer nothing (onCapture c c.capture.discard)
  | .unwind kept => answer (fun n : Nat => .int n) (onCapture c (c.capture.unwindTo kept))
  | .write text => (.ok .null, c.write text)
  | .peek => (.ok (.str c.capture.peek), c)
  | .depth => (.ok (.int c.capture.depth), c)
  | .start name => answer .bool (c.start name)
  | .push name => answer .bool (c.push name)
  | .unshift name => answer .bool (c.unshift name)
  | .stop => answer nothing c.stop
  | .section name default => (.ok ((c.store.sections.value? name).elim default .str), c)
  | .startSection name default => answer shown (c.startSection name default)
  | .stopSection => answer nothing c.stopSection
  | .hasSection name => (.ok (.bool (c.store.hasSection name)), c)
  | .modeOf name => (.ok (.mode (c.store.modeOf name)), c)
  | .modeNumber name => (.ok (.int (c.store.modeOf name).number), c)
  | .isOpen => (.ok (.bool c.store.isOpen), c)
  | .setContent text => (.ok .null, { c with store := c.store.setContent text })
  | .adopt sections modes => (.ok .null, { c with store := c.store.adopt sections modes })

/-- Whether an operation acts on the capture behind the back of the store. -/
def isRaw : CanvasOperation → Bool
  | .openRegion | .closeRegion | .discard | .unwind _ => true
  | _ => false

end CanvasOperation

end TemplateEngine
