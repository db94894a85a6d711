import TemplateEngine.Fault

/-!
# Nested capture of written text

Text is written to the innermost open region, or outside if no region is open. Closing a
region hands out the text that it holds.

## Main definitions

* `Capture`: the open regions, innermost first, and the text written outside of them.
* `Capture.openRegion`, `Capture.closeRegion?`, `Capture.write`, `Capture.peek`.
* `Capture.unwind`: drops regions until a given number is left.

## Main results

* `Capture.closeRegion?_isNone_iff`: closing fails exactly if no region is open.
* `Capture.unwind_regions`: unwinding keeps the outermost regions as they are.
-/

namespace TemplateEngine

/-- The open regions, innermost first, and the text written while none was open. -/
structure Capture where
  regions : List String := []
  outside : String := ""
  deriving DecidableEq, Repr, Inhabited

namespace Capture

/-- The number of open regions. -/
def depth (c : Capture) : Nat := c.regions.length

/-- Opens a region inside the innermost one. -/
def openRegion (c : Capture) : Capture := { c with regions := "" :: c.regions }

/-- Closes the innermost region and hands out its text; nothing if no region is open. -/
def closeRegion? (c : Capture) : Option (String × Capture) :=
  match c.regions with
  | [] => none
  | text :: rest => some (text, { c with regions := rest })

/-- Writes to the innermost region, or outside if none is open. -/
def write (c : Capture) (text : String) : Capture :=
  match c.regions with
  | [] => { c with outside := c.outside ++ text }
  | held :: rest => { c with regions := (held ++ text) :: rest }

/-- The text of the innermost region, empty if none is open. -/
def peek (c : Capture) : String := c.regions.head?.getD ""

/-- Drops the innermost regions until a given number is left. -/
def unwind (c : Capture) (depth : Nat) : Capture :=
  { c with regions := c.regions.drop (c.depth - depth) }

/-- The number of regions that unwinding drops. -/
def excess (c : Capture) (depth : Nat) : Nat := c.depth - depth

/-- Ends the innermost region. -/
def finish (c : Capture) : Except Fault String × Capture :=
  match c.closeRegion? with
  | none => (.error .noRegionToEnd, c)
  | some (text, rest) => (.ok text, rest)

/-- Drops the innermost region. -/
def discard (c : Capture) : Except Fault Unit × Capture :=
  match c.closeRegion? with
  | none => (.error .noRegionToDiscard, c)
  | some (_, rest) => (.ok (), rest)

/-- Drops regions until a given number is left. A negative number is never reached: all regions
are dropped, and then there is no further one to drop. -/
def unwindTo (c : Capture) (depth : Int) : Except Fault Nat × Capture :=
  if depth < 0 then (.error .noRegionToDiscard, c.unwind 0)
  else (.ok (c.excess depth.toNat), c.unwind depth.toNat)

@[simp] theorem depth_openRegion (c : Capture) : c.openRegion.depth = c.depth + 1 := rfl

@[simp] theorem depth_write (c : Capture) (text : String) : (c.write text).depth = c.depth := by
  unfold write depth; split <;> simp_all

/-- Closing fails exactly if no region is open. -/
theorem closeRegion?_isNone_iff (c : Capture) : c.closeRegion? = none ↔ c.depth = 0 := by
  unfold closeRegion? depth; split <;> simp_all

/-- Text written to an open region goes behind what it holds. -/
@[simp] theorem write_openRegion (c : Capture) (text : String) :
    c.openRegion.write text = { c with regions := text :: c.regions } := by
  simp [openRegion, write]

@[simp] theorem write_outside (text held : String) :
    write ⟨[], held⟩ text = ⟨[], held ++ text⟩ := rfl

@[simp] theorem write_region (text held : String) (rest : List String) (outside : String) :
    write ⟨held :: rest, outside⟩ text = ⟨(held ++ text) :: rest, outside⟩ := rfl

/-- Writing twice is writing the two texts together. -/
theorem write_write (c : Capture) (s t : String) : (c.write s).write t = c.write (s ++ t) := by
  obtain ⟨regions, outside⟩ := c
  cases regions <;> simp [String.append_assoc]

/-- An empty text leaves everything as it is. -/
@[simp] theorem write_empty (c : Capture) : c.write "" = c := by
  obtain ⟨regions, outside⟩ := c
  cases regions <;> simp

/-- Closing a region hands out what was written to it and leaves what was there before. -/
@[simp] theorem closeRegion?_write_openRegion (c : Capture) (text : String) :
    (c.openRegion.write text).closeRegion? = some (text, c) := by
  simp [closeRegion?]

/-- Unwinding keeps the outermost regions as they are. -/
theorem unwind_regions (inner outer : List String) (outside : String) :
    unwind ⟨inner ++ outer, outside⟩ outer.length = ⟨outer, outside⟩ := by
  simp [unwind, depth]

/-- Unwinding to the depth that there is drops nothing. -/
@[simp] theorem unwind_self (c : Capture) : c.unwind c.depth = c := by simp [unwind]

/-- Unwinding leaves at most the given number of regions. -/
theorem depth_unwind (c : Capture) (n : Nat) : (c.unwind n).depth = min c.depth n := by
  simp only [unwind, depth, List.length_drop]; omega

end Capture

end TemplateEngine
