import TemplateEngine.Section.Store

/-!
# A template in the course of one render

A template has a name, the data that its body sees, its sections, and the layout that its body
declared.

## Main definitions

* `Template`: name, data, sections and layout.
* `Template.assign`, `Template.declare`, `Template.takeSections`.
-/

namespace TemplateEngine

/-- A template in the course of one render. -/
structure Template where
  name : String
  data : Dictionary Value := []
  store : SectionStore := {}
  layoutName : Option String := none
  layoutData : Dictionary Value := []
  deriving Inhabited

namespace Template

/-- Merges data into that of the template. -/
def assign (t : Template) (data : Dictionary Value) : Template :=
  { t with data := t.data.overlay data }

/-- Declares the layout. It receives the data that the template holds now, overlaid by what is
given here; if there is nothing to overlay it with, the data for the layout stay as they are. -/
def declare (t : Template) (name : Option String) (data : Option (Dictionary Value)) : Template :=
  { t with layoutName := name, layoutData := data.elim t.layoutData t.data.overlay }

/-- Takes over the sections and modes of another template. -/
def takeSections (t other : Template) : Template :=
  { t with store := t.store.adopt other.store.sections other.store.modes }

/-- Stores a text as the content section. -/
def setContent (t : Template) (content : String) : Template :=
  { t with store := t.store.setContent content }

@[simp] theorem layoutData_setContent (t : Template) (content : String) :
    (t.setContent content).layoutData = t.layoutData := rfl

/-- The data that another template is rendered with: what is given, on top of the own data if that
is asked for. -/
def dataFor (t : Template) (data : Dictionary Value) (withOwnData : Bool) : Dictionary Value :=
  if withOwnData then t.data.overlay data else data

/-- The template as it shows itself. -/
def state (t : Template) : Value :=
  .dict [("open", .ofText? t.store.openName), ("mode", .mode t.store.workingMode),
    ("sections", .dict (t.store.sections.mapValues .str)),
    ("modes", .dict (t.store.modes.mapValues .mode)), ("layout", .ofText? t.layoutName),
    ("data", .dict t.data)]

end Template

end TemplateEngine
