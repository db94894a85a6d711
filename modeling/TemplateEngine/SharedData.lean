import TemplateEngine.Value

/-!
# Data shared with templates

Data is shared with all templates or scoped to named ones. What a template starts with is the
shared data overlaid by the data scoped to its name.

## Main definitions

* `SharedData`: shared and scoped data.
* `SharedData.share`, `SharedData.shareWith`: adding data.
* `SharedData.forTemplate`: what a template starts with.
-/

namespace TemplateEngine

/-- Data shared with all templates, and data scoped to templates by name. -/
structure SharedData where
  shared : Dictionary Value := []
  byName : Dictionary (Dictionary Value) := []
  deriving Inhabited

namespace SharedData

/-- Adds data for all templates. -/
def share (d : SharedData) (data : Dictionary Value) : SharedData :=
  { d with shared := d.shared.overlay data }

/-- The data scoped to a template. -/
def scopedTo (d : SharedData) (name : String) : Dictionary Value := (d.byName.value? name).getD []

/-- Adds data for one template. -/
def scopeOne (d : SharedData) (data : Dictionary Value) (name : String) : SharedData :=
  { d with byName := d.byName.put name ((d.scopedTo name).overlay data) }

/-- Adds data for some templates. -/
def shareWith (d : SharedData) (data : Dictionary Value) : List String → SharedData
  | [] => d
  | name :: rest => shareWith (d.scopeOne data name) data rest

/-- What a template of a given name starts with. -/
def forTemplate (d : SharedData) (name : String) : Dictionary Value :=
  d.shared.overlay (d.scopedTo name)

/-- Scoped data of one template is not seen by another one. -/
theorem scopedTo_scopeOne (d : SharedData) (data : Dictionary Value) (name other : String) :
    (d.scopeOne data name).scopedTo other =
      if name = other then (d.scopedTo name).overlay data else d.scopedTo other := by
  simp only [scopeOne, scopedTo, Dictionary.value?_put]
  split <;> simp_all

end SharedData

end TemplateEngine
