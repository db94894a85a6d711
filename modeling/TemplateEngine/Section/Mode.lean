/-!
# How repeated writes to one section combine

## Main definitions

* `SectionMode`: the three ways, with their names and numbers.
-/

namespace TemplateEngine

/-- How repeated writes to one section combine. -/
inductive SectionMode where
  /-- The first text stays and later ones are skipped. -/
  | once
  /-- A later text goes before what is there. -/
  | prepend
  /-- A later text goes after what is there. -/
  | append
  deriving DecidableEq, Repr, Inhabited

namespace SectionMode

/-- The name of a mode. -/
def name : SectionMode → String
  | .once => "REWRITE"
  | .prepend => "PREPEND"
  | .append => "APPEND"

/-- The number of a mode. -/
def number : SectionMode → Nat
  | .once => 1
  | .prepend => 2
  | .append => 3

/-- The mode with a given name. -/
def ofName? (name : String) : Option SectionMode :=
  [once, prepend, append].find? (·.name = name)

/-- The mode with a given number. -/
def ofNumber? (number : Int) : Option SectionMode :=
  [once, prepend, append].find? (fun mode => (mode.number : Int) = number)

end SectionMode

end TemplateEngine
