/-!
# File paths as text

A path is a count of leading slashes and a list of steps. Reading a path drops empty steps
and steps that stay where they are; a step to the parent is kept, because what it means
depends on the files. Exactly two leading slashes stay two, any other number is none or one.

## Main definitions

* `Path`: leading slashes and steps.
* `Path.ofText`, `Path.text`: reading and writing.
* `Path.ofOutside?`: a path that may be given from outside.
* `Path.join`: a path continued by another one; an absolute right side replaces the left side.
* `Path.parent`: the path without its last step.
* `Path.ofHome`, `Path.expandHome`: a home directory, and it in place of a leading tilde.
* `Path.normalSteps`: the steps with parent steps carried out on the text alone.
-/

namespace TemplateEngine

/-- How a path begins: nowhere, at the root, or at the root behind two slashes. -/
inductive Path.Anchor where
  | relative
  | single
  | double
  deriving DecidableEq, Repr, Inhabited

/-- A path: how it begins, and its steps. -/
structure Path where
  anchor : Path.Anchor := .relative
  steps : List String := []
  deriving DecidableEq, Repr, Inhabited

namespace Path

/-- The pieces of a list of characters between slashes. -/
def pieces : List Char → List (List Char)
  | [] => [[]]
  | c :: rest =>
    if c = '/' then [] :: pieces rest
    else match pieces rest with
      | [] => [[c]]
      | piece :: others => (c :: piece) :: others

/-- A piece of a path is a step unless it is empty or stays where it is. -/
def isStep (piece : List Char) : Bool := piece ≠ [] && piece ≠ ['.']

/-- How a text begins: exactly two slashes are a beginning of their own. -/
def anchorOf : List Char → Anchor
  | '/' :: '/' :: '/' :: _ => .single
  | '/' :: '/' :: _ => .double
  | '/' :: _ => .single
  | _ => .relative

/-- Reads a path. -/
def ofText (text : String) : Path where
  anchor := anchorOf text.toList
  steps := ((pieces text.toList).filter isStep).map String.ofList

/-- The path that a text given from outside names; an empty text counts as none. -/
def ofOutside? : Option String → Option Path
  | none => none
  | some text => if text = "" then none else some (ofText text)

/-- The slashes a path begins with. -/
def Anchor.text : Anchor → String
  | .relative => ""
  | .single => "/"
  | .double => "//"

/-- Writes a path; the empty relative path is written as a point. -/
def text (p : Path) : String :=
  if p.anchor = .relative ∧ p.steps = [] then "."
  else p.anchor.text ++ String.intercalate "/" p.steps

/-- Whether a path begins at the root. -/
def isAbsolute (p : Path) : Bool := p.anchor ≠ .relative

/-- A path continued by another one; an absolute right side replaces the left side. -/
def join (p q : Path) : Path :=
  if q.isAbsolute then q else { p with steps := p.steps ++ q.steps }

/-- A path continued by steps. -/
def onward (p : Path) (steps : List String) : Path := { p with steps := p.steps ++ steps }

/-- A path continued by a text. -/
def joinText (p : Path) (text : String) : Path := p.join (ofText text)

/-- The path without its last step. -/
def parent (p : Path) : Path := { p with steps := p.steps.dropLast }

/-- The last step, empty if there is none. -/
def name (p : Path) : String := p.steps.getLast?.getD ""

/-- The path of a home directory: the root if its text is empty or made of slashes alone. -/
def ofHome (text : String) : Path :=
  if text.toList.all (· = '/') then { anchor := .single } else ofText text

/-- Puts a home directory in place of a leading tilde. The name behind the tilde tells whose it is;
without a name it is that of the current user. There is no path if the home directory is not known,
or begins with a tilde itself. -/
def expandHome (p : Path) (home : String → Option String) : Option Path :=
  match p.anchor, p.steps with
  | .relative, first :: rest =>
    match first.toList with
    | '~' :: user =>
      match home (String.ofList user) with
      | some text =>
        if text.toList.head? = some '~' then none
        else some ((ofHome text).onward rest)
      | none => none
    | _ => some p
  | _, _ => some p

/-- Carries out the parent steps on the text alone. A parent step with nothing before it is
kept in a relative path and dropped at the root. The first argument holds the steps so far,
latest first. -/
def normalStepsFrom (absolute : Bool) : List String → List String → List String
  | done, [] => done.reverse
  | done, step :: rest =>
    if step = ".." then
      match done with
      | last :: before =>
        if last = ".." then normalStepsFrom absolute (step :: done) rest
        else normalStepsFrom absolute before rest
      | [] => normalStepsFrom absolute (if absolute then [] else [step]) rest
    else normalStepsFrom absolute (step :: done) rest

/-- The steps of a path with its parent steps carried out on the text alone. -/
def normalSteps (p : Path) : List String := normalStepsFrom p.isAbsolute [] p.steps

@[simp] theorem join_absolute (p q : Path) (h : q.isAbsolute = true) : p.join q = q := by
  simp [join, h]

theorem join_relative (p q : Path) (h : q.isAbsolute = false) :
    p.join q = { p with steps := p.steps ++ q.steps } := by
  simp [join, h]

theorem pieces_of_not_mem {text : List Char} (h : '/' ∉ text) : pieces text = [text] := by
  induction text with
  | nil => rfl
  | cons c rest ih =>
    simp only [List.mem_cons, not_or] at h
    rw [pieces, if_neg (Ne.symm h.1), ih h.2]

theorem anchorOf_of_not_mem {text : List Char} (h : '/' ∉ text) : anchorOf text = .relative := by
  unfold anchorOf
  split <;> simp_all

/-- A text of two characters or more without slashes is a single step. -/
theorem ofText_of_not_mem {text : String} (h : '/' ∉ text.toList) (hlength : 1 < text.length) :
    ofText text = { steps := [text] } := by
  have hstep : isStep text.toList = true := by
    rw [← String.length_toList] at hlength
    match text.toList, hlength with
    | _ :: _ :: _, _ => simp [isStep]
  rw [ofText, anchorOf_of_not_mem h, pieces_of_not_mem h]
  simp [hstep]

end Path

end TemplateEngine
