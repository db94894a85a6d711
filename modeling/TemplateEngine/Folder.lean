import TemplateEngine.FileTree

/-!
# Template folders

A folder is a directory of templates with a name, which template names refer to. A folder may
fall back to the default directory for files that it does not hold.

## Main definitions

* `Folder`: name, directory and fallback.
* `Folders.named?`, `Folders.fetch`, `Folders.add`, `Folders.remove`.
-/

namespace TemplateEngine

/-- A named directory of templates. -/
structure Folder where
  name : String
  path : Path
  /-- Whether the default directory is searched for files that are missing here. -/
  fallback : Bool := false
  deriving DecidableEq, Repr, Inhabited

/-- Folders in order of addition. -/
abbrev Folders := List Folder

namespace Folders

/-- The folder of a given name. -/
def named? : Folders → String → Option Folder
  | [], _ => none
  | folder :: rest, name => if folder.name = name then some folder else named? rest name

/-- The folder of a given name, or the fault that there is none. -/
def fetch (folders : Folders) (name : String) : Except Fault Folder :=
  match folders.named? name with
  | some folder => .ok folder
  | none => .error (.folderNotFound name)

/-- Adds a folder at the end. Its name must be free and its directory must be there. -/
def add (folders : Folders) (files : FileTree) (folder : Folder) : Except Fault Folders :=
  if (folders.named? folder.name).isSome then .error (.folderNameTaken folder.name)
  else do
    if ← files.isDirectory folder.path then pure (folders ++ [folder])
    else .error (.folderDirectoryMissing folder.path)

/-- Removes a folder. -/
def remove (folders : Folders) (name : String) : Except Fault Folders :=
  match folders.named? name with
  | some _ => .ok (folders.filter (·.name ≠ name))
  | none => .error (.folderNotFound name)

theorem named?_append (folders others : Folders) (name : String) :
    named? (folders ++ others) name = (folders.named? name).or (others.named? name) := by
  induction folders with
  | nil => rfl
  | cons folder rest ih => by_cases h : folder.name = name <;> simp [named?, h, ih]

/-- A folder is added if its name is free and its directory is there. -/
theorem add_ok_iff {folders folders' : Folders} {files : FileTree} {folder : Folder} :
    folders.add files folder = .ok folders' ↔ folders.named? folder.name = none ∧
      files.isDirectory folder.path = .ok true ∧ folders' = folders ++ [folder] := by
  unfold add
  cases hfree : folders.named? folder.name with
  | some _ => simp
  | none =>
    rcases files.isDirectory folder.path with fault | _ | _ <;>
      simp [bind, Except.bind, pure, Except.pure, eq_comm]

/-- A folder that was added is found under its name. -/
theorem named?_add {folders folders' : Folders} {files : FileTree} {folder : Folder}
    (h : folders.add files folder = .ok folders') : folders'.named? folder.name = some folder := by
  obtain ⟨hfree, -, rfl⟩ := add_ok_iff.mp h
  simp [named?_append, hfree, named?]

end Folders

end TemplateEngine
