import TemplateEngine.Folder
import TemplateEngine.Text.Split

/-!
# Template names

A template name is the name of a file for the default directory, or the name of a folder and of
a file with the folder separator between them.

## Main definitions

* `TemplateName`: a name taken apart.
* `TemplateName.parse`: takes a name apart.
* `TemplateName.candidates`: the paths to try, in order.
* `TemplateName.locate`: the first candidate that is a file.
-/

namespace TemplateEngine

/-- The separator between the name of a folder and that of a file. -/
def folderSeparator : String := "::"

/-- A template name taken apart. -/
structure TemplateName where
  /-- The name as it was given. -/
  name : String
  /-- The file with its extension. -/
  file : String
  /-- The folder that the name refers to, if any. -/
  folder : Option Folder := none
  deriving DecidableEq, Repr, Inhabited

namespace TemplateName

/-- The file part of a name with the extension behind a point. An empty extension is none. -/
def withExtension (file : String) (extension : Option String) : String :=
  match extension with
  | none => file
  | some extension => if extension = "" then file else file ++ "." ++ extension

/-- A name with its file part and folder, unless the file part is empty. -/
def ofParts (name file : String) (folder : Option Folder) (extension : Option String) :
    Except Fault TemplateName :=
  if file = "" then .error (.filePartEmpty name)
  else .ok ⟨name, withExtension file extension, folder⟩

/-- Takes a name apart. -/
def parse (name : String) (folders : Folders) (extension : Option String) :
    Except Fault TemplateName :=
  match Text.splitAt folderSeparator name with
  | [file] => ofParts name file none extension
  | [folder, file] =>
    if folder = "" then .error (.folderPartEmpty name)
    else match folders.fetch folder with
      | .error fault => .error fault
      | .ok found => ofParts name file (some found) extension
  | _ => .error (.separatorRepeated name)

/-- The paths to try for a name: the folder first, and the default directory for a plain name or
for a folder that falls back. -/
def candidates (n : TemplateName) (directory : Option Path) : List Path :=
  match n.folder with
  | none => (directory.map (·.joinText n.file)).toList
  | some folder =>
    folder.path.joinText n.file ::
      (if folder.fallback then (directory.map (·.joinText n.file)).toList else [])

/-- The first path that leads to a file, unless the look-up of one before it is refused. -/
def firstFile (files : FileTree) : List Path → Except Fault (Option Path)
  | [] => .ok none
  | path :: rest => do if ← files.isFile path then pure (some path) else firstFile files rest

/-- The first candidate that is a file. -/
def locate (n : TemplateName) (directory : Option Path) (files : FileTree) : Except Fault Path :=
  match n.candidates directory with
  | [] => .error (.templateWithoutDirectory n.name)
  | paths => do
    match ← firstFile files paths with
    | some path => pure path
    | none => .error (.templateNotFound n.name paths)

/-- Paths that lead to no files are passed over. -/
theorem firstFile_append {files : FileTree} {before rest : List Path}
    (hbefore : ∀ other ∈ before, files.isFile other = .ok false) :
    firstFile files (before ++ rest) = firstFile files rest := by
  induction before with
  | nil => rfl
  | cons first before ih =>
    obtain ⟨hfirst, hbefore⟩ := List.forall_mem_cons.mp hbefore
    rw [List.cons_append, firstFile, hfirst]
    exact ih hbefore

/-- What is found first is decided by a path that leads to a file or to a refusal, while those
before it lead to no files, or else no path leads to a file. -/
theorem firstFile_cases (files : FileTree) (paths : List Path) :
    (∃ before path after, paths = before ++ path :: after ∧
      (∀ other ∈ before, files.isFile other = .ok false) ∧
      ((files.isFile path = .ok true ∧ firstFile files paths = .ok (some path)) ∨
        ∃ fault, files.isFile path = .error fault ∧ firstFile files paths = .error fault)) ∨
    (∀ path ∈ paths, files.isFile path = .ok false) ∧ firstFile files paths = .ok none := by
  induction paths with
  | nil => exact .inr ⟨List.forall_mem_nil _, rfl⟩
  | cons first rest ih =>
    cases hfirst : files.isFile first with
    | error fault =>
      exact .inl ⟨[], first, rest, rfl, List.forall_mem_nil _,
        .inr ⟨fault, hfirst, by rw [firstFile, hfirst]; rfl⟩⟩
    | ok isFile =>
      cases isFile with
      | true =>
        exact .inl ⟨[], first, rest, rfl, List.forall_mem_nil _,
          .inl ⟨hfirst, by rw [firstFile, hfirst]; rfl⟩⟩
      | false =>
        have hrest : firstFile files (first :: rest) = firstFile files rest := by
          rw [firstFile, hfirst]
          rfl
        rw [hrest]
        rcases ih with ⟨before, path, after, rfl, hbefore, hpath⟩ | ⟨hnone, hfirstFile⟩
        · exact .inl ⟨first :: before, path, after, rfl,
            List.forall_mem_cons.mpr ⟨hfirst, hbefore⟩, hpath⟩
        · exact .inr ⟨List.forall_mem_cons.mpr ⟨hfirst, hnone⟩, hfirstFile⟩

/-- A path that is found first leads to a file and is one of those given. -/
theorem isFile_of_firstFile {files : FileTree} {paths : List Path} {path : Path}
    (h : firstFile files paths = .ok (some path)) :
    files.isFile path = .ok true ∧ path ∈ paths := by
  rcases firstFile_cases files paths with ⟨before, first, after, rfl, -, hfirst⟩ | ⟨-, hnone⟩
  · rcases hfirst with ⟨hfile, hfound⟩ | ⟨fault, -, hrefused⟩
    · cases hfound.symm.trans h
      exact ⟨hfile, List.mem_append_right before List.mem_cons_self⟩
    · cases hrefused.symm.trans h
  · cases hnone.symm.trans h

/-- A path that was located is a file and one of the candidates. -/
theorem isFile_of_locate {n : TemplateName} {directory : Option Path} {files : FileTree}
    {path : Path} (h : n.locate directory files = .ok path) :
    files.isFile path = .ok true ∧ path ∈ n.candidates directory := by
  unfold locate at h
  split at h
  · cases h
  · next paths _ =>
    obtain ⟨found, hfirst, hfound⟩ := exists_of_bind_ok h
    cases found with
    | none => cases hfound
    | some found =>
      cases hfound
      exact isFile_of_firstFile hfirst

end TemplateName

end TemplateEngine
