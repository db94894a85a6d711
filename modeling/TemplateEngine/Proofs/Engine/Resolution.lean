import TemplateEngine.Proofs.Engine.Repertoire
import TemplateEngine.Proofs.Text.Pieces
import TemplateEngine.Render

/-!
# How names are resolved

A name is registered, or it cannot be read, or one of the places where its file may be holds a file,
or the look-up of one of them is refused, or none holds a file. These cases exclude each other. All
that can be asked about a name, of the engine or of a template, is answered in line with the case at
hand.

## Main definitions

* `TemplateName.places`: the paths at which the file of a name is looked for.
* `Resolution`, `Stage.Resolves`: the five cases.
* `Stage.Answers`: the answers to the questions for path and existence.
* `Stage.AnswersAs`: all answers in a given case.

## Main results

* `Stage.resolves_iff`: there is exactly one case.
* `Stage.resolution_agrees`: all answers are in line with it.
* `Stage.not_missing_letters`: a name that is too long for a file is not the name of a missing one.
-/

namespace TemplateEngine

/-- The paths that a fault tells to have been tried. -/
def Fault.tried : Fault → List Path
  | .templateNotFound _ tried => tried
  | _ => []

/-- The fault that a template has no file at the places that were tried, of which there may be
none. -/
def Fault.notFound (name : String) (tried : List Path) : Fault :=
  if tried = [] then .templateWithoutDirectory name else .templateNotFound name tried

namespace TemplateName

/-- The directories in which the file of a name is looked for: that of the folder first, and then
the default directory, if there is one, unless the folder does not fall back. -/
def searched (n : TemplateName) (directory : Option Path) : List Path :=
  (n.folder.map Folder.path).toList ++
    if n.folder.all Folder.fallback then directory.toList else []

/-- The paths at which the file of a name is looked for, in order. -/
def places (n : TemplateName) (directory : Option Path) : List Path :=
  (n.searched directory).map (·.joinText n.file)

end TemplateName

/-- How a name is resolved. -/
inductive Resolution where
  | registered (body : Program Unit)
  | unreadable (fault : Fault)
  | found (path : Path)
  | refused (fault : Fault)
  | missing (tried : List Path)

namespace Stage

/-- Whether a name is registered, cannot be read, has a file at the first of its places that holds
one, is looked for at a place that the program is refused before any that holds a file, or has no
file at any of its places. -/
inductive Resolves (s : Stage) (name : String) : Resolution → Prop
  | registered {body : Program Unit} (hbody : s.engine.bodies.value? name = some body) :
    Resolves s name (.registered body)
  | unreadable {fault : Fault} (hbody : s.engine.bodies.value? name = none)
    (hparse : s.engine.parseName name = .error fault) : Resolves s name (.unreadable fault)
  | found {n : TemplateName} {before after : List Path} {path : Path}
    (hbody : s.engine.bodies.value? name = none) (hparse : s.engine.parseName name = .ok n)
    (hplaces : n.places s.engine.directory = before ++ path :: after)
    (hbefore : ∀ other ∈ before, s.files.isFile other = .ok false)
    (hfile : s.files.isFile path = .ok true) : Resolves s name (.found path)
  | refused {n : TemplateName} {before after : List Path} {path : Path} {fault : Fault}
    (hbody : s.engine.bodies.value? name = none) (hparse : s.engine.parseName name = .ok n)
    (hplaces : n.places s.engine.directory = before ++ path :: after)
    (hbefore : ∀ other ∈ before, s.files.isFile other = .ok false)
    (hrefused : s.files.isFile path = .error fault) : Resolves s name (.refused fault)
  | missing {n : TemplateName} (hbody : s.engine.bodies.value? name = none)
    (hparse : s.engine.parseName name = .ok n)
    (hfiles : ∀ other ∈ n.places s.engine.directory, s.files.isFile other = .ok false) :
    Resolves s name (.missing (n.places s.engine.directory))

/-- What the engine, and every template of the given name, answers when asked where the template
is, and whether it is there. -/
structure Answers (s : Stage) (name : String) (resolved : Except Fault (Option Path))
    (present : Except Fault Bool) (path : Except Fault (Option Path)) : Prop where
  resolvePath_eq : s.resolvePath name = resolved
  exists_eq : s.templateExists name = present
  path_eq : s.templatePath name = path
  template_exists_eq : ∀ (nested : Nested) (template : Template), template.name = name →
    perform nested .exists? ⟨template, s⟩ = some (present.map .bool, ⟨template, s⟩)
  template_path_eq : ∀ (nested : Nested) (template : Template), template.name = name →
    perform nested .path ⟨template, s⟩ =
      some (path.map fun p => p.elim .null .path, ⟨template, s⟩)

/-- Everything that is asked about a name ends in the same fault. -/
structure Fails (s : Stage) (name : String) (fault : Fault) : Prop where
  answers : s.Answers name (.error fault) (.error fault) (.error fault)
  body_eq : s.body name = (.error fault, s)

/-- All answers about a name in one of the five cases. The body of a file is the one that is kept
for its path, or else that of the file as it is, or the fault of reading or compiling it. -/
def AnswersAs (s : Stage) (name : String) : Resolution → Prop
  | .registered body =>
    s.Answers name (.ok none) (.ok true) (.ok none) ∧ s.body name = (.ok body, s)
  | .unreadable fault => s.Fails name fault
  | .found path =>
    s.Answers name (.ok (some path)) (.ok true) (.ok (some path)) ∧
      match s.body name with
      | (.ok body, _) => ∃ file, body = file.body ∧ file.path = path ∧
        (s.engine.cached? path = some file ∨
          s.engine.cached? path = none ∧ s.freshlyCompiled path = .ok file)
      | (.error fault, s') =>
        s' = s ∧ s.engine.cached? path = none ∧ s.freshlyCompiled path = .error fault
  | .refused fault => fault.isA .osError = true ∧ s.Fails name fault
  | .missing tried => ∃ fault, fault.kind = .templateNotFound ∧ fault.tried = tried ∧
    s.Answers name (.error fault) (.ok false) (.ok tried.head?) ∧ s.body name = (.error fault, s)

end Stage

/-! ### Places of files -/

theorem Fault.kind_notFound (name : String) (tried : List Path) :
    (notFound name tried).kind = .templateNotFound := by
  unfold notFound
  split <;> rfl

theorem Fault.tried_notFound (name : String) (tried : List Path) :
    (notFound name tried).tried = tried := by
  unfold notFound
  split
  · next h => exact h.symm
  · rfl

namespace TemplateName

variable {n : TemplateName} {directory : Option Path} {files : FileTree}

/-- The candidates are the file of the name in the searched directories. -/
theorem candidates_eq (n : TemplateName) (directory : Option Path) :
    n.candidates directory = n.places directory := by
  unfold candidates places searched
  cases n.folder with
  | none => cases directory <;> rfl
  | some folder => by_cases h : folder.fallback <;> cases directory <;> simp [h]

/-- The first candidate that is a file is located, or the fault tells all of them. -/
theorem locate_eq (n : TemplateName) (directory : Option Path) (files : FileTree) :
    n.locate directory files = match firstFile files (n.places directory) with
      | .ok (some path) => .ok path
      | .ok none => .error (.notFound n.name (n.places directory))
      | .error fault => .error fault := by
  unfold locate Fault.notFound
  rw [n.candidates_eq]
  cases n.places directory with
  | nil => rfl
  | cons first rest =>
    rcases hfirst : firstFile files (first :: rest) with fault | _ | path
    · simp [hfirst, bind, Except.bind]
    · simp [hfirst, bind, Except.bind]
    · simp [hfirst, bind, Except.bind, pure, Except.pure]

/-- A name that cannot be read is no name of which the file is missing. -/
theorem isA_of_parse {name : String} {folders : Folders} {extension : Option String}
    {fault : Fault} (h : parse name folders extension = .error fault) :
    fault.isA .templateNotFound = false := by
  have hparts {file : String} {folder : Option Folder}
      (h : ofParts name file folder extension = .error fault) :
      fault.isA .templateNotFound = false := by
    unfold ofParts at h
    split at h
    · cases h
      rfl
    · cases h
  unfold parse at h
  split at h
  · exact hparts h
  · next folder file _ =>
    by_cases hempty : folder = ""
    · rw [if_pos hempty] at h
      cases h
      rfl
    · rw [if_neg hempty] at h
      unfold Folders.fetch at h
      cases hfolder : folders.named? folder with
      | none =>
        simp only [hfolder, Except.error.injEq] at h
        rw [← h]
        rfl
      | some found =>
        simp only [hfolder] at h
        exact hparts h
  · cases h
    rfl

end TemplateName

namespace Stage

variable {s : Stage} {name : String}

/-! ### The five cases -/

/-- The case of a name, computed. -/
def resolution (s : Stage) (name : String) : Resolution :=
  match s.engine.bodies.value? name with
  | some body => .registered body
  | none =>
    match s.engine.parseName name with
    | .error fault => .unreadable fault
    | .ok n =>
      match TemplateName.firstFile s.files (n.places s.engine.directory) with
      | .ok (some path) => .found path
      | .ok none => .missing (n.places s.engine.directory)
      | .error fault => .refused fault

/-- Behind places that hold no files, the first file is at the place that comes next. -/
theorem firstFile_places {n : TemplateName} {before after : List Path} {path : Path}
    (hplaces : n.places s.engine.directory = before ++ path :: after)
    (hbefore : ∀ other ∈ before, s.files.isFile other = .ok false) :
    TemplateName.firstFile s.files (n.places s.engine.directory) =
      TemplateName.firstFile s.files (path :: after) := by
  rw [hplaces]
  exact TemplateName.firstFile_append hbefore

/-- What a place that holds a file, or that the program is refused, decides. -/
theorem firstFile_of_isFile {path : Path} {after : List Path} {answer : Except Fault Bool}
    (hanswer : s.files.isFile path = answer) (hdecides : answer ≠ .ok false) :
    TemplateName.firstFile s.files (path :: after) = answer.map fun _ => some path := by
  rw [TemplateName.firstFile, hanswer]
  rcases answer with fault | _ | _
  · rfl
  · exact absurd rfl hdecides
  · rfl

/-- Places none of which holds a file. -/
theorem firstFile_of_missing {paths : List Path}
    (hfiles : ∀ other ∈ paths, s.files.isFile other = .ok false) :
    TemplateName.firstFile s.files paths = .ok none := by
  have happend : TemplateName.firstFile s.files (paths ++ []) = TemplateName.firstFile s.files [] :=
    TemplateName.firstFile_append hfiles
  rw [List.append_nil] at happend
  rw [happend]
  rfl

/-- A name is in exactly one case. -/
theorem resolves_iff {r : Resolution} : s.Resolves name r ↔ r = s.resolution name := by
  constructor
  · intro h
    unfold resolution
    cases h with
    | registered hbody => rw [hbody]
    | unreadable hbody hparse => simp only [hbody, hparse]
    | found hbody hparse hplaces hbefore hfile =>
      simp only [hbody, hparse, firstFile_places hplaces hbefore,
        firstFile_of_isFile hfile (by simp), Except.map]
    | refused hbody hparse hplaces hbefore hrefused =>
      simp only [hbody, hparse, firstFile_places hplaces hbefore,
        firstFile_of_isFile hrefused (by simp), Except.map]
    | missing hbody hparse hfiles =>
      simp only [hbody, hparse, firstFile_of_missing hfiles]
  · rintro rfl
    unfold resolution
    cases hbody : s.engine.bodies.value? name with
    | some body => exact .registered hbody
    | none =>
      cases hparse : s.engine.parseName name with
      | error fault => exact .unreadable hbody hparse
      | ok n =>
        rcases TemplateName.firstFile_cases s.files (n.places s.engine.directory) with
          ⟨before, path, after, hplaces, hbefore, ⟨hfile, hfirst⟩ | ⟨fault, hrefused, hfirst⟩⟩ |
          ⟨hfiles, hfirst⟩
        · simp only [hfirst]
          exact .found hbody hparse hplaces hbefore hfile
        · simp only [hfirst]
          exact .refused hbody hparse hplaces hbefore hrefused
        · simp only [hfirst]
          exact .missing hbody hparse hfiles

/-! ### The answers -/

/-- All answers about the place of a file follow from what the path resolves to. -/
theorem answers_of_resolvePath {resolved : Except Fault (Option Path)}
    {present : Except Fault Bool} {path : Except Fault (Option Path)}
    (hresolved : s.resolvePath name = resolved) (hpresent : s.templateExists name = present)
    (hpath : s.templatePath name = path) : s.Answers name resolved present path where
  resolvePath_eq := hresolved
  exists_eq := hpresent
  path_eq := hpath
  template_exists_eq _ template htemplate := by
    rw [← hpresent, ← htemplate]
    rfl
  template_path_eq _ template htemplate := by
    rw [← hpath, ← htemplate]
    rfl

theorem answers_of_ok {path : Option Path} (h : s.resolvePath name = .ok path) :
    s.Answers name (.ok path) (.ok true) (.ok path) :=
  answers_of_resolvePath h (by simp [templateExists, h]) (by simp [templatePath, h])

theorem answers_of_fault {fault : Fault} (h : s.resolvePath name = .error fault)
    (hfault : fault.isA .templateNotFound = false) :
    s.Answers name (.error fault) (.error fault) (.error fault) := by
  refine answers_of_resolvePath h (by simp [templateExists, h, hfault]) ?_
  unfold templatePath
  rw [h]
  cases fault <;> first | rfl | cases hfault

/-- A fault other than that of a missing file is the answer to everything. -/
theorem fails_of_resolvePath {fault : Fault} (hbody : s.engine.bodies.value? name = none)
    (h : s.resolvePath name = .error fault) (hfault : fault.isA .templateNotFound = false) :
    s.Fails name fault :=
  ⟨answers_of_fault h hfault, by simp [body, hbody, h]⟩

theorem answers_of_missing {owner : String} {tried : List Path}
    (h : s.resolvePath name = .error (.notFound owner tried)) :
    s.Answers name (.error (.notFound owner tried)) (.ok false) (.ok tried.head?) := by
  have hfault : (Fault.notFound owner tried).isA .templateNotFound = true := by
    rw [Fault.isA, Fault.kind_notFound, FaultKind.isA_self]
  refine answers_of_resolvePath h (by simp [templateExists, h, hfault]) ?_
  unfold templatePath
  rw [h, Fault.notFound]
  cases tried with
  | nil => rfl
  | cons first rest => rfl

/-- What a name resolves to if it is not registered and can be read. -/
theorem resolvePath_of_parsed {n : TemplateName} (hbody : s.engine.bodies.value? name = none)
    (hparse : s.engine.parseName name = .ok n) :
    s.resolvePath name = (n.locate s.engine.directory s.files).map some := by
  simp [resolvePath, Engine.isRegistered, Dictionary.holds, hbody, hparse]

/-- The body of a name that resolves to a path is that of the compiled file of the path. -/
theorem body_of_resolved {path : Path} (hbody : s.engine.bodies.value? name = none)
    (hresolved : s.resolvePath name = .ok (some path)) :
    s.body name = ((s.compiledFile path).1.map CompiledFile.body, (s.compiledFile path).2) := by
  unfold body
  rw [hbody, hresolved]
  rcases hfile : s.compiledFile path with ⟨fault | file, s'⟩ <;> simp [hfile, Except.map]

/-- A file that was found is the one that is kept for its path, or else a freshly compiled one. -/
theorem compiledFile_ok_inv {path : Path} {file : CompiledFile}
    (h : (s.compiledFile path).1 = .ok file) :
    file.path = path ∧ (s.engine.cached? path = some file ∨
      s.engine.cached? path = none ∧ s.freshlyCompiled path = .ok file) := by
  rw [compiledFile_fst] at h
  cases hcached : s.engine.cached? path with
  | some kept =>
    simp only [hcached, Except.ok.injEq] at h
    subst h
    have hpath := List.find?_some hcached
    exact ⟨by simpa using hpath, .inl rfl⟩
  | none =>
    rw [hcached] at h
    obtain ⟨source, generate, -, -, rfl⟩ := freshlyCompiled_ok_inv h
    exact ⟨rfl, .inr ⟨rfl, h⟩⟩

/-- If no file was found, none is kept, and the file could not be read or compiled. -/
theorem compiledFile_error_inv {path : Path} {fault : Fault}
    (h : (s.compiledFile path).1 = .error fault) :
    (s.compiledFile path).2 = s ∧ s.engine.cached? path = none ∧
      s.freshlyCompiled path = .error fault := by
  have hfirst := s.compiledFile_fst path
  rw [h] at hfirst
  cases hcached : s.engine.cached? path with
  | some kept => simp [hcached] at hfirst
  | none =>
    rw [hcached] at hfirst
    refine ⟨?_, rfl, hfirst.symm⟩
    rcases s.compiledFile_snd path with hsame | ⟨file, -, hfile, -, -⟩
    · exact hsame
    · rw [hfile] at hfirst
      cases hfirst

/-- All answers about a name are in line with the case that it is in. -/
theorem Resolves.answersAs {r : Resolution} (h : s.Resolves name r) : s.AnswersAs name r := by
  cases h with
  | @registered body hbody =>
    have hresolved : s.resolvePath name = .ok none := by
      simp [resolvePath, Engine.isRegistered, Dictionary.holds, hbody]
    exact ⟨answers_of_ok hresolved, s.body_of_registered name body hbody⟩
  | @unreadable fault hbody hparse =>
    have hresolved : s.resolvePath name = .error fault := by
      simp [resolvePath, Engine.isRegistered, Dictionary.holds, hbody, hparse]
    exact fails_of_resolvePath hbody hresolved (TemplateName.isA_of_parse hparse)
  | @found n before after path hbody hparse hplaces hbefore hfile =>
    have hresolved : s.resolvePath name = .ok (some path) := by
      rw [resolvePath_of_parsed hbody hparse, n.locate_eq, firstFile_places hplaces hbefore,
        firstFile_of_isFile hfile (by simp)]
      rfl
    refine ⟨answers_of_ok hresolved, ?_⟩
    rw [body_of_resolved hbody hresolved]
    cases hcompiled : (s.compiledFile path).1 with
    | error fault => exact compiledFile_error_inv hcompiled
    | ok file => exact ⟨file, rfl, compiledFile_ok_inv hcompiled⟩
  | @refused n before after path fault hbody hparse hplaces hbefore hrefused =>
    have hresolved : s.resolvePath name = .error fault := by
      rw [resolvePath_of_parsed hbody hparse, n.locate_eq, firstFile_places hplaces hbefore,
        firstFile_of_isFile hrefused (by simp)]
      rfl
    obtain ⟨refusal, rfl⟩ := FileTree.exists_of_answer_error hrefused
    exact ⟨refusal.isA_osError, fails_of_resolvePath hbody hresolved refusal.isA_templateNotFound⟩
  | @missing n hbody hparse hfiles =>
    have hresolved : s.resolvePath name =
        .error (.notFound n.name (n.places s.engine.directory)) := by
      rw [resolvePath_of_parsed hbody hparse, n.locate_eq, firstFile_of_missing hfiles]
      rfl
    exact ⟨_, Fault.kind_notFound _ _, Fault.tried_notFound _ _, answers_of_missing hresolved,
      by simp [body, hbody, hresolved]⟩

/-- A name is in exactly one of five cases, and whatever is asked about it, of the engine or of a
template with that name, is answered in line with it. -/
theorem resolution_agrees (s : Stage) (name : String) :
    ∃ r, s.Resolves name r ∧ (∀ r', s.Resolves name r' → r' = r) ∧ s.AnswersAs name r := by
  have h : s.Resolves name (s.resolution name) := resolves_iff.mpr rfl
  exact ⟨_, h, fun _ h' => resolves_iff.mp h', h.answersAs⟩

/-- A stage whose default directory is the working directory, which is empty. -/
def bare : Stage where
  engine := { directory := some {} }

/-- The file of a plain name that is too long cannot be looked up. -/
theorem resolves_bare_of_longName {name : String} (hseparator : ':' ∉ name.toList)
    (hslash : '/' ∉ name.toList) (hsize : 255 < name.utf8ByteSize) :
    bare.Resolves name (.refused (.plain .osError)) := by
  let file : String := name ++ "." ++ defaultExtension
  have hname : name ≠ "" := by
    rintro rfl
    exact absurd hsize (by decide)
  have hsplit : Text.splitAt folderSeparator name = [name] :=
    Text.splitAt_of_not_infix (by decide) fun hinside =>
      hseparator (List.IsInfix.subset hinside (by decide))
  have hparse : bare.engine.parseName name = .ok ⟨name, file, none⟩ := by
    change TemplateName.parse name [] (some defaultExtension) = _
    rw [TemplateName.parse, hsplit]
    simp only [TemplateName.ofParts, if_neg hname]
    rfl
  have hsteps : ({} : Path).joinText file = { steps := [file] } := by
    have hfile : '/' ∉ file.toList := by
      simp only [file, String.toList_append, List.mem_append, not_or]
      exact ⟨⟨hslash, by decide⟩, by decide⟩
    have hlength : 1 < file.length := by
      simp only [file, String.length_append, defaultExtension]
      exact Nat.lt_add_left _ (by decide)
    rw [Path.joinText, Path.ofText_of_not_mem hfile hlength]
    rfl
  have hlong : 255 < file.utf8ByteSize := by
    simp only [file, String.utf8ByteSize_append]
    omega
  have hrefused : bare.files.isFile (({} : Path).joinText file) = .error (.plain .osError) := by
    rw [hsteps, FileTree.isFile, FileTree.answer, FileTree.refusal?_of_longStep rfl rfl hlong]
    rfl
  have hplaces : TemplateName.places ⟨name, file, none⟩ bare.engine.directory =
      [] ++ ({} : Path).joinText file :: [] := rfl
  exact .refused rfl hparse hplaces (List.forall_mem_nil _) hrefused

/-- A name of as many letters. -/
def letters (n : Nat) : String := String.ofList (List.replicate n 'a')

theorem not_mem_letters {c : Char} (hc : c ≠ 'a') (n : Nat) : c ∉ (letters n).toList := by
  simp only [letters, String.toList_ofList, List.mem_replicate]
  exact fun h => hc h.2

theorem utf8ByteSize_letters (n : Nat) : (letters n).utf8ByteSize = n := by
  induction n with
  | zero => rfl
  | succ n ih =>
    have hcons : letters (n + 1) = String.singleton 'a' ++ letters n := by
      simp [letters, List.replicate_succ, String.ofList_cons]
    rw [hcons, String.utf8ByteSize_append, ih, String.utf8ByteSize_singleton, Nat.add_comm]
    rfl

/-- A name of three hundred letters is neither that of a file nor that of a missing one: it is not
registered, it can be read, and there are no files, and everything that is asked about it ends in a
fault of the operating system. -/
theorem not_missing_letters :
    bare.engine.isRegistered (letters 300) = false ∧ bare.files.entries = [] ∧
      bare.Resolves (letters 300) (.refused (.plain .osError)) ∧
      bare.resolvePath (letters 300) = .error (.plain .osError) ∧
      bare.templateExists (letters 300) = .error (.plain .osError) ∧
      bare.templatePath (letters 300) = .error (.plain .osError) ∧
      (bare.body (letters 300)).1 = .error (.plain .osError) := by
  have hsize : 255 < (letters 300).utf8ByteSize := by
    rw [utf8ByteSize_letters]
    decide
  have h := resolves_bare_of_longName (not_mem_letters (by decide) 300)
    (not_mem_letters (by decide) 300) hsize
  obtain ⟨-, hanswers, hbody⟩ := h.answersAs
  exact ⟨rfl, rfl, h, hanswers.resolvePath_eq, hanswers.exists_eq, hanswers.path_eq,
    by rw [hbody]⟩

end Stage

end TemplateEngine
